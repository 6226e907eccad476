import SensorCluster.Proofs.Frames
import SensorCluster.Proofs.SlotLife
import SensorCluster.Proofs.ValidConfig

/-!
# Filling up to the floor

Filling up takes receivers from the backup pool, one in each round, until the number of running
receivers plus the number of recoveries under way has come to the floor. Here the provisioner is the
one in memory, which always delivers. A round then either finds nothing available or adds one
running receiver, so **filling up ends at the floor or with a pool that has nothing available**
(`fillUp_floor`), and it never goes beyond the floor (`fillUp_extended`).

## What it rests on

* `Supplied`: the account of the pool is kept and the provisioner is the one in memory. Every move
  keeps this, so every state is supplied that a node built from a valid configuration reaches
  (`supplied_of_ofConfig`).
* Each round uses a slot up (`available_of_delivered`), so with more rounds than available slots the
  rounds do not run out.
* `Extended`: what a round does to the registered receivers. A registration may copy data into the
  new receiver, but it leaves everybody's id and state, and all that belongs to the fault tolerance,
  as it was (`register_frame`).
-/

namespace SensorCluster

/-- The in-memory provisioner always delivers. -/
theorem Provisioner.inMemory_ne_refused (history : List String) (slot : SlotConfig)
    (cause : ClusterError) : inMemory history slot ≠ .refused cause :=
  fun heq ↦ by cases heq

namespace Cluster

variable {c c' : Cluster}

/-! ### Rounds -/

/-- What the check relies on: the account of the pool, with the provisioner that always delivers. -/
structure Supplied (c : Cluster) : Prop where
  sound : c.core.Sound fun _ ↦ True
  account : c.core.Accounted
  provisioner : c.healing.provisioner = .inMemory

theorem Supplied.reaches (h : c.Supplied) (hreaches : c.Reaches c') : c'.Supplied where
  sound := h.sound.moves (hreaches h.sound)
  account := h.account.moves (hreaches h.sound)
  provisioner := (hreaches h.sound).fixed.1.trans h.provisioner

theorem Supplied.steady (h : c.Supplied) : c.Steady := steady_of_accounted h.sound h.account

/-- A provisioning that is refused found nothing available. -/
theorem Supplied.available_of_refused (h : c.Supplied) {cause : ClusterError}
    (hrefused : c.provision = (.error (.refused cause), c')) :
    BackupPool.available c'.healing.slots = [] := by
  obtain ⟨-, hpass⟩ := h.account.nextPass
  rcases Cluster.provision_spec c with ⟨_, _, hanswer, _⟩ | ⟨_, houtcome, _, _⟩ | ⟨_, _, hanswer, _⟩
  · rw [hrefused] at hanswer
    cases hanswer
  · have hslots := (provision_slots c).1
    rw [hrefused] at hslots
    have hnone : BackupPool.yield? c.core.nextPass = none := by rw [BackupPool.yield?, houtcome]
    rw [hnone] at hpass
    -- nobody was asked, for whoever is asked delivers
    have hasked : c.core.nextPass.asked = [] := by
      cases hasked : c.core.nextPass.asked with
      | nil => rfl
      | cons id after =>
        have hfirst : c.core.nextPass.asked = [] ++ id :: after := hasked
        obtain ⟨slot, -, -, cause, hanswer⟩ := hpass.refused_of_asked hfirst (.inr rfl)
        rw [show c.core.provisioner = .inMemory from h.provisioner] at hanswer
        exact absurd hanswer (Provisioner.inMemory_ne_refused _ _ _)
    have hbefore : BackupPool.available c.core.slots = [] := by
      rw [← hpass.asked_available.2 rfl, hasked]
    have hle := hpass.length_available
    rw [hbefore, ← hslots] at hle
    exact List.eq_nil_of_length_eq_zero (Nat.le_zero.1 hle)
  · rw [hrefused] at hanswer
    cases hanswer

/-- A provisioning that delivers has used a slot up. -/
theorem Supplied.available_of_delivered (h : c.Supplied) {ref : ReplicaRef}
    (hdelivered : c.provision = (.ok ref, c')) :
    (BackupPool.available c'.healing.slots).length <
      (BackupPool.available c.healing.slots).length := by
  obtain ⟨-, hpass⟩ := h.account.nextPass
  rcases Cluster.provision_spec c with ⟨r, houtcome, _, _⟩ | ⟨_, _, hanswer, _⟩ | ⟨_, _, hanswer, _⟩
  · have hslots := (provision_slots c).1
    rw [hdelivered] at hslots
    have hyield : BackupPool.yield? c.core.nextPass = some r := by rw [BackupPool.yield?, houtcome]
    rw [hyield] at hpass
    have hle := hpass.length_available
    rw [← hslots] at hle
    exact hle
  · rw [hdelivered] at hanswer
    cases hanswer
  · rw [hdelivered] at hanswer
    cases hanswer

/-- **The floor is enforced on the sum.** Each round uses up a slot, so with more rounds than
available slots the sum reaches the floor, or nothing is available any more. -/
theorem Supplied.fillUp_floor (h : c.Supplied) (floor rounds added : Nat)
    (hrounds : (BackupPool.available c.healing.slots).length < rounds) :
    BackupPool.available (fillUp floor rounds added c).2.healing.slots = [] ∨
      floor ≤ (fillUp floor rounds added c).2.runningCount +
        (fillUp floor rounds added c).2.healing.pending.length := by
  induction rounds generalizing c added with
  | zero => exact absurd hrounds (Nat.not_lt_zero _)
  | succ rounds ih =>
    by_cases hreached : floor ≤ c.runningCount + c.healing.pending.length
    · rw [fillUp_of_reached _ hreached]
      exact .inr hreached
    · rcases h.steady.provision_spec with ⟨ref, c₁, hdelivered⟩ | ⟨cause, c₁, hrefused⟩
      · obtain ⟨lines, heq⟩ := fillUp_of_delivered hreached hdelivered
        have hused := h.available_of_delivered hdelivered
        have hslots : ((c₁.write lines).register ref).2.healing = c₁.healing :=
          (register_frame ref).2.1
        rw [heq]
        refine ih (h.reaches (register_provisioned_leads (c₁.write lines) hdelivered rfl)) _ ?_
        rw [hslots]
        omega
      · obtain ⟨lines, heq⟩ := fillUp_of_refused hreached hrefused
        have hnothing := h.available_of_refused hrefused
        rw [heq]
        exact .inl hnothing

/-! ### What filling up adds -/

/-- Receivers that are running were registered behind the others, and nothing else that matters to
the floor has changed. -/
structure Extended (c : Cluster) (extra : Roster) (c' : Cluster) : Prop where
  registry : c'.coordinator.registry = c.coordinator.registry ++ extra
  pending : c'.healing.pending = c.healing.pending
  same : ∀ ref ∈ c.coordinator.registry, (c'.replica ref).id = (c.replica ref).id ∧
    (c'.replica ref).state = (c.replica ref).state
  running : ∀ ref ∈ extra, (c'.replica ref).isRunning = true

theorem Extended.refl (c : Cluster) : Extended c [] c where
  registry := (List.append_nil _).symm
  pending := rfl
  same _ _ := ⟨rfl, rfl⟩
  running _ href := absurd href List.not_mem_nil

theorem Extended.trans {c'' : Cluster} {extra more : Roster} (h : Extended c extra c')
    (h' : Extended c' more c'') : Extended c (extra ++ more) c'' where
  registry := by rw [h'.registry, h.registry, List.append_assoc]
  pending := h'.pending.trans h.pending
  same ref href := by
    have hlisted : ref ∈ c'.coordinator.registry := by
      rw [h.registry]
      exact List.mem_append_left _ href
    obtain ⟨hid, hstate⟩ := h.same ref href
    obtain ⟨hid', hstate'⟩ := h'.same ref hlisted
    exact ⟨hid'.trans hid, hstate'.trans hstate⟩
  running ref href := by
    rcases List.mem_append.1 href with href | href
    · have hlisted : ref ∈ c'.coordinator.registry := by
        rw [h.registry]
        exact List.mem_append_right _ href
      rw [Replica.isRunning, (h'.same ref hlisted).2]
      exact h.running ref href
    · exact h'.running ref href

/-- Who was added is running. -/
theorem Extended.runningCount {extra : Roster} (h : Extended c extra c') :
    c'.runningCount = c.runningCount + extra.length := by
  have hold : c'.fleet.running c.coordinator.registry = c.fleet.running c.coordinator.registry := by
    refine List.filter_congr fun ref href ↦ ?_
    show (c'.replica ref).isRunning = (c.replica ref).isRunning
    rw [Replica.isRunning, (h.same ref href).2]
    rfl
  have hnew : c'.fleet.running extra = extra := List.filter_eq_self.2 h.running
  rw [Cluster.runningCount, h.registry, Fleet.running, List.filter_append, List.length_append]
  show (c'.fleet.running c.coordinator.registry).length + (c'.fleet.running extra).length = _
  rw [hold, hnew]
  rfl

/-- A provisioning adds a receiver to the fleet and leaves the others as they are. -/
theorem provision_extended (h : c.core.Sound fun _ ↦ True) : Extended c [] c.provision.2 := by
  have hframe : c.provision.2.core.pending = c.core.pending ∧
      c.provision.2.core.registry = c.core.registry ∧
      ∀ ref ∈ c.core.registry, c.provision.2.core.get ref = c.core.get ref := by
    rcases provision_spec c with ⟨r, -, -, hcore⟩ | ⟨_, -, -, hcore⟩ | ⟨_, -, -, hcore⟩ <;>
      rw [hcore]
    · exact ⟨rfl, rfl, fun ref href ↦ Fleet.get_add_of_holds (h.holds ref href) r⟩
    · exact ⟨rfl, rfl, fun _ _ ↦ rfl⟩
    · exact ⟨rfl, rfl, fun _ _ ↦ rfl⟩
  obtain ⟨hpending, hregistry, hget⟩ := hframe
  refine ⟨hregistry.trans (List.append_nil _).symm, hpending, fun ref href ↦ ?_,
    fun _ href ↦ absurd href List.not_mem_nil⟩
  have hsame : c.provision.2.replica ref = c.replica ref := hget ref href
  rw [hsame]
  exact ⟨rfl, rfl⟩

/-- What the in-memory provisioner delivers is running. -/
theorem Supplied.provisioned_running (h : c.Supplied) {ref : ReplicaRef}
    (hdelivered : c.provision = (.ok ref, c')) : (c'.replica ref).isRunning = true := by
  have hsound : c.core.Sound fun r ↦ r.isRunning = true := by
    refine ⟨h.sound.pool_eq, h.sound.holds, h.sound.ids, fun history slot r lines hanswer ↦ ?_⟩
    rw [show c.core.provisioner = .inMemory from h.provisioner] at hanswer
    rw [delivered_inMemory hanswer]
    rfl
  exact (provisioned_joins hsound hdelivered).2

/-- One round of filling up adds one receiver at most. -/
theorem Supplied.round_extended (h : c.Supplied) {ref : ReplicaRef} {c₁ : Cluster}
    (hdelivered : c.provision = (.ok ref, c₁)) (lines : List LogLine) :
    ∃ extra : Roster, extra.length ≤ 1 ∧
      Extended c extra ((c₁.write lines).register ref).2 := by
  have hprovision := provision_extended h.sound
  rw [hdelivered] at hprovision
  obtain ⟨⟨extra, hlength, hextra, hregistry⟩, hhealing, hsame⟩ :=
    register_frame (c := c₁.write lines) ref
  have hstate : ∀ other, (((c₁.write lines).register ref).2.replica other).state =
      (c₁.replica other).state := fun other ↦ congrArg Replica.Shell.state (hsame other)
  refine ⟨extra, hlength, hprovision.trans ⟨hregistry, ?_, fun other _ ↦ ⟨?_, hstate other⟩, ?_⟩⟩
  · exact congrArg Healing.pending hhealing
  · exact congrArg Replica.Shell.id (hsame other)
  · intro other hother
    obtain rfl := hextra other hother
    rw [Replica.isRunning, hstate other]
    show (c₁.replica other).isRunning = true
    exact h.provisioned_running hdelivered

/-- **Filling up stops at the floor**: it adds nobody, or its sum comes to the floor at most. -/
theorem Supplied.fillUp_extended (h : c.Supplied) (floor rounds added : Nat) :
    ∃ extra : Roster, Extended c extra (fillUp floor rounds added c).2 ∧
      (extra = [] ∨ c.runningCount + c.healing.pending.length + extra.length ≤ floor) := by
  induction rounds generalizing c added with
  | zero => exact ⟨[], .refl c, .inl rfl⟩
  | succ rounds ih =>
    by_cases hreached : floor ≤ c.runningCount + c.healing.pending.length
    · rw [fillUp_of_reached _ hreached]
      exact ⟨[], .refl c, .inl rfl⟩
    · rcases h.steady.provision_spec with ⟨ref, c₁, hdelivered⟩ | ⟨cause, c₁, hrefused⟩
      · obtain ⟨lines, heq⟩ := fillUp_of_delivered hreached hdelivered
        obtain ⟨extra, hlength, hround⟩ := h.round_extended hdelivered lines
        obtain ⟨more, hrest, hbound⟩ :=
          ih (h.reaches (register_provisioned_leads (c₁.write lines) hdelivered rfl)) (added + 1)
        rw [heq]
        refine ⟨extra ++ more, hround.trans hrest, .inr ?_⟩
        rw [hround.runningCount, hround.pending] at hbound
        rw [List.length_append]
        -- the later rounds counted from a sum that this one had raised
        rcases hbound with rfl | hbound
        · rw [List.length_nil]
          omega
        · omega
      · obtain ⟨lines, heq⟩ := fillUp_of_refused hreached hrefused
        have hprovision := provision_extended h.sound
        rw [hrefused] at hprovision
        rw [heq]
        exact ⟨[], ⟨hprovision.registry, hprovision.pending, hprovision.same, hprovision.running⟩,
          .inl rfl⟩

/-! ### Nodes from valid configurations -/

/-- Whatever a node built from a valid configuration goes through, it is supplied, and no recovery
is under way twice. -/
theorem supplied_of_ofConfig {config : Config} {now : WallTime} (ops : List Operation)
    (h : ofConfig config now = .ok c) :
    (c.run ops).Supplied ∧ (c.run ops).healing.config = config.faultTolerance ∧
      (c.run ops).healing.pending.Nodup := by
  obtain ⟨hvalid, hbuilt⟩ : config.validate = .ok () ∧
      (new config .discard .inMemory now).Reaches c := ofConfig_spec (fun _ _ ↦ trivial) h
  obtain ⟨hids, hattempts⟩ := Config.slots_of_validate hvalid
  have hslots : (config.faultTolerance.backupPool.map (·.id)).Nodup :=
    hids.sublist (List.sublist_append_right _ _)
  have hnew : (new config .discard .inMemory now).Supplied :=
    { sound := new_sound fun _ _ _ _ _ ↦ trivial
      account := new_accounted hslots hattempts fun _ _ _ heq ↦ by cases heq
      provisioner := rfl }
  have hreaches : (new config .discard .inMemory now).Reaches (c.run ops) :=
    hbuilt.trans (run_reaches ops)
  have hmoves := hreaches hnew.sound
  exact ⟨hnew.reaches hreaches, hmoves.fixed.2, hmoves.pending_nodup List.nodup_nil⟩

end Cluster

end SensorCluster
