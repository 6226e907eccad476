import SensorCluster.Proofs.Histories
import SensorCluster.Proofs.Newcomers

/-!
# The floor, exactly

Enforcing the floor adds as many receivers as are missing, or as there are available slots if these
are fewer, and nobody else changes (`enforceFloor_exact`). The loop asks for the number of running
receivers again after each registration, and each registration raises it by one, as none is refused.
So the first available slots are taken into use, as many as are missing, and the loop ends by its
own condition.

## What it rests on

* `Filled` says what became of a cluster when receivers of some ids were drawn and registered. One
  round is such a step (`Drawn.filled`), and steps add up (`Filled.trans`).
* A newcomer is restored to the peak of the running receivers of the replication pool and does not
  raise it, so **all newcomers come to the same peak**.

The replication pool decides what a newcomer begins with, not the registry. Where the two differ,
because somebody was taken out of the pool or put into it by hand, a newcomer may be behind a
running registered receiver (`newcomer_behind`).
-/

namespace SensorCluster

namespace Cluster

variable {c c' c'' : Cluster} {ref : ReplicaRef} {slot : BackupSlot} {ids more : List String}
  {news rest : Roster}

/-! ### Rounds -/

/-- Receivers of the given ids were drawn from the first available slots and registered, and nobody
else changed. -/
structure Filled (c : Cluster) (ids : List String) (news : Roster) (c' : Cluster) : Prop where
  vacant : c'.Vacant
  slots : c'.healing.slots = BackupPool.use ids c.healing.slots
  available : BackupPool.available c.healing.slots =
    ids ++ BackupPool.available c'.healing.slots
  pending : c'.healing.pending = c.healing.pending
  registry : c'.coordinator.registry = c.coordinator.registry ++ news
  names : c'.fleet.ids news = ids
  fresh : ∀ ref ∈ news, ¬c.fleet.Holds ref
  healthy : ∀ ref ∈ news, (c'.replica ref).isHealthy = true
  same : ∀ ref, c.fleet.Holds ref → c'.fleet.Holds ref ∧ c'.replica ref = c.replica ref
  poolIds : ∀ id ∈ c'.fleet.ids c'.replication.pool,
    id ∈ c.fleet.ids c.replication.pool ∨ id ∈ ids
  peak : c'.fleet.peak (c'.fleet.running c'.replication.pool) =
    c.fleet.peak (c.fleet.running c.replication.pool)
  /-- Whose id was not in the replication pool has come to its peak. -/
  complete : ∀ ref ∈ news, (c'.replica ref).id ∉ c.fleet.ids c.replication.pool →
    (c'.replica ref).total.toNat = c.fleet.peak (c.fleet.running c.replication.pool)

theorem Filled.refl (h : c.Vacant) : Filled c [] [] c where
  vacant := h
  slots := (BackupPool.use_nil _).symm
  available := rfl
  pending := rfl
  registry := (List.append_nil _).symm
  names := rfl
  fresh _ href := absurd href List.not_mem_nil
  healthy _ href := absurd href List.not_mem_nil
  same _ href := ⟨href, rfl⟩
  poolIds _ hid := .inl hid
  peak := rfl
  complete _ href := absurd href List.not_mem_nil

theorem Vacant.write (h : c.Vacant) (lines : List LogLine) : (c.write lines).Vacant :=
  ⟨h.provisioner, h.distinct, h.free, h.short, h.listed, h.pooled⟩

theorem Filled.write (h : Filled c ids news c') (lines : List LogLine) :
    Filled c ids news (c'.write lines) :=
  ⟨h.vacant.write lines, h.slots, h.available, h.pending, h.registry, h.names, h.fresh, h.healthy,
    h.same, h.poolIds, h.peak, h.complete⟩

/-- The slots stay vacant when the first available one is taken into use, whether its receiver is
registered or not. -/
theorem Drawn.vacant (hdrawn : Drawn c slot ref c') (h : c.Vacant)
    (hprovisioner : c''.healing.provisioner = c.healing.provisioner)
    (hslots : c''.healing.slots = c'.healing.slots)
    (hregistered : ∀ id ∈ c''.registeredIds, id ∈ c.registeredIds ∨ id = slot.config.id)
    (hlisted : c''.Holding) (hpooled : ∀ ref ∈ c''.replication.pool, c''.fleet.Holds ref) :
    c''.Vacant := by
  obtain ⟨front, back, hbefore, -, hafter⟩ := hdrawn.slots
  have hdistinct := h.distinct
  rw [hbefore, List.map_append, List.map_cons, List.nodup_middle] at hdistinct
  -- an available slot was so before, and has another id than the one that was drawn from
  have hold : ∀ other ∈ c''.healing.slots, other.state = .available →
      other ∈ c.healing.slots ∧ other.config.id ≠ slot.config.id := by
    intro other hother hstate
    rw [hslots, hafter] at hother
    have hrest : other ∈ front ++ back := by
      rcases List.mem_append.1 hother with hmem | hmem
      · exact List.mem_append_left _ hmem
      · rcases List.mem_cons.1 hmem with rfl | hmem
        · cases hstate
        · exact List.mem_append_right _ hmem
    refine ⟨?_, fun heq ↦ (List.nodup_cons.1 hdistinct).1 ?_⟩
    · rw [hbefore, List.mem_append, List.mem_cons]
      rcases List.mem_append.1 hrest with hmem | hmem
      · exact .inl hmem
      · exact .inr (.inr hmem)
    · rw [← List.map_append, ← heq]
      exact List.mem_map_of_mem hrest
  refine ⟨hprovisioner.trans h.provisioner, ?_, fun other hother hstate ↦ ?_,
    fun other hother hstate ↦ h.short other (hold other hother hstate).1 hstate, hlisted, hpooled⟩
  · rw [hslots, hdrawn.use h.distinct, BackupPool.ids_use]
    exact h.distinct
  · obtain ⟨hmem, hne⟩ := hold other hother hstate
    exact fun hlisted ↦ (hregistered _ hlisted).elim (h.free other hmem hstate) hne

/-- A newcomer adds nothing to the replication pool but its id: the peak there is as high as
before. -/
theorem Drawn.pool_after (hdrawn : Drawn c slot ref c') (h : c.Vacant) :
    (∀ other ∈ (c'.register ref).2.replication.pool, (c'.register ref).2.fleet.Holds other) ∧
    (∀ id ∈ (c'.register ref).2.fleet.ids (c'.register ref).2.replication.pool,
      id ∈ c.fleet.ids c.replication.pool ∨ id ∈ [slot.config.id]) ∧
    (c'.register ref).2.fleet.peak
        ((c'.register ref).2.fleet.running (c'.register ref).2.replication.pool) =
      c.fleet.peak (c.fleet.running c.replication.pool) := by
  obtain ⟨-, -, -, hnew, hshell, hsame⟩ := hdrawn.register_spec h
  set f := (c'.register ref).2.fleet
  have hid : (f.get ref).id = slot.config.id := congrArg Replica.Shell.id hshell
  have hrunning : (f.get ref).isRunning = true :=
    congrArg (fun s : Replica.Shell ↦ s.state.isRunning) hshell
  have hheld : ∀ other ∈ c.replication.pool, f.Holds other :=
    fun other hother ↦ (hsame other (h.pooled other hother)).1
  -- the members from before have the ids and the peak from before
  have hids : f.ids c.replication.pool = c.fleet.ids c.replication.pool :=
    List.map_congr_left fun other hother ↦
      congrArg Replica.id (hsame other (h.pooled other hother)).2
  have hpeak : f.peak (f.running c.replication.pool) =
      c.fleet.peak (c.fleet.running c.replication.pool) :=
    Fleet.peak_running_congr fun other hother ↦ (hsame other (h.pooled other hother)).2
  rcases hdrawn.register_pool h with ⟨-, hpool⟩ | ⟨-, hpool, htotal⟩ <;> rw [hpool]
  · exact ⟨hheld, fun id hid ↦ .inl (hids ▸ hid), hpeak⟩
  · refine ⟨fun other hother ↦ ?_, fun id hmem ↦ ?_, ?_⟩
    · rcases List.mem_append.1 hother with hother | hother
      · exact hheld other hother
      · rwa [List.mem_singleton.1 hother]
    · rw [Fleet.ids_append, List.mem_append, hids] at hmem
      exact hmem.imp_right fun hmem ↦ hid ▸ hmem
    · have hconcat : f.running (c.replication.pool ++ [ref]) =
          f.running c.replication.pool ++ [ref] := by
        have hself : f.running [ref] = [ref] := by simp [Fleet.running, hrunning]
        rw [Fleet.running, List.filter_append]
        exact congrArg (f.running c.replication.pool ++ ·) hself
      have htop : (f.get ref).total.toNat = c.fleet.peak (c.fleet.running c.replication.pool) :=
        htotal
      rw [hconcat, Fleet.peak_concat, hpeak, htop, Nat.max_self]

/-- **One round**: who was drawn is registered. -/
theorem Drawn.filled (hdrawn : Drawn c slot ref c') (h : c.Vacant) :
    Filled c [slot.config.id] [ref] (c'.register ref).2 := by
  obtain ⟨hregistry, hregistered, -, hnew, hshell, hsame⟩ := hdrawn.register_spec h
  obtain ⟨hpooled, hpoolIds, hpeak⟩ := hdrawn.pool_after h
  have hhealing : (c'.register ref).2.healing = c'.healing := (register_frame ref).2.1
  have hlisted : (c'.register ref).2.Holding := by
    intro other hother
    rw [hregistry, List.mem_append, List.mem_singleton] at hother
    rcases hother with hother | rfl
    · exact (hsame other (h.listed other hother)).1
    · exact hnew
  have hid : ((c'.register ref).2.replica ref).id = slot.config.id :=
    congrArg Replica.Shell.id hshell
  have hhealthy : ((c'.register ref).2.replica ref).isHealthy = true :=
    (Replica.isHealthy_of_shell hshell).trans rfl
  exact
    { vacant := hdrawn.vacant h (by rw [hhealing, hdrawn.provisioner]) (by rw [hhealing])
        (fun id hid ↦ by simpa [hregistered] using hid) hlisted hpooled
      slots := by rw [hhealing, hdrawn.use h.distinct]
      available := by rw [hhealing, hdrawn.available]; rfl
      pending := by rw [hhealing, hdrawn.pending]
      registry := hregistry
      names := congrArg (· :: []) hid
      fresh := fun other hother ↦ List.mem_singleton.1 hother ▸ hdrawn.fresh
      healthy := fun other hother ↦ List.mem_singleton.1 hother ▸ hhealthy
      same := hsame
      poolIds := hpoolIds
      peak := hpeak
      complete := by
        intro other hother hnone
        rw [List.mem_singleton.1 hother, hid] at hnone
        rw [List.mem_singleton.1 hother]
        rcases hdrawn.register_pool h with ⟨htaken, -⟩ | ⟨-, -, htotal⟩
        · exact absurd htaken hnone
        · exact htotal }

/-- The ids that were drawn are free, and none of them is available any more. -/
theorem Filled.free (h : Filled c ids news c') (hvacant : c.Vacant) :
    (∀ id ∈ ids, id ∉ c.registeredIds) ∧ ids.Disjoint (BackupPool.available c'.healing.slots) := by
  have hnodup := BackupPool.nodup_available hvacant.distinct
  rw [h.available] at hnodup
  refine ⟨fun id hid ↦ ?_, (List.nodup_append'.1 hnodup).2.2⟩
  have hmem : id ∈ BackupPool.available c.healing.slots := by
    rw [h.available]
    exact List.mem_append_left _ hid
  obtain ⟨slot, hslot, hstate, rfl⟩ := BackupPool.mem_available.1 hmem
  exact hvacant.free slot hslot hstate

theorem Filled.holds (h : Filled c ids news c') {ref : ReplicaRef} (href : ref ∈ news) :
    c'.fleet.Holds ref := by
  refine h.vacant.listed ref ?_
  rw [h.registry]
  exact List.mem_append_right _ href

/-- **Rounds add up.** -/
theorem Filled.trans (hvacant : c.Vacant) (h : Filled c ids news c')
    (h' : Filled c' more rest c'') :
    Filled c (ids ++ more) (news ++ rest) c'' := by
  obtain ⟨-, hdisjoint⟩ := h.free hvacant
  have hmore : ids.Disjoint more := by
    rw [h'.available] at hdisjoint
    exact List.disjoint_of_disjoint_append_right_left hdisjoint
  have hkept : ∀ ref ∈ news, c''.replica ref = c'.replica ref :=
    fun ref href ↦ (h'.same ref (h.holds href)).2
  exact
    { vacant := h'.vacant
      slots := by rw [h'.slots, h.slots, BackupPool.use_append hmore]
      available := by rw [h.available, h'.available, List.append_assoc]
      pending := h'.pending.trans h.pending
      registry := by rw [h'.registry, h.registry, List.append_assoc]
      names := by
        rw [Fleet.ids_append, h'.names, ← h.names]
        refine congrArg (· ++ more) (List.map_congr_left fun ref href ↦ ?_)
        exact congrArg Replica.id (hkept ref href)
      fresh := by
        intro ref href hold
        rcases List.mem_append.1 href with href | href
        · exact h.fresh ref href hold
        · exact h'.fresh ref href (h.same ref hold).1
      healthy := by
        intro ref href
        rcases List.mem_append.1 href with href | href
        · rw [hkept ref href]
          exact h.healthy ref href
        · exact h'.healthy ref href
      same := by
        intro ref hold
        obtain ⟨hholds, heq⟩ := h.same ref hold
        obtain ⟨hholds', heq'⟩ := h'.same ref hholds
        exact ⟨hholds', heq'.trans heq⟩
      poolIds := by
        intro id hid
        rw [List.mem_append]
        rcases h'.poolIds id hid with hid | hid
        · exact (h.poolIds id hid).imp_right .inl
        · exact .inr (.inr hid)
      peak := h'.peak.trans h.peak
      complete := by
        intro ref href hnone
        rcases List.mem_append.1 href with href | href
        · rw [hkept ref href] at hnone ⊢
          exact h.complete ref href hnone
        · rw [h'.complete ref href fun hid ↦ ?_, h.peak]
          -- it is none of the newcomers from before
          have hname : (c''.replica ref).id ∈ more := by
            rw [← h'.names]
            exact List.mem_map_of_mem href
          exact (h.poolIds _ hid).elim hnone fun hid ↦ hmore hid hname }

/-- Every newcomer counts as running. -/
theorem Filled.runningCount (h : Filled c ids news c') (hvacant : c.Vacant) :
    c'.runningCount = c.runningCount + ids.length := by
  have hold : c'.fleet.running c.coordinator.registry = c.fleet.running c.coordinator.registry :=
    List.filter_congr fun ref href ↦
      congrArg Replica.isRunning (h.same ref (hvacant.listed ref href)).2
  have hnew : c'.fleet.running news = news := by
    refine List.filter_eq_self.2 fun ref href ↦ ?_
    exact (Bool.and_eq_true_iff.1 (h.healthy ref href)).1
  rw [Cluster.runningCount, h.registry, Fleet.running, List.filter_append, List.length_append,
    ← h.names, Fleet.ids, List.length_map]
  show (c'.fleet.running c.coordinator.registry).length + (c'.fleet.running news).length = _
  rw [hold, hnew]
  rfl

/-! ### The loop -/

/-- **Filling up in closed form.** With more rounds than available slots it takes the first
available ones into use, as many as are missing or as there are. -/
theorem Vacant.fillUp_filled (h : c.Vacant) (floor rounds added : Nat)
    (hrounds : (BackupPool.available c.healing.slots).length < rounds) :
    ∃ n news c', fillUp floor rounds added c = (.ok (added + n), c') ∧
      n = min (floor - (c.runningCount + c.healing.pending.length))
        (BackupPool.available c.healing.slots).length ∧
      Filled c ((BackupPool.available c.healing.slots).take n) news c' := by
  induction rounds generalizing c added with
  | zero => exact absurd hrounds (Nat.not_lt_zero _)
  | succ rounds ih =>
    by_cases hreached : floor ≤ c.runningCount + c.healing.pending.length
    · rw [fillUp_of_reached _ hreached]
      refine ⟨0, [], c, rfl, by omega, ?_⟩
      rw [List.take_zero]
      exact .refl h
    · rcases h.provision_spec with ⟨hnone, hrefused⟩ | ⟨slot, ref, c₁, hdelivered, hdrawn⟩
      · obtain ⟨lines, heq⟩ := fillUp_of_refused hreached hrefused
        rw [heq, hnone]
        refine ⟨0, [], _, rfl, by simp, ?_⟩
        exact (Filled.refl h).write lines
      · obtain ⟨lines, heq⟩ := fillUp_of_delivered hreached hdelivered
        have hround := (hdrawn.write lines).filled h
        set c₂ := ((c₁.write lines).register ref).2
        have havailable : BackupPool.available c.healing.slots =
            slot.config.id :: BackupPool.available c₂.healing.slots := hround.available
        have hcount : c₂.runningCount = c.runningCount + 1 := hround.runningCount h
        have hlength := congrArg List.length havailable
        rw [List.length_cons] at hlength
        obtain ⟨n, news, c', hanswer, hn, hrest⟩ := ih hround.vacant (added + 1) (by omega)
        rw [hcount, hround.pending] at hn
        refine ⟨n + 1, ref :: news, c', ?_, by omega, ?_⟩
        · rw [heq, hanswer, Nat.add_right_comm, Nat.add_assoc]
        · rw [havailable, List.take_succ_cons]
          exact hround.trans h hrest

/-- The rounds do not run out: with more of them than available slots, how many there are does not
matter. -/
theorem Vacant.fillUp_rounds (h : c.Vacant) (floor added : Nat) {rounds rounds' : Nat}
    (hrounds : (BackupPool.available c.healing.slots).length < rounds)
    (hrounds' : (BackupPool.available c.healing.slots).length < rounds') :
    fillUp floor rounds added c = fillUp floor rounds' added c := by
  induction rounds generalizing c added rounds' with
  | zero => exact absurd hrounds (Nat.not_lt_zero _)
  | succ rounds ih =>
    cases rounds' with
    | zero => exact absurd hrounds' (Nat.not_lt_zero _)
    | succ rounds' =>
      rw [fillUp, fillUp]
      split
      · rfl
      · rcases h.provision_spec with ⟨-, hrefused⟩ | ⟨slot, ref, c₁, hdelivered, hdrawn⟩
        · rw [hrefused]
        · rw [hdelivered]
          have hround := fun lines ↦ (hdrawn.write lines).filled h
          have hlength := fun lines ↦ congrArg List.length (hround lines).available
          simp only [List.length_append, List.length_singleton] at hlength
          refine ih (hround _).vacant (added + 1) ?_ ?_
          · have := hlength
              [.info s!"Below floor of {floor} running receivers, adding {(c₁.replica ref).id}"]
            omega
          · have := hlength
              [.info s!"Below floor of {floor} running receivers, adding {(c₁.replica ref).id}"]
            omega

/-- **The floor, exactly.** Let the provisioner be the one in memory, the ids of the slots distinct,
and nobody be registered under the id of an available slot. Enforcing the floor comes to its end,
not because the rounds run out, and

* it adds as many receivers as are missing, or as there are available slots if these are fewer;
* as many of the first available slots are in use afterwards, and the other slots are as they were;
* the new receivers are registered behind all others, in the order of their slots and each once.
  They are healthy. One whose id was not in the replication pool has seen as many messages as any
  running receiver that is registered and in the replication pool;
* every receiver from before is as it was;
* if nobody is missing, nothing changes. -/
theorem enforceFloor_exact (h : c.Vacant) :
    let available := BackupPool.available c.healing.slots
    let floor := c.healing.config.minHealthyReceivers.toNat
    let missing := floor - (c.runningCount + c.healing.pending.length)
    let filled := available.take (min missing available.length)
    let c' := c.enforceFloor.2
    c.enforceFloor.1 = .ok (min missing available.length) ∧
    (∀ rounds, available.length < rounds → fillUp floor rounds 0 c = c.enforceFloor) ∧
    c'.healing.slots = BackupPool.use filled c.healing.slots ∧
    (∃ news : Roster, c'.coordinator.registry = c.coordinator.registry ++ news ∧
      c'.fleet.ids news = filled ∧ (∀ id ∈ filled, c'.registeredIds.count id = 1) ∧
      ∀ ref ∈ news, ¬c.fleet.Holds ref ∧ (c'.replica ref).isHealthy = true ∧
        ((c'.replica ref).id ∉ c.fleet.ids c.replication.pool →
          ∀ other ∈ c'.coordinator.registry, other ∈ c'.replication.pool →
            (c'.replica other).isRunning = true →
            (c'.replica other).total ≤ (c'.replica ref).total)) ∧
    (∀ ref, c.fleet.Holds ref → c'.replica ref = c.replica ref) ∧
    (missing = 0 → c.enforceFloor = (.ok 0, c)) := by
  intro available floor missing filled c'
  have hrounds : available.length < c.healing.slots.length + 1 := by
    show (BackupPool.available c.healing.slots).length < _
    rw [BackupPool.available, List.length_map]
    exact Nat.lt_succ_of_le (List.length_filter_le _ _)
  obtain ⟨n, news, c'', hanswer, rfl, hfilled⟩ := h.fillUp_filled floor _ 0 hrounds
  have heq : c.enforceFloor = (.ok (min missing available.length), c'') := by
    rw [enforceFloor, hanswer, Nat.zero_add]
  obtain rfl : c'' = c' := by
    show c'' = c.enforceFloor.2
    rw [heq]
  have hregistered : c'.registeredIds = c.registeredIds ++ filled := by
    rw [registeredIds, hfilled.registry, Fleet.ids_append, hfilled.names]
    refine congrArg (· ++ filled) (List.map_congr_left fun ref href ↦ ?_)
    exact congrArg Replica.id (hfilled.same ref (h.listed ref href)).2
  refine ⟨by rw [heq], fun rounds hmore ↦ h.fillUp_rounds floor 0 hmore hrounds, hfilled.slots,
    ⟨news, hfilled.registry, hfilled.names, fun id hid ↦ ?_, fun ref href ↦
      ⟨hfilled.fresh ref href, hfilled.healthy ref href, fun hnone other _ hpooled hrunning ↦ ?_⟩⟩,
    fun ref href ↦ (hfilled.same ref href).2, fun hnobody ↦ ?_⟩
  · have hnew : id ∉ c.registeredIds := (hfilled.free h).1 id hid
    have hnodup : filled.Nodup :=
      (BackupPool.nodup_available h.distinct).sublist (List.take_sublist _ _)
    rw [hregistered, List.count_append, List.count_eq_zero.2 hnew,
      List.count_eq_one_of_mem hnodup hid]
  · rw [UInt64.le_iff_toNat_le, hfilled.complete ref href hnone, ← hfilled.peak]
    exact Fleet.le_peak (Fleet.mem_running.2 ⟨hpooled, hrunning⟩)
  · have hreached : floor ≤ c.runningCount + c.healing.pending.length :=
      Nat.le_of_sub_eq_zero hnobody
    rw [enforceFloor, fillUp, if_pos hreached]

/-- The only receiver has seen a message, and a receiver is missing. -/
def oneMissing : List Happening :=
  [.request (.operation (.register (.new "r1" "r1:1"))) trivial,
    .request (.operation (.start 0)) trivial, .process 0 (.data "m" "s" "t" 0.0 1 1)]

/-- The slot is taken into use, and the new receiver begins with the message of the other one. -/
theorem enforceFloor_exact_oneMissing :
    let c := (new oneSlot .discard .inMemory default).undergoAll oneMissing
    let c' := c.enforceFloor.2
    c.enforceFloor.1 = .ok 1 ∧ c'.healing.slots = BackupPool.use ["b1"] c.healing.slots ∧
      ∃ ref ∈ c'.coordinator.registry, ¬c.fleet.Holds ref ∧ (c'.replica ref).id = "b1" ∧
        (c'.replica ref).isHealthy = true ∧ (c'.replica 0).total ≤ (c'.replica ref).total := by
  intro c c'
  have hlisted : ∀ ref ∈ c.coordinator.registry, c.fleet.Holds ref := by decide +kernel
  have hvacant : c.Vacant :=
    ⟨rfl, by decide +kernel, by decide +kernel, by decide +kernel, hlisted, by decide +kernel⟩
  obtain ⟨hanswer, -, hslots, ⟨news, hregistry, hnames, -, hnews⟩, -, -⟩ :=
    enforceFloor_exact hvacant
  have hfilled : (BackupPool.available c.healing.slots).take
      (min (c.healing.config.minHealthyReceivers.toNat -
          (c.runningCount + c.healing.pending.length))
        (BackupPool.available c.healing.slots).length) = ["b1"] := by
    decide +kernel
  rw [hfilled] at hslots hnames
  refine ⟨hanswer.trans (by decide +kernel), hslots, ?_⟩
  obtain ⟨ref, href, hid⟩ : ∃ ref ∈ news, (c'.replica ref).id = "b1" := by
    have hmem : "b1" ∈ c'.fleet.ids news := by
      rw [hnames]
      exact List.mem_cons_self
    exact List.mem_map.1 hmem
  obtain ⟨hfresh, hhealthy, hcomplete⟩ := hnews ref href
  have hregistered : ref ∈ c'.coordinator.registry := by
    rw [hregistry]
    exact List.mem_append_right _ href
  refine ⟨ref, hregistered, hfresh, hid, hhealthy, hcomplete ?_ 0 ?_ ?_ ?_⟩
  · rw [hid]
    decide +kernel
  · decide +kernel
  · decide +kernel
  · decide +kernel

/-- **A newcomer is behind.** The receiver with the message was taken out of the replication pool by
hand. It is registered and running all the same, and the new receiver begins without its message. So
it does if the receiver with the message is in the pool, and beside it somebody of the newcomer's
id. -/
theorem newcomer_behind :
    let c := (new oneSlot .discard .inMemory default).undergoAll (oneMissing ++ [.leavePool "r1"])
    let c' := c.enforceFloor.2
    let d := (new oneSlot .discard .inMemory default).undergoAll
      (oneMissing ++ [.request (.create (.new "b1" "b1:2")) trivial, .joinPool 1])
    let d' := d.enforceFloor.2
    (c.healing.provisioner = .inMemory ∧ (c.healing.slots.map (·.config.id)).Nodup ∧
      (∀ slot ∈ c.healing.slots, slot.state = .available → slot.config.id ∉ c.registeredIds) ∧
      c.enforceFloor.1 = .ok 1 ∧ c'.coordinator.registry = [0, 1] ∧ (c'.replica 1).id = "b1" ∧
      (c'.replica 0).isRunning = true ∧ (c'.replica 0).total = 1 ∧ (c'.replica 1).total = 0) ∧
    d.healing.provisioner = .inMemory ∧ (d.healing.slots.map (·.config.id)).Nodup ∧
      (∀ slot ∈ d.healing.slots, slot.state = .available → slot.config.id ∉ d.registeredIds) ∧
      d.enforceFloor.1 = .ok 1 ∧ d'.coordinator.registry = [0, 2] ∧ (d'.replica 2).id = "b1" ∧
      0 ∈ d'.replication.pool ∧ (d'.replica 0).isRunning = true ∧ (d'.replica 0).total = 1 ∧
      (d'.replica 2).total = 0 := by
  refine ⟨⟨rfl, ?_⟩, rfl, ?_⟩
  · decide +kernel
  · decide +kernel

end Cluster

end SensorCluster
