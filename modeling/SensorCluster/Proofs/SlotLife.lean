import SensorCluster.Proofs.PoolPass
import SensorCluster.Proofs.Runs

/-!
# The life of a backup slot

A slot is asked for a receiver again and again, is in use, is given back, and is given up in the
end. Two operations give a slot up: a pass over the pool, when its last attempt fails, and a
release, when it has no attempt left. What was given up is counted and told of afterwards, so one
call may tell of several slots and still yield a receiver.

## The account

`Core.Accounted` is what holds at all times, whatever the provisioner answers as long as it answers:

* the attempts of a slot are the calls of the provisioner for it, and never more than its limit;
* the slots that were told of as given up are the abandoned ones, each once, and they are counted.

Every move keeps the account (`Accounted.move`); only `tryPool` and `release` touch it. That a pass
neither panics nor overflows is a consequence: an available slot has room for one more attempt.
-/

namespace SensorCluster

namespace Core

/-- The account of the backup pool. -/
structure Accounted (k : Core) : Prop where
  distinct : (k.slots.map (·.config.id)).Nodup
  /-- The attempts of a slot are the times it was asked. -/
  counted : ∀ slot ∈ k.slots, slot.attempts.toNat = k.asked.count slot.config.id
  bounded : ∀ slot ∈ k.slots, slot.Bounded
  /-- The abandoned slots were told of, each once. -/
  told : k.exhaustions.Perm (k.slots.filterMap BackupSlot.abandonment?)
  counter : k.exhaustedSlots = UInt64.ofNat k.exhaustions.length
  /-- The provisioner answers. -/
  answers : ∀ history slot text, k.provisioner history slot ≠ .panicked text

variable {joins : Replica → Prop} {arrives : Message → Prop} {k k' : Core}

/-- What is told of is counted. -/
theorem counter_report (h : k.exhaustedSlots = UInt64.ofNat k.exhaustions.length)
    (abandoned : List Abandonment) :
    (k.report abandoned).exhaustedSlots =
      UInt64.ofNat (k.report abandoned).exhaustions.length := by
  show k.exhaustedSlots + UInt64.ofNat abandoned.length =
    UInt64.ofNat (k.exhaustions ++ abandoned).length
  rw [h, List.length_append, UInt64.ofNat_add]

/-- While the account is in order, the next pass does not panic. -/
theorem Accounted.nextPass (h : k.Accounted) :
    (∀ text, k.nextPass.outcome ≠ .panicked text) ∧
      BackupPool.Pass k.provisioner k.asked k.slots k.nextPass.slots k.nextPass.asked
        k.nextPass.abandoned (BackupPool.yield? k.nextPass) :=
  BackupPool.pass_of_tryEach h.answers h.bounded

/-- **A pass keeps the account.** -/
theorem Accounted.tryPool (h : k.Accounted) : k.tryPool.Accounted := by
  obtain ⟨hcalm, hpass⟩ := h.nextPass
  refine ⟨?_, ?_, hpass.bounded h.bounded, ?_, counter_report h.counter _, h.answers⟩
  · show (k.nextPass.slots.map (·.config.id)).Nodup
    have hids : ∀ slots : List BackupSlot,
        slots.map (·.config.id) = (slots.map (·.config)).map (·.id) := by simp
    rw [hids, hpass.config_eq, ← hids]
    exact h.distinct
  · intro slot' hslot'
    obtain ⟨slot, hslot, hconfig, hattempts⟩ := hpass.attempts_eq h.bounded h.distinct hslot'
    show slot'.attempts.toNat = (k.asked ++ k.nextPass.asked).count slot'.config.id
    -- The attempts of a slot grow by the times that the pass asked for it.
    rw [List.count_append, ← hconfig, ← h.counted slot hslot, hattempts]
  · show (k.exhaustions ++ k.nextPass.told).Perm _
    rw [PoolPass.told_of_ended hcalm]
    exact (h.told.append_right _).trans hpass.abandonments.symm

/-- A slot in use that comes to another state keeps its id and its attempts; it is told of when it
was given up. -/
theorem Accounted.endUse (h : k.Accounted) {front back : List BackupSlot} {slot : BackupSlot}
    (hslots : k.slots = front ++ slot :: back) (hstate : slot.state = .inUse) {state : SlotState}
    (hbounded : { slot with state }.Bounded) :
    ({ k with slots := front ++ { slot with state } :: back }.report
      { slot with state }.abandonment?.toList).Accounted := by
  -- what holds of every slot has to be shown of the changed one only
  have hothers : ∀ p : BackupSlot → Prop, p { slot with state } → (∀ slot ∈ k.slots, p slot) →
      ∀ other ∈ front ++ { slot with state } :: back, p other := by
    intro p hslot hall other hother
    rw [hslots] at hall
    rcases List.mem_append.1 hother with hother | hother
    · exact hall other (List.mem_append_left _ hother)
    · rcases List.mem_cons.1 hother with rfl | hother
      · exact hslot
      · exact hall other (List.mem_append_right _ (List.mem_cons_of_mem _ hother))
  have hcounted : slot.attempts.toNat = k.asked.count slot.config.id := by
    refine h.counted slot ?_
    rw [hslots]
    exact List.mem_append_right _ List.mem_cons_self
  refine ⟨?_, hothers _ hcounted h.counted, hothers _ hbounded h.bounded, ?_,
    counter_report h.counter _, h.answers⟩
  · have hdistinct := h.distinct
    rw [hslots] at hdistinct
    show ((front ++ { slot with state } :: back).map (·.config.id)).Nodup
    simpa using hdistinct
  · have htold := h.told
    rw [hslots] at htold
    exact BackupPool.abandonments_replace (BackupSlot.abandonment?_of_ne (by simp [hstate])) htold

/-- **A release keeps the account.** -/
theorem Accounted.release (h : k.Accounted) (id : String) : (k.release id).Accounted := by
  rw [Core.release]
  rcases BackupPool.release_spec id k.slots with
    heq | ⟨front, slot, back, hslots, hstate, ⟨hleft, heq⟩ | ⟨hspent, heq⟩⟩ <;> rw [heq]
  · refine ⟨h.distinct, h.counted, h.bounded, ?_, counter_report h.counter _, h.answers⟩
    show (k.exhaustions ++ []).Perm _
    rw [List.append_nil]
    exact h.told
  · exact h.endUse hslots hstate (BackupSlot.bounded_available hleft)
  · have hbounded : slot.Bounded := by
      refine h.bounded slot ?_
      rw [hslots]
      exact List.mem_append_right _ List.mem_cons_self
    exact h.endUse hslots hstate (BackupSlot.bounded_abandoned hbounded.le_max hspent)

/-- Each move keeps the account: only passes and releases touch the slots. -/
theorem Accounted.move (h : k.Accounted) (hmove : Move joins arrives k k') : k'.Accounted := by
  cases hmove with
  | tryPool => exact h.tryPool
  | release id => exact h.release id
  | change | create | join | leave | mark | unmark =>
    exact ⟨h.distinct, h.counted, h.bounded, h.told, h.counter, h.answers⟩

theorem Accounted.moves (h : k.Accounted) (hmoves : Moves joins arrives k k') :
    k'.Accounted := by
  induction hmoves with
  | refl => exact h
  | tail _ hmove ih => exact ih.move hmove

/-! ### Abandoned slots -/

/-- What takes the place of one member of a list leaves the others where they are. -/
theorem getElem?_append_cons_of_ne {α : Type} {front back : List α} {x y z : α} {i : Nat}
    (h : (front ++ x :: back)[i]? = some z) (hne : z ≠ x) :
    (front ++ y :: back)[i]? = some z := by
  induction front generalizing i with
  | nil =>
    cases i with
    | zero => exact absurd (Option.some.inj h).symm hne
    | succ i => exact h
  | cons head front ih =>
    cases i with
    | zero => exact h
    | succ i => exact ih h

/-- **An abandoned slot stays as it is.** -/
theorem Accounted.abandoned_move (h : k.Accounted) (hmove : Move joins arrives k k') {i : Nat}
    {slot : BackupSlot} (hi : k.slots[i]? = some slot) (hslot : slot.state = .abandoned) :
    k'.slots[i]? = some slot := by
  cases hmove with
  | tryPool =>
    refine h.nextPass.2.untouched hi (.inl ?_)
    rw [hslot]
    exact SlotState.noConfusion
  | release id =>
    show (BackupPool.release id k.slots).1[i]? = some slot
    rcases BackupPool.release_spec id k.slots with
      heq | ⟨front, used, back, hslots, hstate, hcase⟩
    · rw [heq]
      exact hi
    · -- a release only touches a slot in use
      have hne : slot ≠ used := by
        rintro rfl
        rw [hslot] at hstate
        cases hstate
      rw [hslots] at hi
      rcases hcase with ⟨-, heq⟩ | ⟨-, heq⟩ <;> rw [heq] <;>
        exact getElem?_append_cons_of_ne hi hne
  | change | create | join | leave | mark | unmark => exact hi

/-- So it stays in every run, by induction on the moves. -/
theorem Accounted.abandoned_moves (h : k.Accounted) (hmoves : Moves joins arrives k k') {i : Nat}
    {slot : BackupSlot} (hi : k.slots[i]? = some slot) (hslot : slot.state = .abandoned) :
    k'.slots[i]? = some slot := by
  induction hmoves with
  | refl => exact hi
  | tail hmoves hmove ih => exact (h.moves hmoves).abandoned_move hmove ih hslot

end Core

namespace Cluster

variable {c c' : Cluster}

/-! ### No operation panics -/

/-- Whatever moves a cluster makes, no pass over its pool panics. -/
structure Steady (c : Cluster) : Prop where
  sound : c.core.Sound fun _ ↦ True
  calm : ∀ k, Core.Moves (fun _ ↦ True) (fun _ ↦ True) c.core k →
    ∀ text, k.nextPass.outcome ≠ .panicked text

/-- Whatever a steady cluster comes to is steady. -/
theorem Steady.reaches (h : c.Steady) (hreaches : c.Reaches c') : c'.Steady where
  sound := h.sound.moves (hreaches h.sound)
  calm k hk := h.calm k ((hreaches h.sound).trans hk)

/-- A cluster whose account is in order is steady, since no pass panics and each keeps the account.
-/
theorem steady_of_accounted (hsound : c.core.Sound fun _ ↦ True) (h : c.core.Accounted) :
    c.Steady :=
  ⟨hsound, fun _ hk ↦ (h.moves hk).nextPass.1⟩

/-- A provisioning delivers or is refused. -/
theorem Steady.provision_spec (h : c.Steady) :
    (∃ ref c', c.provision = (.ok ref, c')) ∨
      ∃ cause c', c.provision = (.error (.refused cause), c') := by
  rcases Cluster.provision_spec c with ⟨_, _, hanswer, _⟩ | ⟨cause, _, hanswer, _⟩ |
    ⟨text, hpanic, _⟩
  · exact .inl ⟨_, c.provision.2, by rw [← hanswer]⟩
  · exact .inr ⟨cause, c.provision.2, by rw [← hanswer]⟩
  · exact absurd hpanic (h.calm c.core .refl text)

theorem Steady.fillUp_ok (h : c.Steady) (floor rounds added : Nat) :
    ∃ n, (fillUp floor rounds added c).1 = .ok n := by
  induction rounds generalizing c added with
  | zero => exact ⟨added, rfl⟩
  | succ rounds ih =>
    by_cases hreached : floor ≤ c.runningCount + c.healing.pending.length
    · rw [fillUp_of_reached _ hreached]
      exact ⟨added, rfl⟩
    · rcases h.provision_spec with ⟨ref, c₁, hdelivered⟩ | ⟨cause, c₁, hrefused⟩
      · obtain ⟨lines, heq⟩ := fillUp_of_delivered hreached hdelivered
        rw [heq]
        exact ih (h.reaches (register_provisioned_leads (c₁.write lines) hdelivered rfl)) _
      · obtain ⟨lines, heq⟩ := fillUp_of_refused hreached hrefused
        rw [heq]
        exact ⟨added, rfl⟩

theorem Steady.enforceFloor_ok (h : c.Steady) : ∃ n, c.enforceFloor.1 = .ok n :=
  h.fillUp_ok _ _ _

/-- **A health check comes to its end.** -/
theorem Steady.healthCheck_ok (h : c.Steady) : ∃ report, c.healthCheck.1 = .ok report := by
  obtain ⟨n, hfloor⟩ := (h.reaches afterScheduling_leads).enforceFloor_ok
  exact (healthCheck_spec c).2 n hfloor

theorem Steady.replace_ne (h : c.Steady) (failed : ReplicaRef) (text : String) :
    (c.replace failed).1 ≠ .error (.panicked text) := by
  rcases (h.reaches (takenOff_leads failed)).provision_spec with ⟨ref, c', hdelivered⟩ |
    ⟨cause, c', hrefused⟩
  · obtain ⟨lines, heq⟩ := replace_of_delivered hdelivered
    rw [heq]
    exact fun heq ↦ by cases heq
  · rw [replace_of_refused hrefused]
    exact fun heq ↦ by cases heq

/-- A recovery panics only if the pass for a replacement does. -/
theorem Steady.recoverReceiver_ne (h : c.Steady) (id text : String) :
    (c.recoverReceiver id).1 ≠ .error (.panicked text) := by
  rcases c.recoverReceiver_cases id with heq | heq |
    ⟨ref, -, -, ⟨_, lines, -, heq⟩ | ⟨lines, heq⟩⟩ <;> rw [heq]
  · exact fun heq ↦ by cases heq
  · exact fun heq ↦ by cases heq
  · exact fun heq ↦ by cases heq
  · have hwritten : (c.write lines).Steady := h.reaches (.of_eq rfl)
    exact hwritten.replace_ne ref text

/-! ### The life of the slots -/

/-- Nothing is told of a new pool. -/
theorem abandonments_fresh (pool : List SlotConfig) :
    (pool.map BackupSlot.fresh).filterMap BackupSlot.abandonment? = [] := by
  refine List.filterMap_eq_nil_iff.2 fun slot hslot ↦ ?_
  obtain ⟨slotConfig, -, rfl⟩ := List.mem_map.1 hslot
  rfl

/-- In a new cluster no slot was tried, so the account is in order. -/
theorem new_accounted {config : Config} {sink : SnapshotSink} {provisioner : Provisioner}
    {now : WallTime} (hids : (config.faultTolerance.backupPool.map (·.id)).Nodup)
    (hmax : ∀ slot ∈ config.faultTolerance.backupPool, 1 ≤ slot.maxAttempts)
    (hanswers : ∀ history slot text, provisioner history slot ≠ .panicked text) :
    (new config sink provisioner now).core.Accounted where
  distinct := by
    show ((config.faultTolerance.backupPool.map BackupSlot.fresh).map (·.config.id)).Nodup
    rw [List.map_map]
    exact hids
  counted slot hslot := by
    obtain ⟨slotConfig, -, rfl⟩ := List.mem_map.1 hslot
    rfl
  bounded slot hslot := by
    obtain ⟨slotConfig, hmem, rfl⟩ := List.mem_map.1 hslot
    exact BackupSlot.bounded_fresh (hmax slotConfig hmem)
  told := by
    show List.Perm [] ((config.faultTolerance.backupPool.map BackupSlot.fresh).filterMap
      BackupSlot.abandonment?)
    rw [abandonments_fresh]
  counter := rfl
  answers := hanswers

/-- What is told of the abandoned slots of a pool. -/
theorem abandonments_eq (slots : List BackupSlot) :
    slots.filterMap BackupSlot.abandonment? =
      (slots.filter (·.state = .abandoned)).map fun slot ↦ ⟨slot.config.id, slot.attempts⟩ := by
  induction slots with
  | nil => rfl
  | cons slot rest ih =>
    by_cases hslot : slot.state = .abandoned
    · have htold : slot.abandonment? = some ⟨slot.config.id, slot.attempts⟩ := if_pos hslot
      rw [List.filterMap_cons_some htold, List.filter_cons_of_pos (by simpa using hslot), ih]
      rfl
    · rw [List.filterMap_cons_none (BackupSlot.abandonment?_of_ne hslot),
        List.filter_cons_of_neg (by simpa using hslot), ih]

/-- What a provisioning does to the pool is its pass. -/
theorem provision_slots (c : Cluster) :
    c.provision.2.healing.slots = c.core.nextPass.slots ∧
      c.provision.2.healing.asked = c.healing.asked ++ c.core.nextPass.asked := by
  have hslots : c.provision.2.core.slots = c.core.nextPass.slots ∧
      c.provision.2.core.asked = c.core.asked ++ c.core.nextPass.asked := by
    rcases Cluster.provision_spec c with ⟨r, -, -, hcore⟩ | ⟨_, -, -, hcore⟩ | ⟨_, -, -, hcore⟩ <;>
      rw [hcore] <;> exact ⟨rfl, rfl⟩
  exact hslots

/-- **The life of the slots.** Let the slots of the pool have distinct ids and at least one attempt
each, and let the provisioner answer in whatever way but without a panic. Then after any run:

* each slot was attempted as often as the provisioner was asked about it, never more often than its
  limit allows, less often while it is available, and just as often when it was given up;
* an abandoned slot is the same after any further run;
* the counter of the exhausted slots is the number of the abandoned ones, and each of them was told
  of in one event, with its id and its attempts;
* every provisioning, made by a call or on the way of one, is a pass in order;
* no call panics, so no count of attempts overflows. -/
theorem slots_live_orderly (config : Config) (sink : SnapshotSink) (provisioner : Provisioner)
    (now : WallTime) (ops : List Operation)
    (hids : (config.faultTolerance.backupPool.map (·.id)).Nodup)
    (hmax : ∀ slot ∈ config.faultTolerance.backupPool, 1 ≤ slot.maxAttempts)
    (hanswers : ∀ history slot text, provisioner history slot ≠ .panicked text) :
    let c := (new config sink provisioner now).run ops
    let abandoned := c.healing.slots.filter (·.state = .abandoned)
    (∀ slot ∈ c.healing.slots,
      slot.attempts.toNat = c.healing.asked.count slot.config.id ∧
      slot.attempts ≤ slot.config.maxAttempts ∧
      (slot.state = .available → slot.attempts < slot.config.maxAttempts) ∧
      (slot.state = .abandoned → slot.attempts = slot.config.maxAttempts)) ∧
    (∀ (more : List Operation) (i : Nat) (slot : BackupSlot), c.healing.slots[i]? = some slot →
      slot.state = .abandoned → (c.run more).healing.slots[i]? = some slot) ∧
    c.healing.counters.exhaustedSlots = UInt64.ofNat abandoned.length ∧
    (c.bus.published.toList.filterMap Event.exhaustion?).Perm
      (abandoned.map fun slot ↦ ⟨slot.config.id, slot.attempts⟩) ∧
    (∀ c' : Cluster, Core.Moves (fun _ ↦ True) (fun _ ↦ True) c.core c'.core →
      BackupPool.InOrder c'.healing.provisioner c'.healing.asked c'.healing.slots c'.core.nextPass ∧
      c'.provision.2.healing.slots = c'.core.nextPass.slots ∧
      c'.provision.2.healing.asked = c'.healing.asked ++ c'.core.nextPass.asked) ∧
    ∀ text, c.provision.1 ≠ .error (.panicked text) ∧ c.enforceFloor.1 ≠ .error (.panicked text) ∧
      (∀ id, (c.recoverReceiver id).1 ≠ .error (.panicked text)) ∧
      c.healthCheck.1 ≠ .error (.panicked text) := by
  intro c abandoned
  have hnew : (new config sink provisioner now).core.Sound fun _ ↦ True :=
    new_sound fun _ _ _ _ _ ↦ trivial
  have hmoves := run_reaches (c := new config sink provisioner now) ops hnew
  have haccount : c.core.Accounted := (new_accounted hids hmax hanswers).moves hmoves
  have hsound : c.core.Sound fun _ ↦ True := hnew.moves hmoves
  have hsteady : c.Steady := steady_of_accounted hsound haccount
  have htold : (c.bus.published.toList.filterMap Event.exhaustion?).Perm
      (abandoned.map fun slot ↦ ⟨slot.config.id, slot.attempts⟩) := by
    rw [← abandonments_eq]
    exact haccount.told
  refine ⟨?_, ?_, ?_, htold, ?_, ?_⟩
  · intro slot hslot
    have hbounded := haccount.bounded slot hslot
    exact ⟨haccount.counted slot hslot, hbounded.le_max, hbounded.available, hbounded.abandoned⟩
  · intro more i slot hi hslot
    exact haccount.abandoned_moves (run_reaches more hsound) hi hslot
  -- Each abandoned slot was told of once, so the counter counts them.
  · have hlength := htold.length_eq
    rw [List.length_map] at hlength
    rw [← hlength]
    exact haccount.counter
  · intro c' hmoves'
    have haccount' := haccount.moves hmoves'
    exact ⟨BackupPool.tryEach_inOrder haccount'.answers haccount'.bounded haccount'.distinct,
      provision_slots c'⟩
  · intro text
    obtain ⟨n, hfloor⟩ := hsteady.enforceFloor_ok
    obtain ⟨report, hcheck⟩ := hsteady.healthCheck_ok
    refine ⟨?_, ?_, fun id ↦ hsteady.recoverReceiver_ne id text, ?_⟩
    · rcases hsteady.provision_spec with ⟨ref, c', heq⟩ | ⟨cause, c', heq⟩ <;> rw [heq] <;>
        exact fun heq ↦ by cases heq
    · rw [hfloor]
      exact fun heq ↦ by cases heq
    · rw [hcheck]
      exact fun heq ↦ by cases heq

/-- A configuration with two slots that may be tried once each. -/
def twoSlots : Config :=
  { Config.default with
    faultTolerance := { FaultToleranceConfig.default with
      backupPool := [⟨"first", "", 1⟩, ⟨"second", "", 1⟩] } }

/-- A provisioner that has no place for the first slot. -/
def refuseFirst : Provisioner := fun history slot ↦
  if slot.id = "first" then .refused (.provisionFailed slot.id "")
  else Provisioner.inMemory history slot

/-- One provisioning gives the first slot up and takes a receiver from the second. -/
theorem slots_live_orderly_twoSlots :
    ((new twoSlots .discard refuseFirst default).run [.provision]).healing.slots.map (·.state) =
      [.abandoned, .inUse] ∧
    ((new twoSlots .discard refuseFirst default).run [.provision]).healing.counters.exhaustedSlots =
      1 := by
  have hanswers : ∀ history slot text, refuseFirst history slot ≠ .panicked text := by
    intro history slot text
    rw [refuseFirst]
    split
    · exact fun heq ↦ by cases heq
    · exact fun heq ↦ by cases heq
  obtain ⟨-, -, hcounter, -⟩ := slots_live_orderly twoSlots .discard refuseFirst default
    [.provision] (by decide) (by decide) hanswers
  exact ⟨by decide +kernel, hcounter.trans (by decide +kernel)⟩

end Cluster

end SensorCluster
