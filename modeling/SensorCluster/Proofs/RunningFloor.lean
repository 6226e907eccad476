import SensorCluster.Proofs.FillingUp

/-!
# The floor of running receivers

A health check is to end with enough receivers that are running or about to: at least the floor of
the configuration, unless the backup pool has nothing available. What the check compares with the
floor is a sum, the number of running receivers plus the number of recoveries under way. **The sum
is not the number of receivers it means.** A mark can stand for a receiver that is running already,
because it was detached or because something else restarted it, and then the receiver is counted
twice; or it stands for nobody, because the receiver was unregistered, and is counted all the same.

## What holds

* `runningCount_add_pending`: the sum is the number of the receivers it means, the *standing* ones,
  plus the number of these *hollow* marks.
* The check fills up until the sum reaches the floor or the pool has nothing available
  (`healthCheck_sum`), and it adds nobody once the sum is there.
* So the floor can be missed by as many receivers as there are hollow marks. It is reached exactly
  when the check found no mark that it would count in vain, or enough receivers registered
  (`healthCheck_floor`); `floor_missed` is a node that misses it.
-/

namespace SensorCluster

namespace Cluster

variable {c c' : Cluster}

/-- The registered receivers that are running or have a recovery under way. -/
def standing (c : Cluster) : Roster :=
  c.coordinator.registry.filter fun ref ↦
    (c.replica ref).isRunning ∨ (c.replica ref).id ∈ c.healing.pending

/-- Is the recovery of an id that of a registered receiver that is not running? -/
def IsDown (c : Cluster) (id : String) : Prop :=
  ∃ ref ∈ c.coordinator.registry, (c.replica ref).id = id ∧ (c.replica ref).isRunning = false

instance (c : Cluster) (id : String) : Decidable (c.IsDown id) :=
  inferInstanceAs (Decidable (∃ ref ∈ c.coordinator.registry,
    (c.replica ref).id = id ∧ (c.replica ref).isRunning = false))

/-- The recoveries under way for a receiver that is running, or for nobody. -/
def hollowMarks (c : Cluster) : List String := c.healing.pending.filter fun id ↦ ¬c.IsDown id

/-- Is there a slot that could be asked for a receiver? -/
def HasAvailableSlot (c : Cluster) : Prop := ∃ slot ∈ c.healing.slots, slot.state = .available

instance (c : Cluster) : Decidable c.HasAvailableSlot :=
  inferInstanceAs (Decidable (∃ slot ∈ c.healing.slots, slot.state = .available))

/-! ### Counting -/

/-- The receivers that are down and about to be recovered are as many as the marks that stand for
one of them. -/
theorem length_waiting (hids : (c.fleet.ids c.coordinator.registry).Nodup)
    (hpending : c.healing.pending.Nodup) :
    (c.standing.filter fun ref ↦ !(c.replica ref).isRunning).length =
      (c.healing.pending.filter fun id ↦ !decide (¬c.IsDown id)).length := by
  have hwaiting : ((c.standing.filter fun ref ↦ !(c.replica ref).isRunning).map fun ref ↦
      (c.replica ref).id).Perm (c.healing.pending.filter fun id ↦ !decide (¬c.IsDown id)) := by
    have hsub : (c.standing.filter fun ref ↦ !(c.replica ref).isRunning).Sublist
        c.coordinator.registry := List.filter_sublist.trans List.filter_sublist
    -- neither list names anybody twice, so it is enough that they have the same members
    refine (List.perm_ext_iff_of_nodup (hids.sublist (hsub.map _))
      (hpending.sublist List.filter_sublist)).2 fun id ↦ ?_
    rw [List.mem_map, List.mem_filter]
    constructor
    · rintro ⟨ref, href, rfl⟩
      obtain ⟨hstanding, hdown⟩ := List.mem_filter.1 href
      obtain ⟨hmem, hcase⟩ := List.mem_filter.1 hstanding
      have hdown : (c.replica ref).isRunning = false := by simpa using hdown
      have hmark : (c.replica ref).id ∈ c.healing.pending := by simpa [hdown] using hcase
      exact ⟨hmark, by simpa using ⟨ref, hmem, rfl, hdown⟩⟩
    · rintro ⟨hmark, hdown⟩
      obtain ⟨ref, hmem, rfl, hstate⟩ : c.IsDown id := by simpa using hdown
      refine ⟨ref, List.mem_filter.2 ⟨List.mem_filter.2 ⟨hmem, ?_⟩, by simpa using hstate⟩, rfl⟩
      simpa using Or.inr hmark
  rw [← hwaiting.length_eq, List.length_map]

/-- **What the floor is compared with** is the number of the standing receivers plus the number of
the hollow marks. -/
theorem runningCount_add_pending (hids : (c.fleet.ids c.coordinator.registry).Nodup)
    (hpending : c.healing.pending.Nodup) :
    c.runningCount + c.healing.pending.length = c.standing.length + c.hollowMarks.length := by
  have hrunning : c.standing.filter (fun ref ↦ (c.replica ref).isRunning) =
      c.fleet.running c.coordinator.registry := by
    rw [standing, List.filter_filter, Fleet.running]
    refine List.filter_congr fun ref _ ↦ ?_
    show ((c.replica ref).isRunning && _) = (c.replica ref).isRunning
    cases (c.replica ref).isRunning <;> simp
  have hstanding := c.standing.length_eq_length_filter_add fun ref ↦ (c.replica ref).isRunning
  have hmarks := c.healing.pending.length_eq_length_filter_add fun id ↦ decide (¬c.IsDown id)
  have hwaiting := length_waiting hids hpending
  rw [hrunning] at hstanding
  rw [runningCount, hollowMarks]
  omega

/-! ### Scheduling -/

/-- Every recovery under way is that of a registered receiver that is down, and every registered
receiver that is running is attached. -/
structure Clean (c : Cluster) : Prop where
  down : ∀ id ∈ c.healing.pending, c.IsDown id
  attached : ∀ ref ∈ c.coordinator.registry,
    (c.replica ref).isRunning = true → (c.replica ref).inbound = true

theorem isDown_afterScheduling (id : String) : c.afterScheduling.IsDown id ↔ c.IsDown id := by
  obtain ⟨hfleet, hcoordinator, -⟩ := afterScheduling_frame c
  simp only [IsDown, replica, hfleet, hcoordinator]

/-- **Once the recoveries are scheduled, everybody registered is standing**: who is not running is
unhealthy, and so it is marked. -/
theorem standing_afterScheduling {ref : ReplicaRef}
    (href : ref ∈ c.afterScheduling.coordinator.registry) :
    (c.afterScheduling.replica ref).isRunning = true ∨
      (c.afterScheduling.replica ref).id ∈ c.afterScheduling.healing.pending := by
  obtain ⟨hfleet, hcoordinator, hmarks⟩ := afterScheduling_frame c
  rw [hcoordinator] at href
  have hsame : c.afterScheduling.replica ref = c.replica ref := by rw [replica, hfleet, replica]
  rw [hsame]
  cases hrunning : (c.replica ref).isRunning with
  | true => exact .inl rfl
  | false =>
    refine .inr ((hmarks _).2 (.inr (mem_unhealthyIds.2 ⟨ref, href, ?_, rfl⟩)))
    rw [Replica.isHealthy, hrunning]
    rfl

/-- **Where hollow marks come from**: a health check has none exactly when the cluster was clean. -/
theorem hollowMarks_afterScheduling (hids : (c.fleet.ids c.coordinator.registry).Nodup) :
    c.afterScheduling.hollowMarks = [] ↔ c.Clean := by
  obtain ⟨-, -, hmarks⟩ := afterScheduling_frame c
  have hhollow : c.afterScheduling.hollowMarks = [] ↔
      ∀ id ∈ c.afterScheduling.healing.pending, c.IsDown id := by
    rw [hollowMarks, List.filter_eq_nil_iff]
    refine forall₂_congr fun id _ ↦ Iff.trans ?_ (isDown_afterScheduling id)
    simp
  rw [hhollow]
  constructor
  · intro hdown
    refine ⟨fun id hid ↦ hdown id ((hmarks id).2 (.inl hid)), fun ref href hrunning ↦ ?_⟩
    by_contra hdetached
    -- a detached receiver is unhealthy, so it is marked though it is running
    have hunhealthy : (c.replica ref).isHealthy = false := by
      rw [Replica.isHealthy, hrunning]
      simpa using hdetached
    obtain ⟨other, hother, hid, hstopped⟩ :=
      hdown _ ((hmarks _).2 (.inr (mem_unhealthyIds.2 ⟨ref, href, hunhealthy, rfl⟩)))
    obtain rfl := Fleet.eq_of_id_eq hids hother href hid
    rw [hrunning] at hstopped
    cases hstopped
  · intro hclean id hid
    rcases (hmarks id).1 hid with hid | hid
    · exact hclean.down id hid
    · obtain ⟨ref, href, hunhealthy, rfl⟩ := mem_unhealthyIds.1 hid
      refine ⟨ref, href, rfl, ?_⟩
      cases hrunning : (c.replica ref).isRunning with
      | false => rfl
      | true =>
        rw [Replica.isHealthy, hrunning, hclean.attached ref href hrunning] at hunhealthy
        cases hunhealthy

/-! ### The floor -/

/-- If everybody registered was running or marked, everybody is standing. -/
theorem Extended.standing_eq {extra : Roster} (h : Extended c extra c')
    (hall : ∀ ref ∈ c.coordinator.registry,
      (c.replica ref).isRunning = true ∨ (c.replica ref).id ∈ c.healing.pending) :
    c'.standing = c'.coordinator.registry := by
  refine List.filter_eq_self.2 fun ref href ↦ ?_
  rw [h.registry] at href
  rcases List.mem_append.1 href with href | href
  · obtain ⟨hid, hstate⟩ := h.same ref href
    have hrunning : (c'.replica ref).isRunning = (c.replica ref).isRunning := by
      rw [Replica.isRunning, hstate]
      rfl
    rw [hrunning, hid, h.pending]
    simpa using hall ref href
  · simp [h.running ref href]

/-- A slot is available when its id is among those of the available slots. -/
theorem available_ne_nil (h : c.HasAvailableSlot) : BackupPool.available c.healing.slots ≠ [] := by
  obtain ⟨slot, hslot, hstate⟩ := h
  have hmem : slot ∈ c.healing.slots.filter (·.state = .available) :=
    List.mem_filter.2 ⟨hslot, by simpa using hstate⟩
  exact List.ne_nil_of_mem (List.mem_map_of_mem hmem)

/-- The floor is that of the settings, also after the recoveries were scheduled. -/
theorem Supplied.config_afterScheduling (h : c.Supplied) :
    c.afterScheduling.healing.config = c.healing.config := by
  have hscheduled : c.Reaches c.afterScheduling := afterScheduling_leads
  exact (hscheduled h.sound).fixed.2

/-- **A health check enforces the floor on the sum**, as long as a slot is available. -/
theorem Supplied.healthCheck_sum (h : c.Supplied) (havailable : c.healthCheck.2.HasAvailableSlot) :
    c.healing.config.minHealthyReceivers.toNat ≤
      c.healthCheck.2.runningCount + c.healthCheck.2.healing.pending.length := by
  have hsupplied : c.afterScheduling.Supplied := h.reaches afterScheduling_leads
  -- the check allows one round more than there are slots
  have hrounds : (BackupPool.available c.afterScheduling.healing.slots).length <
      c.afterScheduling.healing.slots.length + 1 := by
    rw [BackupPool.available, List.length_map]
    exact Nat.lt_succ_of_le (List.length_filter_le _ _)
  have hnonempty := available_ne_nil havailable
  rw [← h.config_afterScheduling]
  rw [(healthCheck_spec c).1, enforceFloor] at hnonempty ⊢
  exact (hsupplied.fillUp_floor _ _ 0 hrounds).resolve_left hnonempty

/-- After the recoveries are scheduled, a health check only adds receivers that are running, and
stops at the floor. -/
theorem Supplied.healthCheck_extended (h : c.Supplied) :
    ∃ extra : Roster, Extended c.afterScheduling extra c.healthCheck.2 ∧
      (extra = [] ∨ c.afterScheduling.runningCount + c.afterScheduling.healing.pending.length +
        extra.length ≤ c.healing.config.minHealthyReceivers.toNat) := by
  have hsupplied : c.afterScheduling.Supplied := h.reaches afterScheduling_leads
  rw [← h.config_afterScheduling, (healthCheck_spec c).1, enforceFloor]
  exact hsupplied.fillUp_extended _ _ 0

/-- After a health check everybody registered is running or about to. -/
theorem Supplied.standing_healthCheck (h : c.Supplied) :
    c.healthCheck.2.standing = c.healthCheck.2.coordinator.registry := by
  obtain ⟨extra, hextended, -⟩ := h.healthCheck_extended
  exact hextended.standing_eq fun _ href ↦ standing_afterScheduling href

/-- What the check compares with the floor: everybody registered, and the hollow marks. -/
theorem Supplied.sum_afterScheduling (h : c.Supplied) (hpending : c.healing.pending.Nodup) :
    c.afterScheduling.runningCount + c.afterScheduling.healing.pending.length =
      c.coordinator.registry.length + c.afterScheduling.hollowMarks.length := by
  have hscheduled : c.Reaches c.afterScheduling := afterScheduling_leads
  have hstanding : c.afterScheduling.standing = c.coordinator.registry := by
    rw [(Extended.refl c.afterScheduling).standing_eq fun _ href ↦ standing_afterScheduling href,
      (afterScheduling_frame c).2.1]
  rw [← hstanding]
  exact runningCount_add_pending (h.reaches hscheduled).sound.ids
    ((hscheduled h.sound).pending_nodup hpending)

/-- **When the floor is reached**: with a slot left, exactly when no mark was counted in vain, or
when enough receivers were registered before the check. -/
theorem Supplied.floor_le_standing_iff (h : c.Supplied) (hpending : c.healing.pending.Nodup)
    (havailable : c.healthCheck.2.HasAvailableSlot) :
    c.healing.config.minHealthyReceivers.toNat ≤ c.healthCheck.2.standing.length ↔
      c.Clean ∨
        c.healing.config.minHealthyReceivers.toNat ≤ c.coordinator.registry.length := by
  obtain ⟨extra, hextended, hbound⟩ := h.healthCheck_extended
  have hreached := h.healthCheck_sum havailable
  have hsum := h.sum_afterScheduling hpending
  have hclean : c.Clean ↔ c.afterScheduling.hollowMarks.length = 0 := by
    rw [← hollowMarks_afterScheduling h.sound.ids, List.length_eq_zero_iff]
  have hlength : c.healthCheck.2.standing.length =
      c.coordinator.registry.length + extra.length := by
    rw [h.standing_healthCheck, hextended.registry, List.length_append,
      (afterScheduling_frame c).2.1]
  rw [hextended.runningCount, hextended.pending] at hreached
  rw [hclean, hlength]
  -- without an addition the registered receivers decide, with one the sum came to the floor at most
  rcases hbound with rfl | hbound
  · rw [List.length_nil] at hreached ⊢
    omega
  · omega

/-- **The floor after a health check**, in every state that a node built from a valid configuration
reaches. The check comes to its end, and then every registered receiver is running or about to.
While a slot is available, they miss the floor by no more than there are hollow marks. They reach it
exactly when the cluster was clean before the check, with no running receiver detached and no
recovery under way but those of registered receivers that are down, or when enough receivers were
registered before the check. -/
theorem healthCheck_floor (config : Config) (now : WallTime) (c₀ : Cluster) (ops : List Operation)
    (h : ofConfig config now = .ok c₀) :
    let c := c₀.run ops
    let c' := c.healthCheck.2
    let floor := config.faultTolerance.minHealthyReceivers.toNat
    (∃ report, c.healthCheck.1 = .ok report) ∧
    c'.standing = c'.coordinator.registry ∧ c'.standing.Nodup ∧
    c'.runningCount + c'.healing.pending.length = c'.standing.length + c'.hollowMarks.length ∧
    (c'.HasAvailableSlot → floor ≤ c'.standing.length + c'.hollowMarks.length) ∧
    (c'.HasAvailableSlot →
      (floor ≤ c'.standing.length ↔ c.Clean ∨ floor ≤ c.coordinator.registry.length)) := by
  intro c c' floor
  obtain ⟨hsupplied, hconfig, hpending⟩ := supplied_of_ofConfig ops h
  have hfloor : c.healing.config.minHealthyReceivers.toNat = floor := by rw [hconfig]
  have hchecked : c.Reaches c' := healthCheck_leads
  have hids : (c'.fleet.ids c'.coordinator.registry).Nodup := (hsupplied.reaches hchecked).sound.ids
  have hstanding : c'.standing = c'.coordinator.registry := hsupplied.standing_healthCheck
  have hcount : c'.runningCount + c'.healing.pending.length =
      c'.standing.length + c'.hollowMarks.length :=
    runningCount_add_pending hids ((hchecked hsupplied.sound).pending_nodup hpending)
  refine ⟨hsupplied.steady.healthCheck_ok, hstanding, ?_, hcount, fun havailable ↦ ?_,
    fun havailable ↦ ?_⟩
  · rw [hstanding]
    exact List.Nodup.of_map _ hids
  · rw [← hcount, ← hfloor]
    exact hsupplied.healthCheck_sum havailable
  · rw [← hfloor]
    exact hsupplied.floor_le_standing_iff hpending havailable

/-- A configuration with one receiver, one slot and a floor of two. -/
def oneReceiver : Config :=
  { Config.default with
    receivers := [⟨"r1", "r1:1"⟩]
    faultTolerance := { FaultToleranceConfig.default with backupPool := [⟨"b1", "b1:1", 3⟩] } }

/-- **The floor is missed.** The only receiver is detached and goes on running. The check takes it
for one running receiver and one recovery under way, that is for two, and leaves the slot alone. -/
theorem floor_missed :
    ∃ c₀, ofConfig oneReceiver default = .ok c₀ ∧
      let c' := (c₀.run [.detach 0]).healthCheck.2
      c'.HasAvailableSlot ∧
        c'.standing.length < oneReceiver.faultTolerance.minHealthyReceivers.toNat := by
  refine ⟨_, rfl, ?_⟩
  decide +kernel

/-- When the receiver is stopped instead, the check takes a receiver from the slot. -/
theorem healthCheck_floor_stopped :
    ∃ c₀, ofConfig oneReceiver default = .ok c₀ ∧
      let c' := (c₀.run [.stop 0]).healthCheck.2
      c'.standing = c'.coordinator.registry ∧ c'.standing.length = 2 := by
  refine ⟨_, rfl, ?_⟩
  have hfloor := healthCheck_floor oneReceiver default _ [.stop 0] rfl
  exact ⟨hfloor.2.1, by decide +kernel⟩

end Cluster

end SensorCluster
