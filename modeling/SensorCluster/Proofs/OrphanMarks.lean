import SensorCluster.Proofs.Flights
import SensorCluster.Proofs.RunningFloor

/-!
# Marks without a recovery

A mark says that a recovery of the receiver is under way. It is set when the recovery is scheduled,
and what clears it is part of the recovery itself. So a recovery that is taken off the agenda before
it has run leaves its mark behind, **and nothing clears that mark any more**: a health check takes
the receiver for attended to, and the floor takes it for a receiver that will soon be running.

Only a shutdown of the fault tolerance does this, whatever its grace. `orphaned_marks` says exactly
which marks are left over by it and what follows; up to the first shutdown there are none. In
`mark_orphaned` there is one.
-/

namespace SensorCluster

namespace Cluster

/-- **Which marks have no recovery**: those of the recoveries that were dropped, each of them and no
other. After any history of a new cluster, whatever its provisioner does:

* the marks are those of the recoveries in flight and those of the dropped ones, so all of them have
  a recovery exactly when none was dropped, which is so as long as the fault tolerance was not shut
  down;
* for an unhealthy receiver that has no recovery in flight the next health check schedules one,
  unless one of its recoveries was dropped;
* the floor counts a dropped recovery like one in flight, and asks nobody when these make it up;
* a dropped recovery keeps its mark and is never in flight, whatever happens later. -/
theorem orphaned_marks (config : Config) (sink : SnapshotSink) (provisioner : Provisioner)
    (now : WallTime) (history : List Happening) :
    let c₀ := new config sink provisioner now
    let c := c₀.undergoAll history
    let dropped := c₀.dropped history
    (c.healing.pending.Perm (c.docket.inFlight ++ dropped) ∧
      (c.healing.pending ⊆ c.docket.inFlight ↔ dropped = []) ∧
      (c.agenda.isShutDown healingGroup = false → dropped = [])) ∧
    (∀ id ∈ c.health.unhealthyIds, id ∉ c.docket.inFlight →
      (id ∈ c.healthCheck.2.docket.inFlight ↔ id ∉ dropped)) ∧
    (c.healing.config.minHealthyReceivers.toNat ≤
        c.runningCount + c.docket.inFlight.length + dropped.length →
      c.enforceFloor = (.ok 0, c)) ∧
    ∀ more, ∀ id ∈ dropped, id ∈ (c.undergoAll more).healing.pending ∧
      id ∉ (c.undergoAll more).docket.inFlight := by
  intro c₀ c dropped
  obtain ⟨-, hmatched⟩ : c.docket.Tidy ∧ c.docket.Matched dropped := docket_of_history ..
  obtain ⟨-, hfaithful⟩ : c.Holding ∧ c.chronicle.Faithful := faithful_of_history ..
  have hmarks : c.healing.pending.Perm (c.docket.inFlight ++ dropped) := hmatched.marks
  have hlater : ∀ more, ∀ id ∈ dropped, id ∈ (c.undergoAll more).healing.pending ∧
      id ∉ (c.undergoAll more).docket.inFlight := by
    intro more id hid
    obtain ⟨-, hlater⟩ := docket_of_history config sink provisioner now (history ++ more)
    have hmatched' : (c.undergoAll more).docket.Matched (dropped ++ c.dropped more) := by
      rw [undergoAll_append, dropped_append] at hlater
      exact hlater
    have hid' : id ∈ dropped ++ c.dropped more := List.mem_append_left _ hid
    exact ⟨hmatched'.marks.mem_iff.2 (List.mem_append_right _ hid'),
      fun hin ↦ (List.nodup_append.1 hmatched'.nodup).2.2 id hin id hid' rfl⟩
  have hnone : ∀ id ∈ dropped, id ∉ c.docket.inFlight := fun id hid ↦ (hlater [] id hid).2
  refine ⟨⟨hmarks, ⟨fun hall ↦ ?_, fun hempty ↦ ?_⟩, fun hopen ↦ ?_⟩, fun id hid hin ↦ ?_,
    fun hfloor ↦ ?_, hlater⟩
  · refine List.eq_nil_iff_forall_not_mem.2 fun id hid ↦ hnone id hid (hall ?_)
    exact hmarks.mem_iff.2 (List.mem_append_right _ hid)
  · intro id hid
    have hmem := hmarks.mem_iff.1 hid
    rwa [hempty, List.append_nil] at hmem
  · exact dropped_eq_nil (new_docket ..).1 hopen
  · rw [healthCheck_docket, Docket.scheduleAll_spec _ _ (unhealthyIds_nodup hfaithful.distinct),
      Docket.inFlight_withRecoveries, List.mem_append, List.mem_filter]
    have hpending : id ∈ c.docket.pending ↔ id ∈ dropped := by
      rw [hmatched.marks.mem_iff, List.mem_append, or_iff_right hin]
    simp [hin, hid, hpending]
  · rw [Nat.add_assoc, ← List.length_append, ← hmarks.length_eq] at hfloor
    rw [enforceFloor, fillUp, if_pos hfloor]

/-- A recovery is dropped, and then its receiver is started by hand. It is healthy, and the mark
stays. -/
theorem orphaned_marks_startedByHand :
    let history : List Happening :=
      [.request (.operation (.register (.new "r1" "r1:1"))) trivial,
        .request (.operation .healthCheck) trivial,
        .request (.operation (.stopHealing 1000)) trivial]
    let c := (new oneSlot .discard .inMemory default).undergoAll history
    let c' := c.undergoAll [.request (.operation (.start 0)) trivial]
    (c'.replica 0).isHealthy = true ∧ "r1" ∈ c'.healing.pending ∧ "r1" ∉ c'.docket.inFlight := by
  intro history c c'
  obtain ⟨-, -, -, hlater⟩ := orphaned_marks oneSlot .discard .inMemory default history
  exact ⟨by decide +kernel, hlater _ "r1" (by decide +kernel)⟩

/-- **A mark without a recovery.** The only receiver is stopped, a health check schedules its
recovery, and the fault tolerance is shut down with a grace of one second. The mark stays. The next
health check finds the receiver unhealthy and schedules nothing for it, and the floor of two counts
the receiver from the pool and the mark. -/
theorem mark_orphaned :
    ∃ c₀, ofConfig oneReceiver default = .ok c₀ ∧
      let c := c₀.run [.stop 0, .healthCheck, .stopHealing 1000]
      c.healing.pending = ["r1"] ∧ c.docket.inFlight = [] ∧ c.health.unhealthyIds = ["r1"] ∧
        c.healthCheck.2.docket.inFlight = [] ∧
        c.runningCount < oneReceiver.faultTolerance.minHealthyReceivers.toNat ∧
        c.enforceFloor.2.runningCount = c.runningCount := by
  refine ⟨_, rfl, ?_⟩
  decide +kernel

end Cluster

end SensorCluster
