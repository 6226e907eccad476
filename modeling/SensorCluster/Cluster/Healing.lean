import SensorCluster.Cluster.Routing

/-!
# Bringing receivers back

A **health check** schedules a recovery for each unhealthy receiver that has none under way, and
then sees to it that enough receivers are running. A **recovery** first starts the receiver again;
one that cannot be started any more is replaced by a receiver from the backup pool. A **load check**
flags the receivers whose message counts stray from the mean; it changes nothing.

A provisioner may panic. Then the operation that asked it stops with that panic, and what was done
before stays done.
-/

namespace SensorCluster

namespace Cluster

/-- Changes the fault tolerance. -/
def modifyHealing (c : Cluster) (f : Healing → Healing) : Cluster :=
  { c with healing := f c.healing }

/-- Changes the counters of the fault tolerance. -/
def countHealing (c : Cluster) (f : HealingCounters → HealingCounters) : Cluster :=
  c.modifyHealing fun h ↦ { h with counters := f h.counters }

/-! ### The backup pool -/

/-- Counts and tells of the slots that were given up. -/
def reportAbandoned (c : Cluster) (abandoned : List Abandonment) : Cluster :=
  abandoned.foldl
    (fun c a ↦
      let c := c.countHealing fun n ↦ { n with exhaustedSlots := n.exhaustedSlots.increment }
      let c := c.write
        [.error s!"Backup slot {a.slot} abandoned after {a.attempts} attempts"]
      c.publish (.recoveryExhausted a.slot a.attempts))
    c

/-- Takes a receiver from the first slot of the pool that yields one. It is not registered. -/
def provision (c : Cluster) : Except Fault ReplicaRef × Cluster :=
  let pass := BackupPool.tryEach c.healing.provisioner c.healing.asked none c.healing.slots
  let c := c.modifyHealing fun h ↦
    { h with slots := pass.slots, asked := h.asked ++ pass.asked }
  let c := c.write pass.lines
  match pass.outcome with
  | .delivered receiver =>
    let c := c.countHealing fun n ↦ { n with provisioned := n.provisioned.increment }
    let (ref, c) := c.create receiver
    (.ok ref, c.reportAbandoned pass.abandoned)
  | .failed cause => (.error (.refused cause), c.reportAbandoned pass.abandoned)
  | .panicked text => (.error (.panicked text), c)

/-- Gives back the slot that a receiver was taken from. -/
def releaseSlot (c : Cluster) (id : String) : Cluster :=
  let (slots, abandoned) := BackupPool.release id c.healing.slots
  (c.modifyHealing fun h ↦ { h with slots }).reportAbandoned abandoned

/-! ### Recovery -/

/-- What a recovery did. -/
inductive RecoveryAction
  | alreadyRunning
  | restarted
  | replaced (replacement : String)
  deriving DecidableEq, Repr, Inhabited

/-- Replaces a receiver for good by one from the backup pool. -/
def replace (c : Cluster) (failed : ReplicaRef) : Except Fault RecoveryAction × Cluster :=
  let failedId := (c.replica failed).id
  let (_, c) := c.unregister failedId
  let c := c.retire failed
  let c := c.releaseSlot failedId
  match c.provision with
  | (.ok ref, c) =>
    let id := (c.replica ref).id
    let (_, c) := c.register ref
    let c := c.countHealing fun n ↦ { n with replacements := n.replacements.increment }
    let c := c.write [.info s!"Receiver {failedId} replaced by {id}"]
    (.ok (.replaced id), c.publish (.receiverReplaced failedId id))
  | (.error (.refused cause), c) =>
    (.error (.refused cause), c.publish (.receiverFailure (some failedId) cause.message))
  | (.error (.panicked text), c) => (.error (.panicked text), c)

/-- Brings the registered receiver of an id back: started again, or replaced. -/
def recoverReceiver (c : Cluster) (id : String) : Except Fault RecoveryAction × Cluster :=
  match c.registered? id with
  | none => (.error (.refused (.unknownReceiver id)), c)
  | some ref =>
    if (c.replica ref).isHealthy then (.ok .alreadyRunning, c)
    else match c.recover ref with
      | (.ok (), c) =>
        let c := c.countHealing fun n ↦ { n with restarts := n.restarts.increment }
        let (source, c) := c.restoreFromBestPeer ref
        let sourceText := source.getD "none"
        let c := c.write [.info s!"Receiver {id} restarted (restored from {sourceText})"]
        (.ok .restarted, c.publish (.receiverRecovered id))
      | (.error cause, c) =>
        let c := c.write
          [.warn (s!"Restart of {id} failed: " ++ cause.message ++ ", replacing")]
        c.replace ref

/-- The recovery that a health check scheduled. Its mark is cleared however it ends. -/
def runRecovery (c : Cluster) (id : String) : RunOutcome × Cluster :=
  let clear (c : Cluster) : Cluster :=
    c.modifyHealing fun h ↦ { h with pending := h.pending.filter (· ≠ id) }
  match c.recoverReceiver id with
  | (.ok _, c) => (.done, clear c)
  | (.error (.refused cause), c) =>
    let text := s!"Recovery of {id} failed: " ++ cause.message
    (.done, clear (c.write [if cause.isFatal then .error text else .warn text]))
  | (.error (.panicked _), c) => (.panicked, clear c)

/-! ### The floor -/

/-- Registers receivers from the backup pool while too few are running or about to; the answer is
how many, over `added`. Each one uses up a slot, so as many rounds as slots are enough. -/
def fillUp (floor : Nat) : Nat → Nat → Cluster → Except Fault Nat × Cluster
  | 0, added, c => (.ok added, c)
  | rounds + 1, added, c =>
    if floor ≤ c.runningCount + c.healing.pending.length then (.ok added, c)
    else match c.provision with
      | (.ok ref, c) =>
        let id := (c.replica ref).id
        let c := c.write [.info s!"Below floor of {floor} running receivers, adding {id}"]
        let (_, c) := c.register ref
        fillUp floor rounds (added + 1) c
      | (.error (.refused cause), c) =>
        let text := s!"Cannot restore floor of {floor} running receivers " ++
          s!"({c.runningCount} running): " ++ cause.message
        (.ok added, c.write [if cause.isFatal then .error text else .warn text])
      | (.error (.panicked text), c) => (.error (.panicked text), c)

/-- Sees to it that enough receivers are running, as far as the backup pool allows; the answer is
how many were added. -/
def enforceFloor (c : Cluster) : Except Fault Nat × Cluster :=
  fillUp c.healing.config.minHealthyReceivers.toNat (c.healing.slots.length + 1) 0 c

/-! ### The health check -/

/-- The task group of the fault tolerance. -/
def healingGroup : String := "fault-tolerance"

/-- What a health check did. -/
structure HealthCheckReport where
  healthy : Nat
  unhealthy : Nat
  scheduled : Nat
  provisioned : Nat
  deriving DecidableEq, Repr, Inhabited

/-- The grace of a recovery. -/
def recoveryGrace (c : Cluster) : Duration := .ofMillis c.healing.config.recoveryGrace

/-- Schedules the recovery of a receiver, unless it has one under way; the answer says whether it
did. -/
def scheduleRecovery (c : Cluster) (id : String) : Bool × Cluster :=
  if id ∈ c.healing.pending then
    (false, c.write [.debug s!"Recovery of {id} already pending"])
  else
    let c := c.modifyHealing fun h ↦ { h with pending := h.pending ++ [id] }
    let graceText := c.recoveryGrace.render
    let c := c.write [.warn s!"Receiver {id} unhealthy, recovery in {graceText}"]
    let c := c.countHealing fun n ↦
      { n with recoveriesScheduled := n.recoveriesScheduled.increment }
    let agenda := c.agenda.spawnDelayed healingGroup ("recover-" ++ id)
      c.healing.config.recoveryGrace.toNat (.recover id)
    (true, { c with agenda })

/-- Schedules recoveries; the answer is how many, over `scheduled`. -/
def scheduleRecoveries (c : Cluster) (scheduled : Nat) : List String → Nat × Cluster
  | [] => (scheduled, c)
  | id :: rest =>
    let (ok, c) := c.scheduleRecovery id
    c.scheduleRecoveries (scheduled + ok.toNat) rest

/-- Schedules a recovery for each unhealthy receiver and then enforces the floor. -/
def healthCheck (c : Cluster) : Except Fault HealthCheckReport × Cluster :=
  let c := c.countHealing fun n ↦ { n with healthChecks := n.healthChecks.increment }
  let health := c.health
  let (scheduled, c) := c.scheduleRecoveries 0 health.unhealthyIds
  match c.enforceFloor with
  | (.ok provisioned, c) => (.ok ⟨health.healthy, health.unhealthy, scheduled, provisioned⟩, c)
  | (.error fault, c) => (.error fault, c)

/-! ### The load check -/

/-- The mean load and the receivers that stray from it. -/
structure LoadReport where
  mean : Float
  imbalanced : List String

/-- Does a load stray from the mean by more than the threshold? -/
def isImbalanced (threshold mean : Float) (load : UInt64) : Bool :=
  threshold < (load.toFloat - mean).abs / mean

/-- Flags the running receivers whose message counts stray from the mean. -/
def loadCheck (c : Cluster) : LoadReport × Cluster :=
  let running := (c.fleet.running c.coordinator.registry).map c.replica
  if running.isEmpty then (⟨0.0, []⟩, c)
  else
    let total : UInt64 := (running.map (·.total)).foldl (· + ·) 0
    let mean := total.toFloat / running.length.toUInt64.toFloat
    if mean == 0.0 then (⟨mean, []⟩, c)
    else
      let flagged :=
        running.filter fun r ↦ isImbalanced c.healing.config.imbalanceThreshold mean r.total
      let meanText := Decimal.onePlaceText mean
      let lines := flagged.map fun r ↦ LogLine.warn
        s!"Receiver {r.id} load imbalanced: {r.total} messages vs mean {meanText}"
      let c := (c.write lines).countHealing fun n ↦
        { n with imbalanceFlags := n.imbalanceFlags.add flagged.length.toUInt64 }
      (⟨mean, flagged.map (·.id)⟩, c)

end Cluster

end SensorCluster
