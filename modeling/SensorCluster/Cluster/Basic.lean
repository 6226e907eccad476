import SensorCluster.Agenda
import SensorCluster.Config
import SensorCluster.EventBus

/-!
# The state of a cluster

A `Cluster` is everything one node holds: the fleet of receivers, the coordinator with its
registries, the replication with its pool, the fault tolerance with its backup pool, the event bus,
the tasks that wait for their time, and the log.

**The parts are values of their own**, so an operation that leaves a part alone leaves it alone by
definition. The receivers are in none of them: the registry and the replication pool are rosters of
the fleet, and a receiver that was removed from both still exists.

What comes from outside is part of the state too: the time the wall clock shows, the provisioner,
the sink for snapshots and the observers.
-/

namespace SensorCluster

/-- The part that routes messages. -/
structure Coordinator where
  nodeId : String
  /-- The registered receivers, in registration order. -/
  registry : Roster
  sensors : SensorRegistry
  placement : Placement
  /-- The merged vectors of all receivers that accepted a message. -/
  globalVector : VersionVector
  totalMessages : Counter
  failedRoutes : Counter

/-- What became of a snapshot that was offered to a sink. -/
inductive SinkAnswer
  /-- It was noted in the log and dropped. -/
  | dropped
  | kept
  | refused (cause : ClusterError)

/-- Where snapshots go. -/
abbrev SnapshotSink := Snapshot → SinkAnswer

/-- The sink that drops every snapshot. -/
def SnapshotSink.discard : SnapshotSink := fun _ ↦ .dropped

/-- What the replication counts. -/
structure ReplicationCounters where
  syncCycles : Counter
  pairsCopied : Counter
  pairsSkipped : Counter
  conflictsDetected : Counter
  backupsTaken : Counter
  backupFailures : Counter
  recoveries : Counter
  restores : Counter
  bootstrapSyncs : Counter
  deriving DecidableEq, Repr, Inhabited

/-- The part that keeps the receivers alike. -/
structure Replication where
  config : ReplicationConfig
  /-- The receivers it looks after, in the order in which they joined. -/
  pool : Roster
  counters : ReplicationCounters
  sink : SnapshotSink
  /-- The snapshots that the sink kept. -/
  kept : Array Snapshot
  started : Bool

/-- What the fault tolerance counts. -/
structure HealingCounters where
  healthChecks : Counter
  recoveriesScheduled : Counter
  restarts : Counter
  replacements : Counter
  provisioned : Counter
  exhaustedSlots : Counter
  imbalanceFlags : Counter
  deriving DecidableEq, Repr, Inhabited

/-- The part that restarts and replaces receivers. -/
structure Healing where
  config : FaultToleranceConfig
  slots : List BackupSlot
  provisioner : Provisioner
  /-- The slots the provisioner was asked about, oldest first. -/
  asked : List String
  /-- The receivers with a recovery under way. -/
  pending : List String
  counters : HealingCounters
  started : Bool

/-- What the tasks of a node do. -/
inductive Duty
  | sync
  | backup
  | recoveryScan
  | healthCheck
  | loadBalance
  | recover (receiver : String)
  | statusReport
  deriving DecidableEq, Repr, Inhabited

/-- The state of a node. -/
structure Cluster where
  config : Config
  fleet : Fleet
  coordinator : Coordinator
  replication : Replication
  healing : Healing
  bus : EventBus
  agenda : Agenda Duty
  /-- What the wall clock shows. -/
  now : WallTime
  log : Array LogLine

namespace Cluster

/-- The node of a configuration, without receivers and without anything started. -/
def new (config : Config) (sink : SnapshotSink) (provisioner : Provisioner) (now : WallTime) :
    Cluster where
  config := config
  fleet := .empty
  coordinator := ⟨config.nodeId, [], .empty, .start, .empty, 0, 0⟩
  replication := ⟨config.replication, [], default, sink, #[], false⟩
  healing :=
    ⟨config.faultTolerance, config.faultTolerance.backupPool.map .fresh, provisioner, [], [],
      default, false⟩
  bus := .new
  agenda := .empty
  now := now
  log := #[]

instance : Inhabited Cluster := ⟨new .default .discard .inMemory default⟩

/-! ### Log and events -/

/-- Writes lines to the log. -/
def write (c : Cluster) (lines : List LogLine) : Cluster :=
  { c with log := c.log ++ lines.toArray }

/-- Publishes an event. -/
def publish (c : Cluster) (event : Event) : Cluster :=
  let sighting : Sighting := ⟨event, c.now, c.healing.slots⟩
  { c with bus := c.bus.publish sighting }.write (c.bus.publishLines sighting)

/-- Subscribes an observer. -/
def subscribe (c : Cluster) (o : Observer) : ObserverId × Cluster :=
  let (id, bus) := c.bus.subscribe o
  (id, { c with bus })

/-- Ends a subscription. -/
def unsubscribe (c : Cluster) (id : ObserverId) : Bool × Cluster :=
  let (found, bus) := c.bus.unsubscribe id
  (found, { c with bus })

/-! ### Receivers -/

/-- The receiver of a number. -/
def replica (c : Cluster) (ref : ReplicaRef) : Replica := c.fleet.get ref

/-- Puts a receiver in the place of the one of a number. -/
def setReplica (c : Cluster) (ref : ReplicaRef) (r : Replica) : Cluster :=
  { c with fleet := c.fleet.set ref r }

/-- Takes a new receiver into the fleet. -/
def create (c : Cluster) (r : Replica) : ReplicaRef × Cluster :=
  let (ref, fleet) := c.fleet.add r
  (ref, { c with fleet })

/-- The registered receiver of an id. -/
def registered? (c : Cluster) (id : String) : Option ReplicaRef :=
  c.fleet.find? c.coordinator.registry id

/-- Starts a receiver. -/
def start (c : Cluster) (ref : ReplicaRef) : Except ClusterError Unit × Cluster :=
  let r := c.replica ref
  match r.start with
  | .ok r' => (.ok (), (c.setReplica ref r').write r.startLines)
  | .error cause => (.error cause, c)

/-- Stops a receiver. -/
def stop (c : Cluster) (ref : ReplicaRef) : Bool × Cluster :=
  let r := c.replica ref
  (r.stop.1, (c.setReplica ref r.stop.2).write r.stopLines)

/-- Stops a receiver as a failure would. -/
def simulateFailure (c : Cluster) (ref : ReplicaRef) : Bool × Cluster :=
  let r := c.replica ref
  (r.stop.1, (c.setReplica ref r.stop.2).write r.failureLines)

/-- Closes the inbound channel of a receiver. -/
def detach (c : Cluster) (ref : ReplicaRef) : Cluster := c.setReplica ref (c.replica ref).detach

/-- Brings a receiver back up. -/
def recover (c : Cluster) (ref : ReplicaRef) : Except ClusterError Unit × Cluster :=
  let r := c.replica ref
  match r.recover with
  | .ok r' => (.ok (), (c.setReplica ref r').write r.recoverLines)
  | .error cause => (.error cause, c)

/-- Shuts a receiver down for good. -/
def retire (c : Cluster) (ref : ReplicaRef) : Cluster :=
  let r := c.replica ref
  (c.setReplica ref r.retire).write r.retireLines

/-- Lets a receiver process a message. -/
def process (c : Cluster) (ref : ReplicaRef) (m : Message) :
    Except ClusterError Replica.ProcessOutcome × Cluster :=
  let r := c.replica ref
  match r.process m with
  | .ok (outcome, r') => (.ok outcome, (c.setReplica ref r').write (r.processLines m))
  | .error cause => (.error cause, c)

/-- Deletes a sensor's record from a receiver; the answer says whether there was one. -/
def removeRecord (c : Cluster) (ref : ReplicaRef) (sensor : String) : Bool × Cluster :=
  let (found, r) := (c.replica ref).removeRecord sensor
  (found, c.setReplica ref r)

/-- A snapshot of a receiver. -/
def snapshot (c : Cluster) (ref : ReplicaRef) : Snapshot := (c.replica ref).snapshot c.now

/-- Restores a receiver from a snapshot; the answer says whether the snapshot was applied. -/
def restore (c : Cluster) (ref : ReplicaRef) (s : Snapshot) : Bool × Cluster :=
  let r := c.replica ref
  ((r.restore s).1, (c.setReplica ref (r.restore s).2).write (r.restoreLines s))

end Cluster

end SensorCluster
