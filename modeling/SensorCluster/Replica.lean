import SensorCluster.Counter
import SensorCluster.Fault
import SensorCluster.Log
import SensorCluster.RecordIndex

/-!
# Receivers

A `Replica` is one receiver of the cluster: an identity, a lifecycle state, a flag that says whether
its inbound channel is open, and its data. The data are an index of records, a version vector and
two counters, of the messages it has seen and of the conflicts among them.

**Every operation is a function from receiver to receiver.** The log lines it writes are a function
of their own (`startLines`, `processLines`, …) of the receiver before the operation, so what an
operation does can be read without what it says.

**A restore is a replacement, not a merge**: a snapshot that has seen more messages than the
receiver takes the place of all its data.
-/

namespace SensorCluster

/-- Where a receiver is in its life. -/
inductive Lifecycle
  /-- Created, never started. -/
  | provisioning
  | running
  | stopped
  /-- Shut down for good. -/
  | retired
  deriving DecidableEq, Repr, Inhabited

namespace Lifecycle

/-- Does a receiver in this state accept messages? -/
def isRunning : Lifecycle → Bool
  | running => true
  | _ => false

/-- Can a receiver in this state be started? -/
def canStart : Lifecycle → Bool
  | retired => false
  | _ => true

/-- The written name of a state. -/
def name : Lifecycle → String
  | provisioning => "provisioning"
  | running => "running"
  | stopped => "stopped"
  | retired => "retired"

/-- The state written so. -/
def ofName? (name : String) : Option Lifecycle :=
  if name = "provisioning" then some provisioning
  else if name = "running" then some running
  else if name = "stopped" then some stopped
  else if name = "retired" then some retired
  else none

/-- The JSON form of a state. -/
def toJson (s : Lifecycle) : Json := .str s.name

/-- Reads a state. -/
def ofJson? (j : Json) : Option Lifecycle := j.constant? >>= ofName?

end Lifecycle

/-- A reading of the wall clock: milliseconds, and the form it has in written lines. -/
structure WallTime where
  millis : UInt64
  stamp : String
  deriving DecidableEq, Repr, Inhabited

/-- A copy of a receiver's data at one moment. -/
structure Snapshot where
  /-- The receiver it was taken from. -/
  receiver : String
  index : RecordIndex
  vector : VersionVector
  total : Counter
  conflicts : Counter
  takenAt : WallTime
  deriving Inhabited

/-- What the registries show of a receiver. -/
structure ReplicaEntry where
  receiver : String
  address : String
  state : Lifecycle
  healthy : Bool
  total : UInt64
  conflicts : UInt64
  records : Nat
  deriving DecidableEq, Repr, Inhabited

namespace ReplicaEntry

/-- The JSON form of an entry. -/
def toJson (e : ReplicaEntry) : Json :=
  .obj [("receiver_id", .str e.receiver), ("address", .str e.address),
    ("state", e.state.toJson), ("healthy", .bool e.healthy), ("total_messages", .word e.total),
    ("conflicts", .word e.conflicts), ("records", .nat e.records)]

/-- The names of the fields, in order. -/
def fieldNames : List String :=
  ["receiver_id", "address", "state", "healthy", "total_messages", "conflicts", "records"]

/-- Reads an entry. -/
def ofJson? (j : Json) : Option ReplicaEntry := do
  let fields ← j.fields? fieldNames
  let receiver ← fields.required "receiver_id" Json.text?
  let address ← fields.required "address" Json.text?
  let state ← fields.required "state" Lifecycle.ofJson?
  let healthy ← fields.required "healthy" Json.bool?
  let total ← fields.required "total_messages" Json.uint64?
  let conflicts ← fields.required "conflicts" Json.uint64?
  let records ← fields.required "records" (Json.below? UInt64.size)
  return { receiver, address, state, healthy, total, conflicts, records }

end ReplicaEntry

/-- A receiver. -/
structure Replica where
  id : String
  address : String
  state : Lifecycle
  /-- Is the inbound channel open? -/
  inbound : Bool
  index : RecordIndex
  vector : VersionVector
  /-- Messages seen. -/
  total : Counter
  /-- Conflicts counted. -/
  conflicts : Counter

namespace Replica

/-- A receiver as it is created. -/
def new (id address : String) : Replica :=
  ⟨id, address, .provisioning, false, .empty, .empty, 0, 0⟩

instance : Inhabited Replica := ⟨new "" ""⟩

/-- Does it accept messages? -/
def isRunning (r : Replica) : Bool := r.state.isRunning

/-- Is it running with an open inbound channel? -/
def isHealthy (r : Replica) : Bool := r.isRunning && r.inbound

/-- The number of its records. -/
def recordCount (r : Replica) : Nat := r.index.size

/-- What the registries show of it. -/
def entry (r : Replica) : ReplicaEntry :=
  ⟨r.id, r.address, r.state, r.isHealthy, r.total, r.conflicts, r.recordCount⟩

/-! ### Lifecycle -/

/-- Starts it, unless it is retired. -/
def start (r : Replica) : Except ClusterError Replica :=
  if r.state.canStart then .ok { r with state := .running, inbound := true }
  else .error (.receiverRetired r.id)

/-- The lines of `start`. -/
def startLines (r : Replica) : List LogLine :=
  if r.state.canStart && !r.isRunning then
    [.info s!"Receiver {r.id} running on {r.address}"]
  else []

/-- Stops it; the answer says whether it was running. -/
def stop (r : Replica) : Bool × Replica :=
  if r.isRunning then (true, { r with state := .stopped, inbound := false })
  else (false, { r with inbound := false })

/-- The lines of `stop`. -/
def stopLines (r : Replica) : List LogLine :=
  if r.isRunning then [.info s!"Receiver {r.id} stopped"] else []

/-- The lines of a `stop` that is made to look like a failure. -/
def failureLines (r : Replica) : List LogLine :=
  .warn s!"Simulating failure of receiver {r.id}" :: r.stopLines

/-- Closes the inbound channel. -/
def detach (r : Replica) : Replica := { r with inbound := false }

/-- Brings it back up with the data it has. -/
def recover (r : Replica) : Except ClusterError Replica := r.start

/-- The lines of `recover`. -/
def recoverLines (r : Replica) : List LogLine :=
  if r.state.canStart && !r.isRunning then
    r.startLines ++
      [.info s!"Receiver {r.id} recovered from {r.state.name} with {r.recordCount} records"]
  else []

/-- Shuts it down for good. -/
def retire (r : Replica) : Replica := { r with state := .retired, inbound := false }

/-- The lines of `retire`. -/
def retireLines (r : Replica) : List LogLine :=
  if r.state = .retired then [] else [.info s!"Receiver {r.id} retired"]

/-! ### Messages -/

/-- What processing a message answers. -/
structure ProcessOutcome where
  /-- What became of the reading, for a message that carries one. -/
  resolution : Option Resolution
  /-- The receiver's vector afterwards. -/
  vector : VersionVector

/-- The receiver with the vector of a message merged into its own. -/
def absorb (r : Replica) (m : Message) : Replica := { r with vector := r.vector.merge m.vector }

/-- Offers a reading to the index. A stored one raises the receiver's own entry, a discarded one
counts as a conflict. -/
def offer (r : Replica) (candidate : SensorRecord) : Resolution × Replica :=
  let (resolution, index) := r.index.apply candidate
  if resolution.isConflict then
    (resolution, { r with index, conflicts := r.conflicts.increment })
  else (resolution, { r with index, vector := r.vector.increment r.id })

/-- The receiver with one more message counted. -/
def countMessage (r : Replica) : Replica := { r with total := r.total.increment }

/-- Processes a message: every kind merges its vector, a reading is offered to the index. -/
def process (r : Replica) (m : Message) : Except ClusterError (ProcessOutcome × Replica) :=
  if !r.isRunning then .error (.receiverUnavailable r.id)
  else
    let r := r.absorb m
    if m.kind = .data then
      let (resolution, r) := r.offer (.ofMessage m)
      .ok (⟨some resolution, r.vector⟩, r.countMessage)
    else .ok (⟨none, r.vector⟩, r.countMessage)

/-- The lines of `process`. -/
def processLines (r : Replica) (m : Message) : List LogLine :=
  if r.isRunning && m.kind = .data then
    let resolution := (r.index.apply (.ofMessage m)).1
    if resolution.isConflict then
      [.debug s!"Receiver {r.id} discarded {m.id} for {m.sensor}: {resolution.logText}"]
    else []
  else []

/-- Counts a conflict that was found outside of message processing. -/
def recordConflict (r : Replica) : Replica := { r with conflicts := r.conflicts.increment }

/-- Deletes the record of a sensor; the answer says whether there was one. -/
def removeRecord (r : Replica) (sensor : String) : Bool × Replica :=
  (r.index.contains sensor, { r with index := r.index.remove sensor })

/-! ### Snapshots -/

/-- A copy of its data. -/
def snapshot (r : Replica) (now : WallTime) : Snapshot :=
  ⟨r.id, r.index, r.vector, r.total, r.conflicts, now⟩

/-- Puts the data of a snapshot in place of its own, if the snapshot has seen more messages; the
answer says whether it did. -/
def restore (r : Replica) (s : Snapshot) : Bool × Replica :=
  if r.total < s.total then
    (true, { r with index := s.index, vector := s.vector, total := s.total,
                    conflicts := s.conflicts })
  else (false, r)

/-- The lines of `restore`. -/
def restoreLines (r : Replica) (s : Snapshot) : List LogLine :=
  if r.total < s.total then
    [.info (s!"Receiver {r.id} restored from {s.receiver}: {s.index.size} records, " ++
      s!"{r.total} -> {s.total} messages")]
  else []

end Replica

end SensorCluster
