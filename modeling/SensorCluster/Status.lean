import SensorCluster.Exposition
import SensorCluster.Replica

/-!
# Health and status

What the cluster reports about itself: a count of healthy receivers, and a status with everything it
counts, written for people (`ClusterStatus.report`), for monitoring (`ClusterStatus.metrics`) and as
JSON.
-/

namespace SensorCluster

/-- How many receivers are healthy, and which are not. -/
structure HealthReport where
  healthy : Nat
  unhealthy : Nat
  unhealthyIds : List String
  deriving DecidableEq, Repr, Inhabited

namespace HealthReport

/-- The number of receivers looked at, a word of 64 bits. -/
def total (h : HealthReport) : Except Fault Nat :=
  if h.healthy + h.unhealthy < UInt64.size then .ok (h.healthy + h.unhealthy)
  else .error .additionOverflow

/-- Are all of them healthy? -/
def allHealthy (h : HealthReport) : Bool := h.unhealthy = 0

/-- The JSON form of the report. -/
def toJson (h : HealthReport) : Json :=
  .obj [("healthy", .nat h.healthy), ("unhealthy", .nat h.unhealthy),
    ("unhealthy_ids", .list (h.unhealthyIds.map .str))]

end HealthReport

/-- Everything the cluster counts. -/
structure ClusterStatus where
  nodeId : String
  strategy : String
  registeredSensors : UInt64
  registeredReceivers : UInt64
  healthyReceivers : UInt64
  totalMessages : UInt64
  failedRoutes : UInt64
  globalVector : VersionVector
  receivers : List ReplicaEntry

namespace ClusterStatus

/-- The JSON form of the status. -/
def toJson (s : ClusterStatus) : Json :=
  .obj [("node_id", .str s.nodeId), ("strategy", .str s.strategy),
    ("registered_sensors", .word s.registeredSensors),
    ("registered_receivers", .word s.registeredReceivers),
    ("healthy_receivers", .word s.healthyReceivers),
    ("total_messages", .word s.totalMessages), ("failed_routes", .word s.failedRoutes),
    ("global_vector", s.globalVector.toJson),
    ("receivers", .list (s.receivers.map ReplicaEntry.toJson))]

/-! ### For monitoring -/

/-- A metric with a sample for each receiver. -/
def perReceiver (s : ClusterStatus) (name kind help : String) (value : ReplicaEntry → UInt64) :
    String :=
  Exposition.header name kind help ++
    String.join
      (s.receivers.map fun r ↦ Exposition.labelled name "receiver" r.receiver (value r))

/-- The status as metrics. -/
def metrics (s : ClusterStatus) : String :=
  Exposition.sample "sensorkv_registered_sensors" "gauge" "Registered sensors"
      s.registeredSensors ++
    Exposition.sample "sensorkv_registered_receivers" "gauge" "Registered receivers"
      s.registeredReceivers ++
    Exposition.sample "sensorkv_healthy_receivers" "gauge"
      "Receivers running with an open inbound channel" s.healthyReceivers ++
    Exposition.sample "sensorkv_messages_total" "counter" "Messages handed to the coordinator"
      s.totalMessages ++
    Exposition.sample "sensorkv_failed_routes_total" "counter" "Messages no receiver accepted"
      s.failedRoutes ++
    s.perReceiver "sensorkv_receiver_messages_total" "counter" "Messages per receiver"
      (·.total) ++
    s.perReceiver "sensorkv_receiver_conflicts_total" "counter" "Conflicts per receiver"
      (·.conflicts) ++
    s.perReceiver "sensorkv_receiver_records" "gauge" "Records held per receiver"
      (·.records.toUInt64)

/-! ### For people -/

/-- The text filled up with blanks to a number of characters. -/
def padded (width : Nat) (text : String) : String :=
  text ++ String.ofList (List.replicate (width - text.length) ' ')

/-- The line of a receiver in the report. -/
def receiverLine (r : ReplicaEntry) : String :=
  "  - " ++ padded 12 r.receiver ++ " " ++ padded 21 r.address ++ " " ++
    padded 12 r.state.name ++ " healthy=" ++ padded 5 (toString r.healthy) ++ " messages=" ++
    padded 8 (toString r.total) ++ " conflicts=" ++ padded 6 (toString r.conflicts) ++
    " records=" ++ toString r.records ++ "\n"

/-- The status as a report. -/
def report (s : ClusterStatus) : String :=
  "=== sensorkv status (" ++ s.nodeId ++ ") ===\n" ++
    "Strategy:        " ++ s.strategy ++ "\n" ++
    "Sensors:         " ++ toString s.registeredSensors ++ "\n" ++
    s!"Receivers:       {s.registeredReceivers} ({s.healthyReceivers} healthy)\n" ++
    s!"Messages:        {s.totalMessages} ({s.failedRoutes} failed)\n" ++
    "Global vector:   " ++ s.globalVector.render ++ "\n" ++
    String.join (s.receivers.map receiverLine)

end ClusterStatus

end SensorCluster
