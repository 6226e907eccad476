import SensorCluster.Cluster.Replication
import SensorCluster.Status

/-!
# Membership, routing and status

The coordinator's side of the cluster: which receivers and sensors are registered, to which receiver
a message goes, and what the cluster reports about itself.

**A message that is handed over is counted before anything else is known about it**, and its sensor
is noted even when no receiver accepts the message.
-/

namespace SensorCluster

namespace Cluster

/-- Changes the coordinator. -/
def modifyCoordinator (c : Cluster) (f : Coordinator → Coordinator) : Cluster :=
  { c with coordinator := f c.coordinator }

/-! ### Receivers -/

/-- Registers a receiver and takes it into the replication pool; the answer is no, and nothing
happens, when one of its id is registered. -/
def register (c : Cluster) (ref : ReplicaRef) : Bool × Cluster :=
  let id := (c.replica ref).id
  match c.fleet.enlist c.coordinator.registry ref with
  | none => (false, c.write [.debug s!"Receiver {id} already registered"])
  | some registry =>
    let c := c.modifyCoordinator fun k ↦ { k with registry }
    let (_, c) := c.joinPool ref
    let r := c.replica ref
    let c := c.write
      [.info s!"Registered receiver {r.id} at {r.address} ({registry.length} total)"]
    (true, c.publish (.receiverRegistered r.id r.address))

/-- Removes a receiver from the registry and from the replication pool; the answer is the receiver,
if there was one of the id. -/
def unregister (c : Cluster) (id : String) : Option ReplicaRef × Cluster :=
  match c.registered? id with
  | none => (none, c)
  | some ref =>
    let c := c.modifyCoordinator fun k ↦ { k with registry := k.registry.erase ref }
    let (_, c) := c.leavePool id
    let c := c.write [.info s!"Unregistered receiver {id}"]
    (some ref, c.publish (.receiverUnregistered id))

/-- The number of registered receivers that are running. -/
def runningCount (c : Cluster) : Nat := (c.fleet.running c.coordinator.registry).length

/-! ### Routing -/

/-- Notes the sensor of a message: an announcement registers it, anything else shows that it
lives. -/
def trackSender (c : Cluster) (m : Message) (host : String) (port : UInt16) : Cluster :=
  if m.kind = .register then
    let (isNew, sensors) :=
      c.coordinator.sensors.register m.sensor m.sensorType host port c.now.millis
    let c := c.modifyCoordinator fun k ↦ { k with sensors }
    if isNew then
      let c := c.write
        [.info s!"Sensor {m.sensor} ({m.sensorType}) registered from {host}:{port}"]
      match sensors.get? m.sensor with
      | some info => c.publish (.sensorRegistered info)
      | none => c
    else c
  else
    c.modifyCoordinator fun k ↦
      { k with sensors := (k.sensors.touch m.sensor c.now.millis).2 }

/-- Tells that a message was not accepted. -/
def publishRoutingFailure (c : Cluster) (m : Message) (cause : ClusterError) : Cluster :=
  c.publish (.routingFailed m.id m.sensor cause.message)

/-- Counts a failed route and lets the placement begin anew. -/
def failRoute (c : Cluster) (failed : Option ReplicaRef) : Cluster :=
  let lines := Placement.failureLines c.fleet c.coordinator.registry failed
  (c.modifyCoordinator fun k ↦
    { k with
      failedRoutes := k.failedRoutes.increment
      placement := k.placement.afterFailure }).write lines

/-- Routes a message; the answer is the receiver that accepted it. -/
def tryRoute (c : Cluster) (m : Message) (host : String) (port : UInt16) :
    Except ClusterError String × Cluster :=
  let c := c.modifyCoordinator fun k ↦ { k with totalMessages := k.totalMessages.increment }
  let c := c.trackSender m host port
  let (choice, placement) := c.coordinator.placement.select c.fleet c.coordinator.registry
  let c := c.modifyCoordinator fun k ↦ { k with placement }
  match choice with
  | none =>
    let c := c.failRoute none
    (.error .noHealthyReceivers, c.publishRoutingFailure m .noHealthyReceivers)
  | some ref =>
    let id := (c.replica ref).id
    match c.process ref m with
    | (.ok outcome, c) =>
      let c := c.modifyCoordinator fun k ↦
        { k with globalVector := k.globalVector.merge outcome.vector }
      (.ok id, c.publish (.messageRouted m.id m.sensor id))
    | (.error cause, c) =>
      let c := c.failRoute (some ref)
      let c := c.write [.warn (s!"Receiver {id} rejected {m.id}: " ++ cause.message)]
      let c := c.publish (.receiverFailure (some id) cause.message)
      (.error cause, c.publishRoutingFailure m cause)

/-- Routes a message; the answer says whether a receiver accepted it. -/
def route (c : Cluster) (m : Message) (host : String) (port : UInt16) : Bool × Cluster :=
  match c.tryRoute m host port with
  | (.ok id, c) =>
    (true, c.write [.debug s!"Routed {m.id} ({m.kind.name}) for {m.sensor} to {id}"])
  | (.error cause, c) =>
    let text := s!"Routing {m.id} failed: " ++ cause.message
    (false, c.write [if cause.isRetryable then .debug text else .warn text])

/-! ### Sensors -/

/-- Deletes a sensor's record from the given receivers; the answer is from how many, over
`removed`. -/
def removeRecords (c : Cluster) (sensor : String) (removed : Nat) :
    List ReplicaRef → Nat × Cluster
  | [] => (removed, c)
  | ref :: rest =>
    let (found, c) := c.removeRecord ref sensor
    c.removeRecords sensor (removed + found.toNat) rest

/-- Forgets a sensor and deletes its record from every registered receiver; the answer says whether
there was anything to forget. -/
def unregisterSensor (c : Cluster) (sensor : String) : Bool × Cluster :=
  let known := (c.coordinator.sensors.get? sensor).isSome
  let c := c.modifyCoordinator fun k ↦ { k with sensors := k.sensors.remove sensor }
  let (removed, c) := c.removeRecords sensor 0 c.coordinator.registry
  if !known && removed = 0 then (false, c)
  else
    let c := c.write [.info s!"Sensor {sensor} unregistered ({removed} records removed)"]
    (true, c.publish (.sensorUnregistered sensor))

/-! ### Reports -/

/-- Which registered receivers are healthy. -/
def health (c : Cluster) : HealthReport :=
  let replicas := c.coordinator.registry.map c.replica
  let unhealthy := replicas.filter fun r ↦ !r.isHealthy
  ⟨(replicas.filter Replica.isHealthy).length, unhealthy.length, unhealthy.map (·.id)⟩

/-- Everything the cluster counts. -/
def status (c : Cluster) : ClusterStatus :=
  let receivers := c.fleet.entries c.coordinator.registry
  { nodeId := c.coordinator.nodeId
    strategy := Placement.name
    registeredSensors := c.coordinator.sensors.size.toUInt64
    registeredReceivers := receivers.length.toUInt64
    healthyReceivers := (receivers.filter (·.healthy)).length.toUInt64
    totalMessages := c.coordinator.totalMessages
    failedRoutes := c.coordinator.failedRoutes
    globalVector := c.coordinator.globalVector
    receivers }

/-- Stops every registered receiver. -/
def stopReceivers (c : Cluster) : Cluster :=
  c.coordinator.registry.foldl (fun c ref ↦ (c.stop ref).2) c

end Cluster

end SensorCluster
