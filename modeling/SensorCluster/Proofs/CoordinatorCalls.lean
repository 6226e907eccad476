import SensorCluster.Cluster.Node
import SensorCluster.Proofs.Rosters

/-!
# What calls to the coordinator come to

To register a receiver or to unregister it, to track a sender, to route a message, to forget a
sensor: each of these calls has a few outcomes, and this module says which (`register_cases`,
`unregister_cases`, `trackSender_cases`, `tryRoute_cases`, `unregisterSensor_cases`). **Here the
calls are opened, and nowhere else.** Each outcome is written as the operations on a cluster that it
consists of, so what is proved of a call elsewhere is proved of these, one after the other.

What is logged on the way matters to nobody, so the cases keep silent about it.
-/

namespace SensorCluster

namespace Cluster

variable {c : Cluster} {ref : ReplicaRef} {m : Message} {host : String} {port : UInt16}
  {info : SensorInfo}

/-! ### Receivers -/

/-- A receiver whose id is taken is not registered. -/
theorem register_of_taken (h : (c.replica ref).id ∈ c.fleet.ids c.coordinator.registry) :
    ∃ lines, c.register ref = (false, c.write lines) := by
  have hlisted : c.fleet.enlist c.coordinator.registry ref = none := if_pos (Fleet.lists_iff.2 h)
  rw [register]
  dsimp only
  rw [hlisted]
  exact ⟨_, rfl⟩

/-- **Registering**: one of its id is registered, or the receiver is put on the registry, the
replication takes it in, and it is told of as it is then. -/
theorem register_cases (c : Cluster) (ref : ReplicaRef) :
    let c₁ := c.modifyCoordinator fun k ↦ { k with registry := c.coordinator.registry ++ [ref] }
    let c₂ := (c₁.joinPool ref).2
    ((c.replica ref).id ∈ c.fleet.ids c.coordinator.registry ∧
      ∃ lines, c.register ref = (false, c.write lines)) ∨
    ((c.replica ref).id ∉ c.fleet.ids c.coordinator.registry ∧
      ∃ lines, c.register ref = (true, (c₂.write lines).publish
        (.receiverRegistered (c₂.replica ref).id (c₂.replica ref).address))) := by
  intro c₁ c₂
  by_cases htaken : (c.replica ref).id ∈ c.fleet.ids c.coordinator.registry
  · exact .inl ⟨htaken, register_of_taken htaken⟩
  · rw [register]
    dsimp only
    rw [Fleet.enlist_of_not_mem htaken]
    exact .inr ⟨htaken, [_], rfl⟩

/-- Nobody of the id is registered. -/
theorem unregister_of_none {id : String} (h : c.registered? id = none) :
    c.unregister id = (none, c) := by
  rw [unregister, h]

/-- **Unregistering**: the receiver that is found leaves the registry, and everybody of its id the
replication. -/
theorem unregister_of_some {id : String} (h : c.registered? id = some ref) :
    ∃ lines, c.unregister id = (some ref,
      (((c.modifyCoordinator fun k ↦ { k with registry := k.registry.erase ref }).leavePool
        id).2.write lines).publish (.receiverUnregistered id)) := by
  rw [unregister, h]
  exact ⟨_, rfl⟩

/-- There are no other cases. -/
theorem unregister_cases (c : Cluster) (id : String) :
    c.unregister id = (none, c) ∨
    ∃ ref lines, c.registered? id = some ref ∧ c.unregister id = (some ref,
      (((c.modifyCoordinator fun k ↦ { k with registry := k.registry.erase ref }).leavePool
        id).2.write lines).publish (.receiverUnregistered id)) := by
  cases hfind : c.registered? id with
  | none => exact .inl (unregister_of_none hfind)
  | some ref =>
    obtain ⟨lines, heq⟩ := unregister_of_some hfind
    exact .inr ⟨ref, lines, rfl, heq⟩

/-! ### Tracking a sender -/

/-- The event of a sensor that announces itself for the first time. -/
def announcement? (c : Cluster) (m : Message) (host : String) (port : UInt16) : Option Event :=
  if m.kind = .register ∧ c.coordinator.sensors.get? m.sensor = none then
    some (.sensorRegistered ⟨m.sensor, m.sensorType, host, port, c.now.millis, c.now.millis⟩)
  else none

/-- The registered sensors once the sender of a message is tracked. -/
def tracked (c : Cluster) (m : Message) (host : String) (port : UInt16) : SensorRegistry :=
  if m.kind = .register then
    (c.coordinator.sensors.register m.sensor m.sensorType host port c.now.millis).2
  else (c.coordinator.sensors.touch m.sensor c.now.millis).2

/-- Only a sensor that is not registered is announced, as the message says. -/
theorem eq_of_announcement? (h : c.announcement? m host port = some (.sensorRegistered info)) :
    m.kind = .register ∧ c.coordinator.sensors.get? m.sensor = none ∧
      info = ⟨m.sensor, m.sensorType, host, port, c.now.millis, c.now.millis⟩ := by
  rw [announcement?] at h
  split at h
  · next hnew =>
    cases h
    exact ⟨hnew.1, hnew.2, rfl⟩
  · cases h

/-- Nobody is registered by it but a sensor that is told of. -/
theorem isSome_get?_tracked (c : Cluster) (m : Message) (host : String) (port : UInt16)
    (other : String) :
    ((c.tracked m host port).get? other).isSome =
      (decide (other = m.sensor) && (c.announcement? m host port).isSome ||
        (c.coordinator.sensors.get? other).isSome) := by
  rw [tracked, announcement?]
  by_cases hkind : m.kind = .register
  · rw [if_pos hkind, SensorRegistry.isSome_get?_register]
    by_cases heq : other = m.sensor
    · subst heq
      cases c.coordinator.sensors.get? m.sensor <;> simp [hkind]
    · simp [heq]
  · simp [hkind, SensorRegistry.isSome_get?_touch]

/-- **Tracking**: the registry of sensors is written, and a new sensor is told of. -/
theorem trackSender_cases (c : Cluster) (m : Message) (host : String) (port : UInt16) :
    let written := c.modifyCoordinator fun k ↦ { k with sensors := c.tracked m host port }
    (c.announcement? m host port = none ∧ c.trackSender m host port = written) ∨
      ∃ info lines, c.announcement? m host port = some (.sensorRegistered info) ∧
        c.trackSender m host port = (written.write lines).publish (.sensorRegistered info) := by
  intro written
  -- only a message that registers its sensor can make one known
  by_cases hkind : m.kind = .register
  · have hwritten : written = c.modifyCoordinator fun k ↦ { k with
        sensors :=
          (c.coordinator.sensors.register m.sensor m.sensorType host port c.now.millis).2 } :=
      congrArg (fun sensors ↦ c.modifyCoordinator fun k ↦ { k with sensors }) (if_pos hkind)
    rw [trackSender, if_pos hkind]
    dsimp only
    rw [SensorRegistry.fst_register, ← hwritten]
    cases hknown : c.coordinator.sensors.get? m.sensor with
    | some info => exact .inl ⟨by simp [announcement?, hknown], rfl⟩
    | none =>
      rw [SensorRegistry.get?_register_of_none _ _ _ _ _ _ hknown]
      exact .inr ⟨_, [_], if_pos ⟨hkind, hknown⟩, rfl⟩
  · refine .inl ⟨by simp [announcement?, hkind], ?_⟩
    rw [trackSender, if_neg hkind]
    exact congrArg (fun sensors ↦ c.modifyCoordinator fun k ↦ { k with sensors })
      (if_neg hkind).symm

/-! ### Routing a message -/

/-- The message was handed over: it is counted, and its sender tracked. -/
def handedOver (c : Cluster) (m : Message) (host : String) (port : UInt16) : Cluster :=
  (c.modifyCoordinator fun k ↦
    { k with totalMessages := k.totalMessages.increment }).trackSender m host port

/-- A refused message changes nothing. -/
theorem process_of_error {cause : ClusterError} (h : (c.replica ref).process m = .error cause) :
    c.process ref m = (.error cause, c) := by
  rw [process, h]

/-- An accepted message changes one receiver, and is logged. -/
theorem process_eq_of_ok {outcome : Replica.ProcessOutcome} {r : Replica}
    (h : (c.replica ref).process m = .ok (outcome, r)) :
    c.process ref m = (.ok outcome,
      (c.setReplica ref r).write ((c.replica ref).processLines m)) := by
  rw [process, h]

/-- **Routing**: nobody is chosen, or the chosen receiver refuses the message, or it accepts. The
choice itself only moves the placement on. -/
theorem tryRoute_cases (c : Cluster) (m : Message) (host : String) (port : UInt16) :
    let c₁ := c.handedOver m host port
    let selected := c₁.coordinator.placement.select c₁.fleet c₁.coordinator.registry
    ∃ c₂, c₂ = (c₁.modifyCoordinator fun k ↦ { k with placement := selected.2 }) ∧
      ((selected.1 = none ∧ c.tryRoute m host port =
        (.error .noHealthyReceivers,
          (c₂.failRoute none).publishRoutingFailure m .noHealthyReceivers)) ∨
      ∃ ref, selected.1 = some ref ∧
        ((∃ cause lines, (c₂.replica ref).process m = .error cause ∧ c.tryRoute m host port =
          (.error cause, (((c₂.failRoute (some ref)).write lines).publish
            (.receiverFailure (some (c₂.replica ref).id)
              cause.message)).publishRoutingFailure m cause)) ∨
        ∃ outcome r lines, (c₂.replica ref).process m = .ok (outcome, r) ∧ c.tryRoute m host port =
          (.ok (c₂.replica ref).id, (((c₂.setReplica ref r).write lines).modifyCoordinator fun k ↦
            { k with globalVector := k.globalVector.merge outcome.vector }).publish
              (.messageRouted m.id m.sensor (c₂.replica ref).id)))) := by
  intro c₁ selected
  let c₂ := c₁.modifyCoordinator fun k ↦ { k with placement := selected.2 }
  refine ⟨c₂, rfl, ?_⟩
  rw [tryRoute]
  dsimp only
  rw [← handedOver]
  cases hselect : selected.1 with
  | none => exact .inl ⟨rfl, rfl⟩
  | some ref =>
    dsimp only
    -- the chosen receiver runs, but it may still refuse the message
    rcases hprocess : (c₂.replica ref).process m with cause | ⟨outcome, r⟩
    · rw [process_of_error hprocess]
      exact .inr ⟨ref, rfl, .inl ⟨cause, [_], hprocess, rfl⟩⟩
    · rw [process_eq_of_ok hprocess]
      exact .inr ⟨ref, rfl, .inr ⟨outcome, r, _, hprocess, rfl⟩⟩

/-! ### Forgetting a sensor -/

/-- From how many registered receivers a record of the sensor is deleted, and the cluster without
these records and without its registration. -/
def withdraw (c : Cluster) (sensor : String) : Nat × Cluster :=
  (c.modifyCoordinator fun k ↦ { k with sensors := k.sensors.remove sensor }).removeRecords sensor 0
    c.coordinator.registry

/-- **Forgetting**: the sensor is told of unless it was not registered and nobody had a record of
it. -/
theorem unregisterSensor_cases (c : Cluster) (sensor : String) :
    (c.coordinator.sensors.get? sensor = none ∧ (c.withdraw sensor).1 = 0 ∧
      c.unregisterSensor sensor = (false, (c.withdraw sensor).2)) ∨
    (¬(c.coordinator.sensors.get? sensor = none ∧ (c.withdraw sensor).1 = 0) ∧
      ∃ lines, c.unregisterSensor sensor =
        (true, ((c.withdraw sensor).2.write lines).publish (.sensorUnregistered sensor))) := by
  have hquiet :
      (!(c.coordinator.sensors.get? sensor).isSome && decide ((c.withdraw sensor).1 = 0)) = true ↔
        c.coordinator.sensors.get? sensor = none ∧ (c.withdraw sensor).1 = 0 := by simp
  by_cases hnothing : c.coordinator.sensors.get? sensor = none ∧ (c.withdraw sensor).1 = 0
  · exact .inl ⟨hnothing.1, hnothing.2, by rw [unregisterSensor]; exact if_pos (hquiet.2 hnothing)⟩
  · exact .inr ⟨hnothing, [_], by rw [unregisterSensor]; exact if_neg (mt hquiet.1 hnothing)⟩

end Cluster

end SensorCluster
