import SensorCluster.SensorRegistry

/-!
# Events

What the cluster tells about itself while it runs. The written form of an event is an object with
its kind and its payload.
-/

namespace SensorCluster

/-- Something that happened in the cluster. -/
inductive Event
  | sensorRegistered (sensor : SensorInfo)
  | sensorUnregistered (sensor : String)
  | receiverRegistered (receiver address : String)
  | receiverUnregistered (receiver : String)
  | receiverFailure (receiver : Option String) (reason : String)
  | receiverRecovered (receiver : String)
  | receiverReplaced (failed replacement : String)
  | recoveryExhausted (slot : String) (attempts : UInt32)
  | messageRouted (message sensor receiver : String)
  | routingFailed (message sensor reason : String)
  deriving DecidableEq, Repr, Inhabited

namespace Event

/-- The name of the kind of an event. -/
def kind : Event → String
  | sensorRegistered _ => "sensor_registered"
  | sensorUnregistered _ => "sensor_unregistered"
  | receiverRegistered _ _ => "receiver_registered"
  | receiverUnregistered _ => "receiver_unregistered"
  | receiverFailure _ _ => "receiver_failure"
  | receiverRecovered _ => "receiver_recovered"
  | receiverReplaced _ _ => "receiver_replaced"
  | recoveryExhausted _ _ => "recovery_exhausted"
  | messageRouted _ _ _ => "message_routed"
  | routingFailed _ _ _ => "routing_failed"

/-- The written payload of an event. -/
def payload : Event → Json
  | sensorRegistered sensor => sensor.toJson
  | sensorUnregistered sensor => .obj [("sensor_id", .str sensor)]
  | receiverRegistered receiver address =>
    .obj [("receiver_id", .str receiver), ("address", .str address)]
  | receiverUnregistered receiver => .obj [("receiver_id", .str receiver)]
  | receiverFailure receiver reason =>
    .obj [("receiver_id", (receiver.map Json.str).getD .null), ("reason", .str reason)]
  | receiverRecovered receiver => .obj [("receiver_id", .str receiver)]
  | receiverReplaced failed replacement =>
    .obj [("failed_id", .str failed), ("replacement_id", .str replacement)]
  | recoveryExhausted slot attempts =>
    .obj [("slot_id", .str slot), ("attempts", .nat attempts.toNat)]
  | messageRouted message sensor receiver =>
    .obj [("message_id", .str message), ("sensor_id", .str sensor),
      ("receiver_id", .str receiver)]
  | routingFailed message sensor reason =>
    .obj [("message_id", .str message), ("sensor_id", .str sensor), ("reason", .str reason)]

/-- The members of the written form of an event. -/
def members (e : Event) : List (String × Json) := [("event", .str e.kind), ("payload", e.payload)]

/-- The written form of an event. -/
def toJson (e : Event) : Json := .obj e.members

end Event

end SensorCluster
