import SensorCluster.VersionVector

/-!
# Messages and records

A `Message` is what a sensor, or a gateway for it, hands to the cluster; a `SensorRecord` is the
latest reading of one sensor as a receiver keeps it, made from a message by
`SensorRecord.ofMessage`.

**The clock of a message** orders readings of one sensor that carry the same timestamp. It is the
sensor's own entry in the message's version vector; a vector without one gives its largest counter
instead.
-/

namespace SensorCluster

/-- What a message is for. -/
inductive MessageKind
  | register
  | data
  | heartbeat
  | discovery
  | ack
  | sync
  deriving DecidableEq, Repr, Inhabited

namespace MessageKind

/-- The written name of a kind. -/
def name : MessageKind → String
  | register => "register"
  | data => "data"
  | heartbeat => "heartbeat"
  | discovery => "discovery"
  | ack => "ack"
  | sync => "sync"

/-- The kind written so. -/
def ofName? (name : String) : Option MessageKind :=
  if name = "register" then some register
  else if name = "data" then some data
  else if name = "heartbeat" then some heartbeat
  else if name = "discovery" then some discovery
  else if name = "ack" then some ack
  else if name = "sync" then some sync
  else none

/-- The JSON form of a kind. -/
def toJson (k : MessageKind) : Json := .str k.name

/-- Reads a kind. -/
def ofJson? (j : Json) : Option MessageKind := j.constant? >>= ofName?

end MessageKind

/-- A message of a sensor. -/
structure Message where
  id : String
  sensor : String
  kind : MessageKind
  content : String
  value : Float
  sensorType : String
  timestamp : UInt64
  vector : VersionVector
  deriving Inhabited

namespace Message

/-- A reading, stamped with the sensor's own clock. -/
def data (id sensor sensorType : String) (value : Float) (timestamp clock : UInt64) : Message :=
  { id, sensor, kind := .data, content := "", value, sensorType, timestamp,
    vector := VersionVector.empty.set sensor clock }

/-- The announcement of a sensor, sent at the time `now`. -/
def register (id sensor sensorType : String) (now : UInt64) : Message :=
  { id, sensor, kind := .register, content := "", value := 0.0, sensorType, timestamp := now,
    vector := .empty }

/-- A sign of life, sent at the time `now`. -/
def heartbeat (id sensor sensorType : String) (now : UInt64) : Message :=
  { register id sensor sensorType now with kind := .heartbeat }

/-- The clock of the sensor at the time of the message. -/
def clock (m : Message) : UInt64 :=
  if m.vector.get m.sensor = 0 then m.vector.maxCounter else m.vector.get m.sensor

/-! ### JSON form -/

/-- The JSON form of a message. -/
def toJson (m : Message) : Json :=
  .obj [("message_id", .str m.id), ("sensor_id", .str m.sensor), ("kind", m.kind.toJson),
    ("content", .str m.content), ("value", .float m.value), ("sensor_type", .str m.sensorType),
    ("timestamp", .word m.timestamp), ("version_vector", m.vector.toJson)]

/-- The names of the fields, in order. -/
def fieldNames : List String :=
  ["message_id", "sensor_id", "kind", "content", "value", "sensor_type", "timestamp",
    "version_vector"]

/-- Reads a message. -/
def ofJson? (j : Json) : Option Message := do
  let fields ← j.fields? fieldNames
  let id ← fields.required "message_id" Json.text?
  let sensor ← fields.required "sensor_id" Json.text?
  let kind ← fields.required "kind" MessageKind.ofJson?
  let content ← fields.required "content" Json.text?
  let value ← fields.required "value" Json.float?
  let sensorType ← fields.required "sensor_type" Json.text?
  let timestamp ← fields.required "timestamp" Json.uint64?
  let vector ← fields.required "version_vector" VersionVector.ofJson?
  return { id, sensor, kind, content, value, sensorType, timestamp, vector }

end Message

/-- The latest reading of a sensor. -/
structure SensorRecord where
  sensor : String
  value : Float
  sensorType : String
  timestamp : UInt64
  /-- The clock of the sensor when it was read. -/
  clock : UInt64
  deriving Inhabited

namespace SensorRecord

/-- The reading that a message carries. -/
def ofMessage (m : Message) : SensorRecord :=
  ⟨m.sensor, m.value, m.sensorType, m.timestamp, m.clock⟩

/-- The JSON form of a record. -/
def toJson (r : SensorRecord) : Json :=
  .obj [("sensor_id", .str r.sensor), ("value", .float r.value),
    ("sensor_type", .str r.sensorType), ("timestamp", .word r.timestamp),
    ("clock", .word r.clock)]

/-- The names of the fields, in order. -/
def fieldNames : List String := ["sensor_id", "value", "sensor_type", "timestamp", "clock"]

/-- Reads a record. -/
def ofJson? (j : Json) : Option SensorRecord := do
  let fields ← j.fields? fieldNames
  let sensor ← fields.required "sensor_id" Json.text?
  let value ← fields.required "value" Json.float?
  let sensorType ← fields.required "sensor_type" Json.text?
  let timestamp ← fields.required "timestamp" Json.uint64?
  let clock ← fields.required "clock" Json.uint64?
  return { sensor, value, sensorType, timestamp, clock }

end SensorRecord

end SensorCluster
