import SensorCluster.KeyMap
import SensorCluster.Json.Decode

/-!
# Registered sensors

The `SensorRegistry` remembers each sensor that announced itself: its type and the address it
announced itself from, when it did so first, and when it was last heard of.
-/

namespace SensorCluster

/-- A registered sensor. -/
structure SensorInfo where
  sensor : String
  sensorType : String
  host : String
  port : UInt16
  registeredAt : UInt64
  lastSeen : UInt64
  deriving DecidableEq, Repr, Inhabited

namespace SensorInfo

/-- The JSON form of a sensor. -/
def toJson (s : SensorInfo) : Json :=
  .obj [("sensor_id", .str s.sensor), ("sensor_type", .str s.sensorType), ("host", .str s.host),
    ("port", .nat s.port.toNat), ("registered_at", .word s.registeredAt),
    ("last_seen", .word s.lastSeen)]

/-- The names of the fields, in order. -/
def fieldNames : List String :=
  ["sensor_id", "sensor_type", "host", "port", "registered_at", "last_seen"]

/-- Reads a sensor. -/
def ofJson? (j : Json) : Option SensorInfo := do
  let fields ← j.fields? fieldNames
  let sensor ← fields.required "sensor_id" Json.text?
  let sensorType ← fields.required "sensor_type" Json.text?
  let host ← fields.required "host" Json.text?
  let port ← fields.required "port" Json.uint16?
  let registeredAt ← fields.required "registered_at" Json.uint64?
  let lastSeen ← fields.required "last_seen" Json.uint64?
  return { sensor, sensorType, host, port, registeredAt, lastSeen }

end SensorInfo

/-- The registered sensors by id. -/
structure SensorRegistry where
  sensors : KeyMap SensorInfo

namespace SensorRegistry

/-- The registry without sensors. -/
def empty : SensorRegistry := ⟨.empty⟩

instance : Inhabited SensorRegistry := ⟨empty⟩

/-- The registered sensor of an id. -/
def get? (g : SensorRegistry) (sensor : String) : Option SensorInfo := g.sensors.get? sensor

/-- Registers a sensor, or renews what is known of it; the answer says whether it is new. -/
def register (g : SensorRegistry) (sensor sensorType host : String) (port : UInt16)
    (now : UInt64) : Bool × SensorRegistry :=
  match g.get? sensor with
  | some info =>
    (false, ⟨g.sensors.insert sensor { info with sensorType, host, port, lastSeen := now }⟩)
  | none => (true, ⟨g.sensors.insert sensor ⟨sensor, sensorType, host, port, now, now⟩⟩)

/-- Notes that a sensor was heard of; the answer says whether it is registered. -/
def touch (g : SensorRegistry) (sensor : String) (now : UInt64) : Bool × SensorRegistry :=
  match g.get? sensor with
  | some info => (true, ⟨g.sensors.insert sensor { info with lastSeen := now }⟩)
  | none => (false, g)

/-- Forgets a sensor. -/
def remove (g : SensorRegistry) (sensor : String) : SensorRegistry := ⟨g.sensors.erase sensor⟩

/-- The registered sensors, in the order of their ids. -/
def list (g : SensorRegistry) : List SensorInfo := g.sensors.values

/-- The number of registered sensors. -/
def size (g : SensorRegistry) : Nat := g.sensors.size

/-- Is no sensor registered? -/
def isEmpty (g : SensorRegistry) : Bool := g.sensors.isEmpty

/-! ### Look-ups after an operation -/

variable (g : SensorRegistry) (sensor sensorType host : String) (port : UInt16) (now : UInt64)

/-- A sensor is new when it was not registered. -/
theorem fst_register :
    (g.register sensor sensorType host port now).1 = !(g.get? sensor).isSome := by
  rw [register]
  split
  · next info hget => rw [hget]; rfl
  · next hget => rw [hget]; rfl

/-- Registering a sensor changes the entry of that sensor alone, and keeps since when it is known.
-/
theorem get?_register (other : String) :
    (g.register sensor sensorType host port now).2.get? other =
      if other = sensor then
        some (match g.get? sensor with
          | some info => { info with sensorType, host, port, lastSeen := now }
          | none => ⟨sensor, sensorType, host, port, now, now⟩)
      else g.get? other := by
  rw [register]
  split <;> exact KeyMap.get?_insert ..

/-- Only a registered sensor can be noted as heard of. -/
theorem get?_touch (other : String) :
    (g.touch sensor now).2.get? other =
      if other = sensor then (g.get? sensor).map fun info ↦ { info with lastSeen := now }
      else g.get? other := by
  rw [touch]
  split
  · next info hget =>
    rw [hget]
    exact KeyMap.get?_insert ..
  · next hget =>
    split
    · next heq => rw [heq, hget]; rfl
    · rfl

theorem get?_remove (other : String) :
    (g.remove sensor).get? other = if other = sensor then none else g.get? other :=
  KeyMap.get?_erase ..

/-- A new sensor is registered under its own id. -/
theorem get?_register_of_none (h : g.get? sensor = none) :
    (g.register sensor sensorType host port now).2.get? sensor =
      some ⟨sensor, sensorType, host, port, now, now⟩ := by
  rw [get?_register, if_pos rfl, h]

/-- Registering makes one sensor known and forgets none. -/
theorem isSome_get?_register (other : String) :
    ((g.register sensor sensorType host port now).2.get? other).isSome =
      (decide (other = sensor) || (g.get? other).isSome) := by
  rw [get?_register]
  split
  · next heq => simp [heq]
  · next hne => simp [hne]

/-- A note that a sensor was heard of makes no sensor known. -/
theorem isSome_get?_touch (other : String) :
    ((g.touch sensor now).2.get? other).isSome = (g.get? other).isSome := by
  rw [get?_touch]
  split
  · next heq => rw [Option.isSome_map, heq]
  · rfl

/-- Removing a sensor forgets that one and no other. -/
theorem isSome_get?_remove (other : String) :
    ((g.remove sensor).get? other).isSome =
      (decide (other ≠ sensor) && (g.get? other).isSome) := by
  rw [get?_remove]
  split
  · next heq => simp [heq]
  · next hne => simp [hne]

/-! ### The listing -/

/-- Each sensor is kept under its own id. -/
def Filed : Prop := ∀ sensor info, g.get? sensor = some info → info.sensor = sensor

variable {g}

/-- A listed entry names the sensor that it is kept under. -/
theorem Filed.sensor_eq (h : g.Filed) {e : String × SensorInfo} (he : e ∈ g.sensors.entries) :
    e.2.sensor = e.1 :=
  h e.1 e.2 ((KeyMap.get?_eq_some_iff ..).2 he)

/-- The listed sensors increase in their ids. -/
theorem Filed.pairwise_list (h : g.Filed) : g.list.Pairwise fun a b ↦ a.sensor < b.sensor := by
  refine List.pairwise_map.2 (g.sensors.ordered.imp_of_mem fun ha hb hlt ↦ ?_)
  rw [h.sensor_eq ha, h.sensor_eq hb]
  exact hlt

/-- A registered sensor is listed once, and nobody else is. -/
theorem Filed.filter_list (h : g.Filed) (sensor : String) :
    g.list.filter (·.sensor = sensor) = (g.get? sensor).toList := by
  have hkeys : g.sensors.entries.filter (·.2.sensor = sensor) =
      g.sensors.entries.filter (·.1 = sensor) :=
    List.filter_congr fun e he ↦ by rw [h.sensor_eq he]
  show (g.sensors.entries.map (·.2)).filter (·.sensor = sensor) = (g.sensors.get? sensor).toList
  rw [List.filter_map]
  refine (congrArg (List.map (·.2)) (hkeys.trans (KeyMap.filter_entries ..))).trans ?_
  cases g.sensors.get? sensor <;> rfl

end SensorRegistry

end SensorCluster
