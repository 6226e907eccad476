import SensorCluster.Config
import SensorCluster.Proofs.WrittenJson
import SensorCluster.Replica
import SensorCluster.SensorRegistry

/-!
# Values go through JSON and back

Six types have a JSON form: messages, records, version vectors, the entries and sensors of the
registries, and configurations. Each is read from far more texts than are ever written: members may
come in any order, unknown ones do not count, a record may be a list, fields may be left to their
defaults, characters may be escaped. **Whatever was read is written as a text that is read as the
same value** (`json_round_trip`), so two different values that were read are never written alike.

The text of a float is the one thing that is taken for granted, float by float: it has to be read as
that float (`Json.ReadsBack`). A value that was read holds finite floats only.
-/

namespace SensorCluster

/-! ### Reading what was written -/

/-- Values that are read one by one are read together. -/
theorem mapM_map_some {α β : Type} {write : α → β} {read : β → Option α} {l : List α}
    (h : ∀ a ∈ l, read (write a) = some a) : (l.map write).mapM read = some l := by
  induction l with
  | nil => rfl
  | cons a rest ih =>
    obtain ⟨ha, hrest⟩ := List.forall_mem_cons.1 h
    rw [List.map_cons, List.mapM_cons, ha, ih hrest]
    rfl

/-- The entries of a map make up the map. -/
theorem KeyMap.ofList_entries {α : Type} (m : KeyMap α) : KeyMap.ofList m.entries = m := by
  have hfold : ∀ (l : List (String × α)), (l.Pairwise fun a b ↦ a.1 < b.1) → ∀ (m : KeyMap α) k,
      (l.foldl (fun m e ↦ m.insert e.1 e.2) m).get? k = (lookup k l).or (m.get? k) := by
    intro l hl
    induction l with
    | nil => exact fun _ _ ↦ rfl
    | cons e rest ih =>
      obtain ⟨hhead, hrest⟩ := List.pairwise_cons.1 hl
      intro m k
      rw [List.foldl_cons, ih hrest, KeyMap.get?_insert, lookup]
      split
      · next heq =>
        rw [heq, lookup_eq_none_of_lt hhead]
        rfl
      · rfl
  -- an increasing list has one entry for a key, so it does not matter that the later one counts
  refine KeyMap.ext_get? fun k ↦ (hfold m.entries m.ordered .empty k).trans ?_
  exact Option.or_none

namespace Fields

variable {V α : Type} {name other : String} {v : V} {rest : Fields V} {default : α}
  {read : V → Option α}

@[simp] theorem required_self : required ((name, v) :: rest) name read = read v := by
  rw [required, List.lookup_cons_self]

@[simp] theorem required_of_ne (h : name ≠ other) :
    required ((other, v) :: rest) name read = required rest name read := by
  rw [required, List.lookup_cons, beq_false_of_ne h, required]

@[simp] theorem optional_self : optional ((name, v) :: rest) name default read = read v := by
  rw [optional, List.lookup_cons_self]

@[simp] theorem optional_of_ne (h : name ≠ other) :
    optional ((other, v) :: rest) name default read = optional rest name default read := by
  rw [optional, List.lookup_cons, beq_false_of_ne h, optional]

end Fields

namespace Json

/-- Every member of an object has a text for its name. -/
theorem members?_obj (members : List (String × Json)) : (obj members).members? = some members :=
  mapM_map_some fun _ _ ↦ rfl

/-- An object of just the fields of a record is that record. -/
theorem fields?_obj {names : List String} {members : List (String × Json)}
    (hnames : members.map (·.1) = names) (hnodup : names.Nodup) :
    (obj members).fields? names = some members := by
  have hknown : members.filter (fun m ↦ names.contains m.1) = members := by
    refine List.filter_eq_self.2 fun m hm ↦ ?_
    rw [List.contains_iff_mem, ← hnames]
    exact List.mem_map_of_mem hm
  have hmembers := members?_obj members
  rw [fields?.eq_def]
  split
  · next heq => cases heq
  · rw [hmembers]
    dsimp only
    rw [hknown, hnames, if_pos hnodup]

@[simp] theorem text?_str (s : String) : (str s).text? = some s := rfl

@[simp] theorem constant?_str (s : String) : (str s).constant? = some s := rfl

@[simp] theorem bool?_bool (b : Bool) : (bool b).bool? = some b := rfl

/-- A number below the bound is read. -/
theorem below?_nat {n bound : Nat} (h : n < bound) : (nat n).below? bound = some n := if_pos h

@[simp] theorem uint64?_word (n : UInt64) : (word n).uint64? = some n := by
  rw [uint64?, word, below?_nat n.toNat_lt, Option.map_some]
  simp

@[simp] theorem decoding_text? : decoding.text? = text? := rfl

@[simp] theorem decoding_float? : decoding.float? = float? := rfl

@[simp] theorem decoding_constant? : decoding.constant? = constant? := rfl

@[simp] theorem decoding_fields? : decoding.fields? = fields? := rfl

@[simp] theorem decoding_uint64?_word (n : UInt64) : decoding.uint64? (word n) = some n :=
  uint64?_word n

@[simp] theorem decoding_uint32?_nat (n : UInt32) : decoding.uint32? (nat n.toNat) = some n := by
  have hbelow : decoding.below? UInt32.size (nat n.toNat) = some n.toNat := below?_nat n.toNat_lt
  rw [Decoding.uint32?, hbelow, Option.map_some]
  simp

@[simp] theorem uint16?_nat (n : UInt16) : (nat n.toNat).uint16? = some n := by
  rw [uint16?, below?_nat n.toNat_lt, Option.map_some]
  simp

/-- A list of values that are read one by one. -/
theorem decoding_listOf?_list {α : Type} {write : α → Json} {read : Json → Option α} {l : List α}
    (h : ∀ a ∈ l, read (write a) = some a) : decoding.listOf? read (list (l.map write)) = some l :=
  mapM_map_some h

/-- No infinity is read, and nothing that is no number. -/
theorem isFinite_of_float? {j : Json} {x : Float} (h : j.float? = some x) : x.isFinite = true := by
  have hfinite : ∀ {d : Decimal}, finite? d = some x → x.isFinite = true := by
    intro d hd
    rw [finite?] at hd
    split at hd
    · next hx =>
      rw [← Option.some.inj hd]
      exact hx
    · cases hd
  cases j with
  | integer | decimal => exact hfinite h
  | _ => cases h

/-- A field that has to be there and was read is some value that was read. -/
theorem exists_of_required {α : Type} {fields : Fields Json} {name : String}
    {read : Json → Option α} {a : α} (h : fields.required name read = some a) :
    ∃ j, read j = some a := by
  rw [Fields.required] at h
  split at h
  · exact ⟨_, h⟩
  · cases h

/-- A field that may be left out is its default, or some value that was read. -/
theorem exists_of_optional {α : Type} {fields : Fields Json} {name : String} {default : α}
    {read : Json → Option α} {a : α} (h : fields.optional name default read = some a) :
    a = default ∨ ∃ j, read j = some a := by
  rw [Fields.optional] at h
  split at h
  · exact .inr ⟨_, h⟩
  · exact .inl (Option.some.inj h).symm

attribute [simp] rereads_str rereads_nat rereads_bool

@[simp] theorem rereads_word (n : UInt64) : (word n).Rereads (word n) := rereads_nat _

end Json

/-! ### Forms -/

/-- How values of a type are written as JSON and read from it. -/
structure JsonForm (α : Type) where
  toJson : α → Json
  ofJson? : Json → Option α
  /-- The floats in a value. -/
  floats : α → List Float := fun _ ↦ []
  /-- Do the numbers of a value fit into their words? -/
  fits : α → Prop := fun _ ↦ True

namespace JsonForm

variable {α : Type} (f : JsonForm α)

/-- The text that a value is written as. -/
def print (a : α) : String := (f.toJson a).render

/-- The value that a text is read as. -/
def parse? (text : String) : Option α := (Json.read? text).bind f.ofJson?

/-- Are the finite floats in a value read back from their decimals? -/
def ReadsBack (a : α) : Prop := ∀ x ∈ f.floats a, x.isFinite = true → Json.ReadsBack x

/-- Can the value be written at all? There is no text for an infinity or for what is no number. -/
structure Writable (a : α) : Prop where
  finite : ∀ x ∈ f.floats a, x.isFinite = true
  fits : f.fits a

/-- **Values go through JSON and back.** -/
structure RoundTrips : Prop where
  /-- Every value that can be written is read from the text that it is written as. -/
  written : ∀ {a}, f.Writable a → f.ReadsBack a → f.parse? (f.print a) = some a
  /-- What was read from any text can be written. -/
  writable : ∀ {text a}, f.parse? text = some a → f.Writable a
  /-- What was read from any text is written as a text that is read again, as the same value. -/
  again : ∀ {text a}, f.parse? text = some a → f.ReadsBack a → f.parse? (f.print a) = some a
  /-- Of the values that were read no two are written alike. -/
  injective : ∀ {text text' a a'}, f.parse? text = some a → f.parse? text' = some a' →
    f.ReadsBack a → f.ReadsBack a' → f.print a = f.print a' → a = a'

variable {f}

/-- A form round-trips if its reader takes what its writer writes, and gives nothing else. -/
theorem RoundTrips.of_rereads (hreads : ∀ {j a}, f.ofJson? j = some a → f.Writable a)
    (hwrites : ∀ {a}, f.Writable a → f.ReadsBack a →
      ∃ j, (f.toJson a).Rereads j ∧ f.ofJson? j = some a) : f.RoundTrips := by
  have hwritten : ∀ {a}, f.Writable a → f.ReadsBack a → f.parse? (f.print a) = some a := by
    intro a ha hfloats
    obtain ⟨j, hj, hread⟩ := hwrites ha hfloats
    exact Option.bind_eq_some_iff.2 ⟨j, hj.read?, hread⟩
  have hwritable : ∀ {text a}, f.parse? text = some a → f.Writable a := by
    intro text a hparse
    obtain ⟨j, -, hj⟩ := Option.bind_eq_some_iff.1 hparse
    exact hreads hj
  refine ⟨hwritten, hwritable, fun hparse ↦ hwritten (hwritable hparse), ?_⟩
  intro text text' a a' hparse hparse' hfloats hfloats' heq
  -- one text cannot be read as two values
  have hsame : f.parse? (f.print a) = some a' := heq ▸ hwritten (hwritable hparse') hfloats'
  exact Option.some.inj ((hwritten (hwritable hparse) hfloats).symm.trans hsame)

/-- A value without floats can be written if its numbers fit. -/
theorem Writable.of_floats_nil {a : α} (hfloats : f.floats a = []) (hfits : f.fits a) :
    f.Writable a :=
  ⟨by simp [hfloats], hfits⟩

/-- A value with one float can be written if this is finite. -/
theorem Writable.of_floats_singleton {a : α} {x : Float} (hfloats : f.floats a = [x])
    (hx : x.isFinite = true) (hfits : f.fits a) : f.Writable a :=
  ⟨by simpa [hfloats] using hx, hfits⟩

/-- The float of a value that has one is read back, if the value can be written. -/
theorem Writable.readsBack {a : α} {x : Float} (h : f.Writable a) (hfloats : f.floats a = [x])
    (hback : f.ReadsBack a) : Json.ReadsBack x :=
  have hmem : x ∈ f.floats a := hfloats ▸ List.mem_singleton_self x
  hback x hmem (h.finite x hmem)

end JsonForm

/-! ### Constants -/

/-- Each kind is read from its name. -/
theorem MessageKind.ofJson?_toJson (k : MessageKind) : ofJson? k.toJson = some k := by
  cases k <;> decide

/-- Each state is read from its name. -/
theorem Lifecycle.ofJson?_toJson (s : Lifecycle) : ofJson? s.toJson = some s := by
  cases s <;> decide

/-! ### Version vectors -/

namespace VersionVector

/-- The JSON form of version vectors. -/
def jsonForm : JsonForm VersionVector where
  toJson := toJson
  ofJson? := ofJson?

/-- The text of a vector is read as what was written. -/
theorem rereads_toJson (v : VersionVector) : v.toJson.Rereads v.toJson := by
  have hcounters : ∀ m ∈ v.counters.entries.map fun e ↦ (e.1, Json.word e.2), m.2.Rereads m.2 := by
    intro m hm
    obtain ⟨e, -, rfl⟩ := List.mem_map.1 hm
    exact Json.rereads_word e.2
  exact Json.rereads_obj_self (List.forall_mem_singleton.2 (Json.rereads_obj_self hcounters))

/-- The form of a vector is read as the vector: its entries are in order, so none is lost. -/
theorem ofJson?_toJson (v : VersionVector) : ofJson? v.toJson = some v := by
  have hcounters : countersOfJson? (.obj (v.counters.entries.map fun e ↦ (e.1, .word e.2))) =
      some v.counters := by
    -- the counters are read entry by entry
    have hread : (v.counters.entries.map fun e ↦ (e.1, Json.word e.2)).mapM
        (fun m ↦ (m.2.uint64?).map fun n ↦ (m.1, n)) = some v.counters.entries :=
      mapM_map_some fun e _ ↦ by rw [Json.uint64?_word]; rfl
    rw [countersOfJson?, Json.members?_obj, Option.bind_eq_bind, Option.bind_some, hread]
    exact congrArg some v.counters.ofList_entries
  simp [ofJson?, toJson, Json.fields?_obj, hcounters]

end VersionVector

/-! ### Messages and records -/

namespace Message

/-- The JSON form of messages. -/
def jsonForm : JsonForm Message where
  toJson := toJson
  ofJson? := ofJson?
  floats m := [m.value]

/-- The value of a message that was read is finite. -/
theorem isFinite_of_ofJson? {j : Json} {m : Message} (h : ofJson? j = some m) :
    m.value.isFinite = true := by
  simp only [ofJson?, Option.bind_eq_bind, Option.bind_eq_some_iff] at h
  obtain ⟨fields, -, id, -, sensor, -, kind, -, content, -, value, hvalue, sensorType, -, timestamp,
    -, vector, -, hm⟩ := h
  obtain ⟨j, hj⟩ := Json.exists_of_required hvalue
  rw [← Option.some.inj hm]
  exact Json.isFinite_of_float? hj

/-- A message with a float that reads back is read back. -/
theorem rereads_toJson {m : Message} (h : Json.ReadsBack m.value) :
    ∃ j, m.toJson.Rereads j ∧ ofJson? j = some m := by
  obtain ⟨value, hvalue, hfloat⟩ := Json.rereads_float h
  refine ⟨.obj [("message_id", .str m.id), ("sensor_id", .str m.sensor), ("kind", m.kind.toJson),
    ("content", .str m.content), ("value", value), ("sensor_type", .str m.sensorType),
    ("timestamp", .word m.timestamp), ("version_vector", m.vector.toJson)], .obj ?_, ?_⟩
  · simp [Json.RereadsMember, MessageKind.toJson, VersionVector.rereads_toJson, hvalue]
  · simp [ofJson?, Json.fields?_obj, fieldNames, hfloat, MessageKind.ofJson?_toJson,
      VersionVector.ofJson?_toJson]

end Message

namespace SensorRecord

/-- The JSON form of records. -/
def jsonForm : JsonForm SensorRecord where
  toJson := toJson
  ofJson? := ofJson?
  floats r := [r.value]

/-- The value of a record that was read is finite. -/
theorem isFinite_of_ofJson? {j : Json} {r : SensorRecord} (h : ofJson? j = some r) :
    r.value.isFinite = true := by
  simp only [ofJson?, Option.bind_eq_bind, Option.bind_eq_some_iff] at h
  obtain ⟨fields, -, sensor, -, value, hvalue, sensorType, -, timestamp, -, clock, -, hr⟩ := h
  obtain ⟨j, hj⟩ := Json.exists_of_required hvalue
  rw [← Option.some.inj hr]
  exact Json.isFinite_of_float? hj

/-- A record with a float that reads back is read back. -/
theorem rereads_toJson {r : SensorRecord} (h : Json.ReadsBack r.value) :
    ∃ j, r.toJson.Rereads j ∧ ofJson? j = some r := by
  obtain ⟨value, hvalue, hfloat⟩ := Json.rereads_float h
  refine ⟨.obj [("sensor_id", .str r.sensor), ("value", value), ("sensor_type", .str r.sensorType),
    ("timestamp", .word r.timestamp), ("clock", .word r.clock)], .obj ?_, ?_⟩
  · simp [Json.RereadsMember, hvalue]
  · simp [ofJson?, Json.fields?_obj, fieldNames, hfloat]

end SensorRecord

/-! ### Entries of the registries -/

namespace ReplicaEntry

/-- The JSON form of the entries of receivers. -/
def jsonForm : JsonForm ReplicaEntry where
  toJson := toJson
  ofJson? := ofJson?
  fits e := e.records < UInt64.size

/-- The number of records that was read is a word. -/
theorem records_lt_of_ofJson? {j : Json} {e : ReplicaEntry} (h : ofJson? j = some e) :
    e.records < UInt64.size := by
  simp only [ofJson?, Option.bind_eq_bind, Option.bind_eq_some_iff] at h
  obtain ⟨fields, -, receiver, -, address, -, state, -, healthy, -, total, -, conflicts, -, records,
    hrecords, he⟩ := h
  obtain ⟨j, hj⟩ := Json.exists_of_required hrecords
  rw [← Option.some.inj he]
  rw [Json.below?.eq_def] at hj
  split at hj
  · split at hj
    · next hlt => exact Option.some.inj hj ▸ hlt
    · cases hj
  · cases hj

/-- An entry has no floats, so its text is read as what was written. -/
theorem rereads_toJson (e : ReplicaEntry) : e.toJson.Rereads e.toJson :=
  Json.rereads_obj_self (by simp [Lifecycle.toJson])

/-- An entry whose number of records is a word is read back. -/
theorem ofJson?_toJson {e : ReplicaEntry} (h : e.records < UInt64.size) :
    ofJson? e.toJson = some e := by
  simp [ofJson?, toJson, Json.fields?_obj, fieldNames, Lifecycle.ofJson?_toJson,
    Json.below?_nat h]

end ReplicaEntry

namespace SensorInfo

/-- The JSON form of registered sensors. -/
def jsonForm : JsonForm SensorInfo where
  toJson := toJson
  ofJson? := ofJson?

/-- The text of a sensor is read as what was written, -/
theorem rereads_toJson (s : SensorInfo) : s.toJson.Rereads s.toJson :=
  Json.rereads_obj_self (by simp)

/-- and as the sensor. -/
theorem ofJson?_toJson (s : SensorInfo) : ofJson? s.toJson = some s := by
  simp [ofJson?, toJson, Json.fields?_obj, fieldNames]

end SensorInfo

/-! ### Configurations -/

/-- The sections without floats are written as texts that are read as what was written, -/
theorem ReceiverConfig.rereads_toJson (r : ReceiverConfig) : r.toJson.Rereads r.toJson :=
  Json.rereads_obj_self (by simp)

/-- and this is read as the section. -/
theorem ReceiverConfig.ofJson?_toJson (r : ReceiverConfig) : ofJson? r.toJson = some r := by
  simp [ofJson?, read?, toJson, Json.fields?_obj]

theorem SlotConfig.rereads_toJson (s : SlotConfig) : s.toJson.Rereads s.toJson :=
  Json.rereads_obj_self (by simp)

theorem SlotConfig.ofJson?_toJson (s : SlotConfig) : ofJson? s.toJson = some s := by
  simp [ofJson?, read?, toJson, Json.fields?_obj]

theorem CoordinatorConfig.rereads_toJson (c : CoordinatorConfig) : c.toJson.Rereads c.toJson :=
  Json.rereads_obj_self (by simp [SelectionPolicy.toJson])

theorem CoordinatorConfig.read?_toJson (c : CoordinatorConfig) :
    read? Json.decoding c.toJson = some c := by
  obtain ⟨⟨⟩⟩ := c
  rfl

theorem ReplicationConfig.rereads_toJson (r : ReplicationConfig) : r.toJson.Rereads r.toJson :=
  Json.rereads_obj_self (by simp)

theorem ReplicationConfig.read?_toJson (r : ReplicationConfig) :
    read? Json.decoding r.toJson = some r := by
  simp [read?, toJson, Json.fields?_obj, fieldNames]

namespace FaultToleranceConfig

/-- The default threshold is finite, so it can be written. -/
theorem isFinite_default : FaultToleranceConfig.default.imbalanceThreshold.isFinite = true := by
  decide +kernel

/-- A threshold that was read is finite, or is the default. -/
theorem isFinite_of_read? {j : Json} {f : FaultToleranceConfig}
    (h : read? Json.decoding j = some f) : f.imbalanceThreshold.isFinite = true := by
  simp only [read?, Option.bind_eq_bind, Option.bind_eq_some_iff] at h
  obtain ⟨fields, -, healthCheckInterval, -, loadBalanceInterval, -, recoveryGrace, -,
    minHealthyReceivers, -, imbalanceThreshold, hthreshold, backupPool, -, hf⟩ := h
  rw [← Option.some.inj hf]
  rcases Json.exists_of_optional hthreshold with hdefault | ⟨j, hj⟩
  · rw [hdefault]
    exact FaultToleranceConfig.isFinite_default
  · exact Json.isFinite_of_float? hj

/-- A section with a threshold that reads back is read back, slot by slot. -/
theorem rereads_toJson {f : FaultToleranceConfig} (h : Json.ReadsBack f.imbalanceThreshold) :
    ∃ j, f.toJson.Rereads j ∧ read? Json.decoding j = some f := by
  obtain ⟨threshold, hthreshold, hfloat⟩ := Json.rereads_float h
  have hpool : (Json.list (f.backupPool.map SlotConfig.toJson)).Rereads
      (.list (f.backupPool.map SlotConfig.toJson)) :=
    Json.rereads_list_self (List.forall_mem_map.2 fun s _ ↦ s.rereads_toJson)
  have hslots : Json.decoding.listOf? (SlotConfig.read? Json.decoding)
      (.list (f.backupPool.map SlotConfig.toJson)) = some f.backupPool :=
    Json.decoding_listOf?_list fun s _ ↦ s.ofJson?_toJson
  refine ⟨.obj [("health_check_interval_ms", .word f.healthCheckInterval),
    ("load_balance_interval_ms", .word f.loadBalanceInterval),
    ("recovery_grace_ms", .word f.recoveryGrace),
    ("min_healthy_receivers", .word f.minHealthyReceivers),
    ("imbalance_threshold", threshold),
    ("backup_pool", .list (f.backupPool.map SlotConfig.toJson))], .obj ?_, ?_⟩
  · simp [Json.RereadsMember, hthreshold, hpool]
  · simp [read?, Json.fields?_obj, fieldNames, hfloat, hslots]

end FaultToleranceConfig

namespace Config

/-- The JSON form of configurations. -/
def jsonForm : JsonForm Config where
  toJson := toJson
  ofJson? := ofJson?
  floats c := [c.faultTolerance.imbalanceThreshold]

/-- The threshold of a configuration that was read is finite: it is read, or the default of its
section, or in the default section. -/
theorem isFinite_of_ofJson? {j : Json} {c : Config} (h : ofJson? j = some c) :
    c.faultTolerance.imbalanceThreshold.isFinite = true := by
  simp only [ofJson?, read?, Option.bind_eq_bind, Option.bind_eq_some_iff] at h
  obtain ⟨fields, -, nodeId, -, logLevel, -, shutdownGrace, -, coordinator, -, replication, -,
    faultTolerance, hfaultTolerance, receivers, -, hc⟩ := h
  rw [← Option.some.inj hc]
  rcases Json.exists_of_optional hfaultTolerance with hdefault | ⟨j, hj⟩
  · rw [hdefault]
    exact FaultToleranceConfig.isFinite_default
  · exact FaultToleranceConfig.isFinite_of_read? hj

/-- A configuration is read back, section by section. -/
theorem rereads_toJson {c : Config} (h : Json.ReadsBack c.faultTolerance.imbalanceThreshold) :
    ∃ j, c.toJson.Rereads j ∧ ofJson? j = some c := by
  obtain ⟨faultTolerance, hfaultTolerance, hread⟩ := FaultToleranceConfig.rereads_toJson h
  have hreceivers : (Json.list (c.receivers.map ReceiverConfig.toJson)).Rereads
      (.list (c.receivers.map ReceiverConfig.toJson)) :=
    Json.rereads_list_self (List.forall_mem_map.2 fun r _ ↦ r.rereads_toJson)
  have hlist : Json.decoding.listOf? (ReceiverConfig.read? Json.decoding)
      (.list (c.receivers.map ReceiverConfig.toJson)) = some c.receivers :=
    Json.decoding_listOf?_list fun r _ ↦ r.ofJson?_toJson
  refine ⟨.obj [("node_id", .str c.nodeId), ("log_level", .str c.logLevel),
    ("shutdown_grace_ms", .word c.shutdownGrace), ("coordinator", c.coordinator.toJson),
    ("replication", c.replication.toJson), ("fault_tolerance", faultTolerance),
    ("receivers", .list (c.receivers.map ReceiverConfig.toJson))], .obj ?_, ?_⟩
  · simp [Json.RereadsMember, c.coordinator.rereads_toJson, c.replication.rereads_toJson,
      hfaultTolerance, hreceivers]
  · simp [ofJson?, read?, Json.fields?_obj, fieldNames, hread, hlist,
      c.coordinator.read?_toJson, c.replication.read?_toJson]

end Config

/-! ### The round trip -/

/-- **Values go through JSON and back**: messages, records, version vectors, entries of receivers,
registered sensors and configurations. -/
theorem json_round_trip :
    Message.jsonForm.RoundTrips ∧ SensorRecord.jsonForm.RoundTrips ∧
      VersionVector.jsonForm.RoundTrips ∧ ReplicaEntry.jsonForm.RoundTrips ∧
      SensorInfo.jsonForm.RoundTrips ∧ Config.jsonForm.RoundTrips := by
  refine ⟨.of_rereads (fun h ↦ ?_) fun h hback ↦ ?_, .of_rereads (fun h ↦ ?_) fun h hback ↦ ?_,
    .of_rereads (fun _ ↦ ?_) fun _ _ ↦ ?_, .of_rereads (fun h ↦ ?_) fun h _ ↦ ?_,
    .of_rereads (fun _ ↦ ?_) fun _ _ ↦ ?_, .of_rereads (fun h ↦ ?_) fun h hback ↦ ?_⟩
  · exact .of_floats_singleton rfl (Message.isFinite_of_ofJson? h) trivial
  · exact Message.rereads_toJson (h.readsBack rfl hback)
  · exact .of_floats_singleton rfl (SensorRecord.isFinite_of_ofJson? h) trivial
  · exact SensorRecord.rereads_toJson (h.readsBack rfl hback)
  · exact .of_floats_nil rfl trivial
  · exact ⟨_, VersionVector.rereads_toJson _, VersionVector.ofJson?_toJson _⟩
  · exact .of_floats_nil rfl (ReplicaEntry.records_lt_of_ofJson? h)
  · exact ⟨_, ReplicaEntry.rereads_toJson _, ReplicaEntry.ofJson?_toJson h.fits⟩
  · exact .of_floats_nil rfl trivial
  · exact ⟨_, SensorInfo.rereads_toJson _, SensorInfo.ofJson?_toJson _⟩
  · exact .of_floats_singleton rfl (Config.isFinite_of_ofJson? h) trivial
  · exact Config.rereads_toJson (h.readsBack rfl hback)

/-- A record that is written as a list, with escapes that nobody would write, and with the largest
word. It is written as an object, and read again. -/
theorem json_round_trip_list :
    let text := "[\"\\u00e9\\/\\u000A\", 15e-1, \"\", 18446744073709551615, 7]"
    let plain := "\x7b\"sensor_id\":\"é/\\n\",\"value\":1.5,\"sensor_type\":\"\"," ++
      "\"timestamp\":18446744073709551615,\"clock\":7\x7d"
    ∃ r, SensorRecord.jsonForm.parse? text = some r ∧ SensorRecord.jsonForm.print r = plain ∧
      SensorRecord.jsonForm.parse? (SensorRecord.jsonForm.print r) = some r := by
  intro text plain
  have hread : (SensorRecord.jsonForm.parse? text).map
      (fun r ↦ (SensorRecord.jsonForm.print r, r.value)) = some (plain, 1.5) := by decide +kernel
  obtain ⟨r, hr, heq⟩ := Option.map_eq_some_iff.1 hread
  obtain ⟨hplain, hvalue⟩ := Prod.mk.inj heq
  refine ⟨r, hr, hplain, json_round_trip.2.1.again hr fun x hx _ ↦ ?_⟩
  rw [List.mem_singleton.1 hx, hvalue]
  decide +kernel

end SensorCluster
