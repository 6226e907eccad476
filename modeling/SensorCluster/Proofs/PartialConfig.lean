import SensorCluster.Proofs.JsonForms
import SensorCluster.Proofs.SpelledJson
import Mathlib.Data.List.Nodup

/-!
# Configurations in part

A configuration names some of its settings, in any order, among members that mean nothing to it; a
section names some of its own. `Config.Partial` is what is named, and `Config.Partial.onto` puts it
onto settings that are complete. **Every text that names settings is read, as these over the
defaults** (`Config.parse_partial`).

A field that is not named has a default of its own, and so has a section. One lemma treats them all,
whatever their defaults are (`Json.Reduces.optional_of_meaning`). Only the last step for each
section looks at these: the default of the section is made up of those of its fields.

The members of `Json.obj` have texts for names. Half of a surrogate pair is no text, so an object
with such a name is not meant here; the values of other members are any JSON at all.
-/

namespace SensorCluster

/-! ### What is named -/

/-- The settings of a slot, which may leave its attempts open. -/
structure SlotConfig.Partial where
  id : String
  address : String
  maxAttempts : Option UInt32 := none

/-- The named settings of the coordinator. -/
structure CoordinatorConfig.Partial where
  strategy : Option SelectionPolicy := none

/-- The named settings of the replication. -/
structure ReplicationConfig.Partial where
  syncInterval : Option UInt64 := none
  backupInterval : Option UInt64 := none
  recoveryInterval : Option UInt64 := none

/-- The named settings of the fault tolerance. -/
structure FaultToleranceConfig.Partial where
  healthCheckInterval : Option UInt64 := none
  loadBalanceInterval : Option UInt64 := none
  recoveryGrace : Option UInt64 := none
  minHealthyReceivers : Option UInt64 := none
  imbalanceThreshold : Option Float := none
  backupPool : Option (List SlotConfig.Partial) := none

/-- The named settings of a node. -/
structure Config.Partial where
  nodeId : Option String := none
  logLevel : Option String := none
  shutdownGrace : Option UInt64 := none
  coordinator : Option CoordinatorConfig.Partial := none
  replication : Option ReplicationConfig.Partial := none
  faultTolerance : Option FaultToleranceConfig.Partial := none
  receivers : Option (List ReceiverConfig) := none

/-! Named settings replace those that they are put onto, and no others. -/

/-- The slot, with the attempts of one that does not say. -/
def SlotConfig.Partial.complete (s : SlotConfig.Partial) : SlotConfig :=
  ⟨s.id, s.address, s.maxAttempts.getD defaultMaxAttempts⟩

def CoordinatorConfig.Partial.onto (p : CoordinatorConfig.Partial) (c : CoordinatorConfig) :
    CoordinatorConfig :=
  ⟨p.strategy.getD c.strategy⟩

def ReplicationConfig.Partial.onto (p : ReplicationConfig.Partial) (r : ReplicationConfig) :
    ReplicationConfig :=
  ⟨p.syncInterval.getD r.syncInterval, p.backupInterval.getD r.backupInterval,
    p.recoveryInterval.getD r.recoveryInterval⟩

def FaultToleranceConfig.Partial.onto (p : FaultToleranceConfig.Partial)
    (f : FaultToleranceConfig) :
    FaultToleranceConfig where
  healthCheckInterval := p.healthCheckInterval.getD f.healthCheckInterval
  loadBalanceInterval := p.loadBalanceInterval.getD f.loadBalanceInterval
  recoveryGrace := p.recoveryGrace.getD f.recoveryGrace
  minHealthyReceivers := p.minHealthyReceivers.getD f.minHealthyReceivers
  imbalanceThreshold := p.imbalanceThreshold.getD f.imbalanceThreshold
  backupPool := (p.backupPool.map (·.map SlotConfig.Partial.complete)).getD f.backupPool

def Config.Partial.onto (p : Config.Partial) (c : Config) : Config where
  nodeId := p.nodeId.getD c.nodeId
  logLevel := p.logLevel.getD c.logLevel
  shutdownGrace := p.shutdownGrace.getD c.shutdownGrace
  coordinator := (p.coordinator.map (·.onto c.coordinator)).getD c.coordinator
  replication := (p.replication.map (·.onto c.replication)).getD c.replication
  faultTolerance := (p.faultTolerance.map (·.onto c.faultTolerance)).getD c.faultTolerance
  receivers := p.receivers.getD c.receivers

/-! ### How it is written -/

namespace Json

variable {α β : Type} {names : List String} {name : String} {j : Json}
  {members : List (String × Json)}

def IsText (s : String) (j : Json) : Prop := j = .str s

def IsWord (n : UInt64) (j : Json) : Prop := j = .word n

def IsAttempts (n : UInt32) (j : Json) : Prop := j = .nat n.toNat

/-- A number, in any form, of which this is the nearest float. -/
def IsFloat (x : Float) (j : Json) : Prop := j.float? = some x

/-- The name of the policy, or an object of it with nothing in it. -/
def IsPolicy (p : SelectionPolicy) (j : Json) : Prop := j.constant? = some p.name

def IsListOf (writes : α → Json → Prop) (l : List α) (j : Json) : Prop :=
  ∃ items, j = .list items ∧ List.Forall₂ writes l items

/-- The fields of a record: the members of an object, or the items of a list, which are its first
fields. -/
inductive Lists (names : List String) : Json → List (String × Json) → Prop
  | object (members : List (String × Json)) : Lists names (.obj members) members
  | list (items : List Json) (h : items.length ≤ names.length) :
      Lists names (.list items) (names.zip items)

/-- Is no field named twice? -/
def NamedOnce (names : List String) (members : List (String × Json)) : Prop :=
  ∀ name ∈ names, (members.map (·.1)).count name ≤ 1

instance : Decidable (NamedOnce names members) :=
  inferInstanceAs (Decidable (∀ name ∈ names, (members.map (·.1)).count name ≤ 1))

/-- Is the field named, if it has a value, and is the value written there? -/
def Gives (members : List (String × Json)) (name : String) (writes : α → Json → Prop) :
    Option α → Prop
  | none => name ∉ members.map (·.1)
  | some a => ∃ j, (name, j) ∈ members ∧ writes a j

/-- Is this the JSON form of a record whose members are so? -/
def IsRecord (names : List String) (written : List (String × Json) → Prop) (j : Json) : Prop :=
  ∃ members, Lists names j members ∧ NamedOnce names members ∧ written members

end Json

open Json

structure ReceiverConfig.WrittenBy (r : ReceiverConfig)
    (members : List (String × Json)) : Prop where
  id : Gives members "id" IsText (some r.id)
  address : Gives members "address" IsText (some r.address)

structure SlotConfig.Partial.WrittenBy (s : SlotConfig.Partial) (members : List (String × Json)) :
    Prop where
  id : Gives members "id" IsText (some s.id)
  address : Gives members "address" IsText (some s.address)
  maxAttempts : Gives members "max_attempts" IsAttempts s.maxAttempts

structure CoordinatorConfig.Partial.WrittenBy (p : CoordinatorConfig.Partial)
    (members : List (String × Json)) : Prop where
  strategy : Gives members "strategy" IsPolicy p.strategy

structure ReplicationConfig.Partial.WrittenBy (p : ReplicationConfig.Partial)
    (members : List (String × Json)) : Prop where
  syncInterval : Gives members "sync_interval_ms" IsWord p.syncInterval
  backupInterval : Gives members "backup_interval_ms" IsWord p.backupInterval
  recoveryInterval : Gives members "recovery_interval_ms" IsWord p.recoveryInterval

structure FaultToleranceConfig.Partial.WrittenBy (p : FaultToleranceConfig.Partial)
    (members : List (String × Json)) : Prop where
  healthCheckInterval : Gives members "health_check_interval_ms" IsWord p.healthCheckInterval
  loadBalanceInterval : Gives members "load_balance_interval_ms" IsWord p.loadBalanceInterval
  recoveryGrace : Gives members "recovery_grace_ms" IsWord p.recoveryGrace
  minHealthyReceivers : Gives members "min_healthy_receivers" IsWord p.minHealthyReceivers
  imbalanceThreshold : Gives members "imbalance_threshold" IsFloat p.imbalanceThreshold
  backupPool : Gives members "backup_pool"
    (IsListOf fun s ↦ IsRecord ["id", "address", "max_attempts"] s.WrittenBy) p.backupPool

structure Config.Partial.WrittenBy (p : Config.Partial)
    (members : List (String × Json)) : Prop where
  nodeId : Gives members "node_id" IsText p.nodeId
  logLevel : Gives members "log_level" IsText p.logLevel
  shutdownGrace : Gives members "shutdown_grace_ms" IsWord p.shutdownGrace
  coordinator : Gives members "coordinator" (fun c ↦ IsRecord ["strategy"] c.WrittenBy)
    p.coordinator
  replication : Gives members "replication"
    (fun r ↦ IsRecord ReplicationConfig.fieldNames r.WrittenBy) p.replication
  faultTolerance : Gives members "fault_tolerance"
    (fun f ↦ IsRecord FaultToleranceConfig.fieldNames f.WrittenBy) p.faultTolerance
  receivers : Gives members "receivers"
    (IsListOf fun r ↦ IsRecord ["id", "address"] r.WrittenBy) p.receivers

/-! ### How it is read -/

namespace Json

variable {α β : Type} {names : List String} {name : String} {j : Json}
  {members : List (String × Json)}

/-- Only what is asked for counts among the members. -/
theorem lookup_filter (hname : name ∈ names) :
    (members.filter fun m ↦ names.contains m.1).lookup name = members.lookup name := by
  induction members with
  | nil => rfl
  | cons m rest ih =>
    by_cases heq : name = m.1
    · subst heq
      rw [List.filter_cons_of_pos (by simpa using hname), List.lookup_cons_self,
        List.lookup_cons_self]
    · rw [List.lookup_cons, beq_false_of_ne heq, ← ih]
      rw [List.filter_cons]
      split
      · rw [List.lookup_cons, beq_false_of_ne heq]
      · rfl

/-- A member that is named once is the one that is found. -/
theorem lookup_of_mem (h : (name, j) ∈ members) (honce : (members.map (·.1)).count name ≤ 1) :
    members.lookup name = some j := by
  induction members with
  | nil => cases h
  | cons m rest ih =>
    obtain rfl | hrest := List.mem_cons.1 h
    · exact List.lookup_cons_self
    · have hmem : name ∈ rest.map (·.1) := List.mem_map_of_mem hrest
      have hpos := List.count_pos_iff.2 hmem
      have hne : name ≠ m.1 := by
        rintro rfl
        rw [List.map_cons, List.count_cons_self] at honce
        omega
      rw [List.map_cons, List.count_cons_of_ne (Ne.symm hne)] at honce
      rw [List.lookup_cons, beq_false_of_ne hne]
      exact ih hrest honce

/-- No member is found that is not named. -/
theorem lookup_eq_none (h : name ∉ members.map (·.1)) : members.lookup name = none := by
  rw [List.lookup_eq_none_iff]
  intro m hm
  refine bne_iff_ne.2 ?_
  rintro rfl
  exact h (List.mem_map_of_mem hm)

/-- Do the fields answer as the members do, of which none is named twice? -/
structure Reduces (names : List String) (members : List (String × Json)) (fields : Fields Json) :
    Prop where
  once : NamedOnce names members
  lookup_eq : ∀ name ∈ names, fields.lookup name = members.lookup name

/-- A record is read field by field, whether it is an object or a list. -/
theorem IsRecord.exists_fields {written : List (String × Json) → Prop}
    (h : IsRecord names written j) :
    ∃ members fields, written members ∧ decoding.fields? names j = some fields ∧
      Reduces names members fields := by
  obtain ⟨members, hlists, honce, hwritten⟩ := h
  refine ⟨members, ?_⟩
  cases hlists with
  | list items h => exact ⟨names.zip items, hwritten, if_pos h, honce, fun _ _ ↦ rfl⟩
  | object =>
    -- the reader refuses an object that names a field twice; members that mean nothing do not count
    have hknown : ((members.filter fun m ↦ names.contains m.1).map (·.1)).Nodup := by
      rw [List.nodup_iff_count_le_one]
      intro name
      by_cases hname : name ∈ names
      · exact ((List.filter_sublist.map _).count_le name).trans (honce name hname)
      · rw [List.count_eq_zero_of_not_mem]
        · exact Nat.zero_le 1
        · simp [hname]
    refine ⟨members.filter fun m ↦ names.contains m.1, hwritten, ?_, honce, fun _ ↦ lookup_filter⟩
    have hmembers := members?_obj members
    rw [decoding_fields?, fields?.eq_def]
    split
    · next heq => cases heq
    · rw [hmembers]
      exact if_pos hknown

namespace Reduces

variable {fields : Fields Json} {writes : α → Json → Prop} {value : Option α} {a : α}

/-- A field is read as the value that is given, and as its default where none is. -/
theorem optional_of_meaning {read : Json → Option β} (meaning : α → β)
    (h : Reduces names members fields) (hname : name ∈ names)
    (hgives : Gives members name writes value)
    (hread : ∀ a j, writes a j → read j = some (meaning a)) (default : β) :
    fields.optional name default read = some ((value.map meaning).getD default) := by
  rw [Fields.optional, h.lookup_eq name hname]
  cases value with
  | none => rw [lookup_eq_none hgives, Option.map_none, Option.getD_none]
  | some a =>
    obtain ⟨j, hj, hwrites⟩ := hgives
    rw [lookup_of_mem hj (h.once name hname)]
    exact hread a j hwrites

/-- The case of a value that is written as it is read. -/
theorem optional {read : Json → Option α} (h : Reduces names members fields) (hname : name ∈ names)
    (hgives : Gives members name writes value) (hread : ∀ a j, writes a j → read j = some a)
    (default : α) :
    fields.optional name default read = some (value.getD default) := by
  rw [h.optional_of_meaning id hname hgives hread, Option.map_id]
  rfl

/-- A field that has to be there is read as the value that is given. -/
theorem required {read : Json → Option α} (h : Reduces names members fields) (hname : name ∈ names)
    (hgives : Gives members name writes (some a)) (hread : ∀ a j, writes a j → read j = some a) :
    fields.required name read = some a := by
  obtain ⟨j, hj, hwrites⟩ := hgives
  rw [Fields.required, h.lookup_eq name hname, lookup_of_mem hj (h.once name hname)]
  exact hread a j hwrites

end Reduces

/-- Each kind of value is read as what it is written for: texts, -/
theorem IsText.read (s : String) (j : Json) (h : IsText s j) : decoding.text? j = some s := by
  rw [h, decoding_text?, text?_str]

/-- words, -/
theorem IsWord.read (n : UInt64) (j : Json) (h : IsWord n j) : decoding.uint64? j = some n := by
  rw [h, decoding_uint64?_word]

/-- numbers of attempts, -/
theorem IsAttempts.read (n : UInt32) (j : Json) (h : IsAttempts n j) :
    decoding.uint32? j = some n := by
  rw [h, decoding_uint32?_nat]

theorem IsFloat.read (x : Float) (j : Json) (h : IsFloat x j) : decoding.float? j = some x := h

/-- policies by their names, -/
theorem IsPolicy.read (p : SelectionPolicy) (j : Json) (h : IsPolicy p j) :
    (decoding.constant? j).bind SelectionPolicy.ofName? = some p := by
  rw [decoding_constant?, h]
  cases p
  rfl

/-- and lists, item by item. -/
theorem IsListOf.read {writes : α → Json → Prop} {read : Json → Option β} (meaning : α → β)
    (hread : ∀ a j, writes a j → read j = some (meaning a)) (l : List α) (j : Json)
    (h : IsListOf writes l j) : decoding.listOf? read j = some (l.map meaning) := by
  obtain ⟨items, rfl, hitems⟩ := h
  have hmap : items.mapM read = some (l.map meaning) := by
    induction hitems with
    | nil => rfl
    | @cons a item l items hitem _ ih =>
      rw [List.mapM_cons, hread a item hitem, ih]
      rfl
  exact hmap

end Json

/-! ### Records -/

/-- A receiver is read from any record that names it and its address. -/
theorem ReceiverConfig.read?_of_written (r : ReceiverConfig) (j : Json)
    (h : IsRecord ["id", "address"] r.WrittenBy j) : read? decoding j = some r := by
  obtain ⟨members, fields, hwritten, hfields, hreduces⟩ := h.exists_fields
  have hid := hreduces.required (by decide) hwritten.id IsText.read
  have haddress := hreduces.required (by decide) hwritten.address IsText.read
  simp only [read?, hfields, hid, haddress, Option.bind_eq_bind, Option.bind_some, Option.pure_def]

/-- A slot that leaves its attempts open has those of the default slots. -/
theorem SlotConfig.Partial.read?_of_written (s : SlotConfig.Partial) (j : Json)
    (h : IsRecord ["id", "address", "max_attempts"] s.WrittenBy j) :
    read? decoding j = some s.complete := by
  obtain ⟨members, fields, hwritten, hfields, hreduces⟩ := h.exists_fields
  have hid := hreduces.required (by decide) hwritten.id IsText.read
  have haddress := hreduces.required (by decide) hwritten.address IsText.read
  have hattempts := hreduces.optional (by decide) hwritten.maxAttempts IsAttempts.read
  simp only [read?, hfields, hid, haddress, hattempts, Option.bind_eq_bind,
    Option.bind_some, Option.pure_def]
  rfl

/-- Each section is read as what it names over the default section: the coordinator's, -/
theorem CoordinatorConfig.Partial.read?_of_written (p : CoordinatorConfig.Partial) (j : Json)
    (h : IsRecord ["strategy"] p.WrittenBy j) : read? decoding j = some (p.onto .default) := by
  obtain ⟨members, fields, hwritten, hfields, hreduces⟩ := h.exists_fields
  have hstrategy := hreduces.optional (by decide) hwritten.strategy IsPolicy.read
  simp only [read?, hfields, hstrategy, Option.bind_eq_bind, Option.bind_some, Option.pure_def,
    onto, default]

/-- the one for replication, -/
theorem ReplicationConfig.Partial.read?_of_written (p : ReplicationConfig.Partial) (j : Json)
    (h : IsRecord fieldNames p.WrittenBy j) : read? decoding j = some (p.onto .default) := by
  obtain ⟨members, fields, hwritten, hfields, hreduces⟩ := h.exists_fields
  have hsync := hreduces.optional (by decide) hwritten.syncInterval IsWord.read
  have hbackup := hreduces.optional (by decide) hwritten.backupInterval IsWord.read
  have hrecovery := hreduces.optional (by decide) hwritten.recoveryInterval IsWord.read
  simp only [read?, hfields, hsync, hbackup, hrecovery, Option.bind_eq_bind,
    Option.bind_some, Option.pure_def]
  rfl

/-- and the one for fault tolerance, with its slots. -/
theorem FaultToleranceConfig.Partial.read?_of_written (p : FaultToleranceConfig.Partial) (j : Json)
    (h : IsRecord fieldNames p.WrittenBy j) : read? decoding j = some (p.onto .default) := by
  obtain ⟨members, fields, hwritten, hfields, hreduces⟩ := h.exists_fields
  have hhealth := hreduces.optional (by decide) hwritten.healthCheckInterval IsWord.read
  have hload := hreduces.optional (by decide) hwritten.loadBalanceInterval IsWord.read
  have hgrace := hreduces.optional (by decide) hwritten.recoveryGrace IsWord.read
  have hfloor := hreduces.optional (by decide) hwritten.minHealthyReceivers IsWord.read
  have hthreshold := hreduces.optional (by decide) hwritten.imbalanceThreshold IsFloat.read
  have hpool := hreduces.optional_of_meaning _ (by decide) hwritten.backupPool
    (IsListOf.read _ SlotConfig.Partial.read?_of_written)
  simp only [read?, hfields, hhealth, hload, hgrace, hfloor, hthreshold, hpool, Option.bind_eq_bind,
    Option.bind_some, Option.pure_def]
  rfl

/-- A record that names settings is read as these over the defaults. -/
theorem Config.Partial.ofJson?_of_written {p : Config.Partial} {j : Json}
    (h : IsRecord fieldNames p.WrittenBy j) : ofJson? j = some (p.onto .default) := by
  obtain ⟨members, fields, hwritten, hfields, hreduces⟩ := h.exists_fields
  have hid := hreduces.optional (by decide) hwritten.nodeId IsText.read
  have hlevel := hreduces.optional (by decide) hwritten.logLevel IsText.read
  have hgrace := hreduces.optional (by decide) hwritten.shutdownGrace IsWord.read
  have hcoordinator := hreduces.optional_of_meaning _ (by decide) hwritten.coordinator
    CoordinatorConfig.Partial.read?_of_written
  have hreplication := hreduces.optional_of_meaning _ (by decide) hwritten.replication
    ReplicationConfig.Partial.read?_of_written
  have hfaultTolerance := hreduces.optional_of_meaning _ (by decide) hwritten.faultTolerance
    FaultToleranceConfig.Partial.read?_of_written
  have hreceivers := hreduces.optional_of_meaning _ (by decide) hwritten.receivers
    (IsListOf.read id ReceiverConfig.read?_of_written)
  -- the defaults of the fields make up the default configuration
  simp only [ofJson?, read?, hfields, hid, hlevel, hgrace, hcoordinator, hreplication,
    hfaultTolerance, hreceivers, List.map_id_fun, Option.map_id_fun, id, Option.bind_eq_bind,
    Option.bind_some, Option.pure_def]
  rfl

end SensorCluster
