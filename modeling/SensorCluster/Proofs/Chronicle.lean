import SensorCluster.BackupPool
import SensorCluster.Counter
import SensorCluster.Event
import Mathlib.Data.List.Nodup
import Mathlib.Logic.Relation

/-!
# What the events tell

Whoever keeps the events of a cluster can build its registries again without asking the cluster.
This module says how, and what has to hold for it: `Event.replayReceivers` and `Event.replaySensors`
read the events one after the other, and a `Chronicle` is what they are to come to, the registered
receivers, the known sensors and the counts of messages, together with the events so far.

**Everything that is told is entered.** `Chronicle.enter` says for each kind of event what changes
when it is told of, and `Admits` when it may be: nobody is registered twice, and nobody is
unregistered who is not registered. A chronicle that grows by such entries stays `Faithful`, which
is all that a reader of the events relies on. That the operations of a cluster make no other entries
is the business of another module.

The backup pool is part of the chronicle, since receivers come from there, but what becomes of its
slots is told only in part, so it has steps of its own.
-/

namespace SensorCluster

namespace Event

/-! ### Reading the events -/

/-- The registered receivers after an event: a registration adds the id at the end, an
unregistration takes it out. -/
def receiversAfter (ids : List String) : Event → List String
  | receiverRegistered receiver _ => ids ++ [receiver]
  | receiverUnregistered receiver => ids.erase receiver
  | _ => ids

/-- The registered receivers, read off the events. -/
def replayReceivers (events : List Event) : List String := events.foldl receiversAfter []

/-- The registered sensors after an event. -/
def sensorsAfter (ids : List String) : Event → List String
  | sensorRegistered info => ids ++ [info.sensor]
  | sensorUnregistered sensor => ids.erase sensor
  | _ => ids

/-- The registered sensors, read off the events. -/
def replaySensors (events : List Event) : List String := events.foldl sensorsAfter []

/-- Does the event register the receiver of an id, or unregister it? Nothing for all other
events. -/
def membership? (id : String) : Event → Option Bool
  | receiverRegistered receiver _ => if receiver = id then some true else none
  | receiverUnregistered receiver => if receiver = id then some false else none
  | _ => none

/-- Did a message find its receiver? -/
def isRouted : Event → Bool
  | messageRouted _ _ _ => true
  | _ => false

/-- Did a message find no receiver? -/
def isUnrouted : Event → Bool
  | routingFailed _ _ _ => true
  | _ => false

/-- Registrations and unregistrations alternate, and the first one is a registration. -/
def Alternate (memberships : List Bool) : Prop :=
  ∀ i b, memberships[i]? = some b → b = decide (i % 2 = 0)

theorem Alternate.concat {memberships : List Bool} {b : Bool} (h : Alternate memberships)
    (hb : b = decide (memberships.length % 2 = 0)) : Alternate (memberships ++ [b]) := by
  intro i b' hi
  rcases Nat.lt_trichotomy i memberships.length with hlt | rfl | hgt
  · rw [List.getElem?_append_left hlt] at hi
    exact h i b' hi
  · rw [List.getElem?_concat_length] at hi
    rw [← Option.some.inj hi, hb]
  · have hend : (memberships ++ [b]).length ≤ i := by
      rw [List.length_append]
      exact hgt
    rw [List.getElem?_eq_none hend] at hi
    cases hi

end Event

/-- What the events of a cluster tell of, beside the events. -/
structure Chronicle where
  /-- The ids of the registered receivers, in registration order. -/
  receivers : List String
  /-- Is the sensor of an id registered? -/
  knows : String → Bool
  totalMessages : Counter
  failedRoutes : Counter
  /-- All events so far, oldest first. -/
  events : List Event
  provisioner : Provisioner
  slots : List BackupSlot
  /-- The slots that the provisioner was asked about, oldest first. -/
  asked : List String

namespace Chronicle

/-! ### Entries -/

/-- The chronicle with one more event. -/
def tell (k : Chronicle) (e : Event) : Chronicle := { k with events := k.events ++ [e] }

/-- The chronicle with one more message counted. -/
def count (k : Chronicle) : Chronicle := { k with totalMessages := k.totalMessages.increment }

/-- The chronicle with one more message counted, and counted as a failure. -/
def countFailed (k : Chronicle) : Chronicle :=
  { k.count with failedRoutes := k.failedRoutes.increment }

/-- The chronicle with one more event, and with what that event tells of. -/
def enter (k : Chronicle) (e : Event) : Chronicle :=
  match e with
  | .receiverRegistered receiver _ => { k.tell e with receivers := k.receivers ++ [receiver] }
  | .receiverUnregistered receiver => { k.tell e with receivers := k.receivers.erase receiver }
  | .sensorRegistered info => { k.tell e with knows := fun s ↦ s = info.sensor || k.knows s }
  | .sensorUnregistered sensor => { k.tell e with knows := fun s ↦ s ≠ sensor && k.knows s }
  | .messageRouted _ _ _ => k.count.tell e
  | .routingFailed _ _ _ => k.countFailed.tell e
  | _ => k.tell e

/-- May the event be told of? -/
def Admits (k : Chronicle) : Event → Prop
  | .receiverRegistered receiver _ => receiver ∉ k.receivers
  | .receiverUnregistered receiver => receiver ∈ k.receivers
  | .sensorRegistered info => k.knows info.sensor = false
  | _ => True

/-- Goes through the backup pool once. -/
def tryPool (k : Chronicle) : Chronicle :=
  let pass := BackupPool.tryEach k.provisioner k.asked none k.slots
  { k with slots := pass.slots, asked := k.asked ++ pass.asked }

/-- Gives back the slot in use by the receiver of an id. -/
def release (k : Chronicle) (id : String) : Chronicle :=
  { k with slots := (BackupPool.release id k.slots).1 }

/-- One step of a chronicle. -/
inductive Entry : Chronicle → Chronicle → Prop
  | enter {k : Chronicle} {e : Event} (h : k.Admits e) : Entry k (k.enter e)
  | tryPool (k : Chronicle) : Entry k k.tryPool
  | release (k : Chronicle) (id : String) : Entry k (k.release id)

/-- Steps of a chronicle, one after the other. -/
abbrev Entries : Chronicle → Chronicle → Prop := Relation.ReflTransGen Entry

variable {k k' : Chronicle}

theorem events_enter (k : Chronicle) (e : Event) : (k.enter e).events = k.events ++ [e] := by
  cases e <;> rfl

/-! ### What a reader relies on -/

/-- Read one after the other, the events come to what they tell of. -/
structure Faithful (k : Chronicle) : Prop where
  receivers : Event.replayReceivers k.events = k.receivers
  distinct : k.receivers.Nodup
  alternate : ∀ id, Event.Alternate (k.events.filterMap (Event.membership? id))
  /-- The receiver is registered after an odd number of its events. -/
  odd_iff : ∀ id, (k.events.filterMap (Event.membership? id)).length % 2 = 1 ↔ id ∈ k.receivers
  sensors : (Event.replaySensors k.events).Nodup
  mem_sensors : ∀ sensor, sensor ∈ Event.replaySensors k.events ↔ k.knows sensor = true
  total : k.totalMessages =
    UInt64.ofNat (k.events.countP Event.isRouted + k.events.countP Event.isUnrouted)
  failed : k.failedRoutes = UInt64.ofNat (k.events.countP Event.isUnrouted)

/-- One event changes the receivers as its reader does. -/
theorem receivers_enter (k : Chronicle) (e : Event) :
    (k.enter e).receivers = Event.receiversAfter k.receivers e := by
  cases e <;> rfl

theorem distinct_enter (h : k.receivers.Nodup) {e : Event} (hadmits : k.Admits e) :
    (k.enter e).receivers.Nodup := by
  cases e with
  | receiverRegistered receiver address =>
    show (k.receivers ++ [receiver]).Nodup
    rw [← List.concat_eq_append]
    exact List.Nodup.concat hadmits h
  | receiverUnregistered receiver => exact h.erase receiver
  | _ => exact h

/-- What an event says of the receiver of an id is news, and it changes whether it is registered. -/
theorem membership_enter (h : k.receivers.Nodup) {e : Event} (hadmits : k.Admits e) (id : String) :
    (Event.membership? id e = none ∧ (id ∈ (k.enter e).receivers ↔ id ∈ k.receivers)) ∨
      ∃ b, Event.membership? id e = some b ∧ (id ∈ k.receivers ↔ b = false) ∧
        (id ∈ (k.enter e).receivers ↔ b = true) := by
  cases e with
  | receiverRegistered receiver address =>
    have hmem : id ∈ (k.enter (.receiverRegistered receiver address)).receivers ↔
        id ∈ k.receivers ∨ id = receiver := by
      show id ∈ k.receivers ++ [receiver] ↔ _
      rw [List.mem_append, List.mem_singleton]
    rw [hmem]
    by_cases hid : receiver = id
    · subst hid
      have hnew : receiver ∉ k.receivers := hadmits
      exact .inr ⟨true, if_pos rfl, by simp [hnew], by simp⟩
    · exact .inl ⟨if_neg hid, by simp [Ne.symm hid]⟩
  | receiverUnregistered receiver =>
    have hmem : id ∈ (k.enter (.receiverUnregistered receiver)).receivers ↔
        id ≠ receiver ∧ id ∈ k.receivers := h.mem_erase_iff
    rw [hmem]
    by_cases hid : receiver = id
    · subst hid
      have hold : receiver ∈ k.receivers := hadmits
      exact .inr ⟨false, if_pos rfl, by simp [hold], by simp⟩
    · exact .inl ⟨if_neg hid, by simp [Ne.symm hid]⟩
  | _ => exact .inl ⟨rfl, Iff.rfl⟩

/-- **The events of a receiver go on alternating.** -/
theorem alternate_enter {id : String}
    (h : Event.Alternate (k.events.filterMap (Event.membership? id)))
    (hodd : (k.events.filterMap (Event.membership? id)).length % 2 = 1 ↔ id ∈ k.receivers)
    (hdistinct : k.receivers.Nodup) {e : Event} (hadmits : k.Admits e) :
    Event.Alternate ((k.enter e).events.filterMap (Event.membership? id)) ∧
      (((k.enter e).events.filterMap (Event.membership? id)).length % 2 = 1 ↔
        id ∈ (k.enter e).receivers) := by
  rw [events_enter, List.filterMap_append]
  set before := k.events.filterMap (Event.membership? id)
  rcases membership_enter hdistinct hadmits id with ⟨hnone, hmem⟩ | ⟨b, hsome, hold, hnew⟩
  · rw [List.filterMap_cons_none hnone, List.filterMap_nil, List.append_nil, hmem]
    exact ⟨h, hodd⟩
  · rw [List.filterMap_cons_some hsome, List.filterMap_nil, hnew, List.length_append,
      List.length_singleton]
    -- the number of the events so far says whether this one registers
    have hparity : before.length % 2 = 1 ↔ b = false := hodd.trans hold
    cases b with
    | false =>
      have hone : before.length % 2 = 1 := hparity.2 rfl
      refine ⟨h.concat (by simp [hone]), ?_⟩
      simp only [Bool.false_eq_true, iff_false]
      omega
    | true =>
      have hzero : before.length % 2 = 0 := by
        have hone : ¬before.length % 2 = 1 := fun hone ↦ Bool.noConfusion (hparity.1 hone)
        omega
      refine ⟨h.concat (by simp [hzero]), ?_⟩
      simp only [iff_true]
      omega

/-- The known sensors go on being those that a reader has. -/
theorem sensors_enter (h : (Event.replaySensors k.events).Nodup)
    (hmem : ∀ sensor, sensor ∈ Event.replaySensors k.events ↔ k.knows sensor = true) {e : Event}
    (hadmits : k.Admits e) :
    (Event.replaySensors (k.enter e).events).Nodup ∧
      ∀ sensor, sensor ∈ Event.replaySensors (k.enter e).events ↔
        (k.enter e).knows sensor = true := by
  have hreplay : Event.replaySensors (k.enter e).events =
      Event.sensorsAfter (Event.replaySensors k.events) e := by
    rw [events_enter, Event.replaySensors, List.foldl_append]
    rfl
  rw [hreplay]
  cases e with
  | sensorRegistered info =>
    have hnew : info.sensor ∉ Event.replaySensors k.events := by
      rw [hmem, show k.knows info.sensor = false from hadmits]
      exact Bool.false_ne_true
    refine ⟨?_, fun sensor ↦ ?_⟩
    · show (Event.replaySensors k.events ++ [info.sensor]).Nodup
      rw [← List.concat_eq_append]
      exact List.Nodup.concat hnew h
    · show sensor ∈ Event.replaySensors k.events ++ [info.sensor] ↔
        (sensor = info.sensor || k.knows sensor) = true
      simp [hmem, or_comm]
  | sensorUnregistered other =>
    refine ⟨h.erase other, fun sensor ↦ ?_⟩
    show sensor ∈ (Event.replaySensors k.events).erase other ↔
      (decide (sensor ≠ other) && k.knows sensor) = true
    simp [h.mem_erase_iff, hmem]
  | _ => exact ⟨h, hmem⟩

/-- Each message is told of once. -/
theorem counts_enter
    (htotal : k.totalMessages =
      UInt64.ofNat (k.events.countP Event.isRouted + k.events.countP Event.isUnrouted))
    (hfailed : k.failedRoutes = UInt64.ofNat (k.events.countP Event.isUnrouted)) (e : Event) :
    (k.enter e).totalMessages = UInt64.ofNat ((k.enter e).events.countP Event.isRouted +
        (k.enter e).events.countP Event.isUnrouted) ∧
      (k.enter e).failedRoutes = UInt64.ofNat ((k.enter e).events.countP Event.isUnrouted) := by
  have hone : ∀ {counter : Counter} {n : Nat}, counter = UInt64.ofNat n →
      counter.increment = UInt64.ofNat (n + 1) := by
    rintro _ n rfl
    rw [Counter.increment_eq, UInt64.ofNat_add]
    rfl
  rw [events_enter, List.countP_append, List.countP_append]
  cases e with
  | messageRouted message sensor receiver =>
    refine ⟨(hone htotal).trans (congrArg UInt64.ofNat ?_), hfailed⟩
    show _ = _ + 1 + (_ + 0)
    omega
  | routingFailed message sensor reason =>
    exact ⟨(hone htotal).trans (congrArg UInt64.ofNat (by rfl)), hone hfailed⟩
  | _ => exact ⟨htotal, hfailed⟩

/-- **One entry** keeps a chronicle faithful. -/
theorem Faithful.entry (h : k.Faithful) (hentry : Entry k k') : k'.Faithful := by
  cases hentry with
  | @enter e hadmits =>
    have halternate := fun id ↦
      alternate_enter (h.alternate id) (h.odd_iff id) h.distinct hadmits
    obtain ⟨hsensors, hmem⟩ := sensors_enter h.sensors h.mem_sensors hadmits
    obtain ⟨htotal, hfailed⟩ := counts_enter h.total h.failed e
    refine ⟨?_, distinct_enter h.distinct hadmits, fun id ↦ (halternate id).1,
      fun id ↦ (halternate id).2, hsensors, hmem, htotal, hfailed⟩
    rw [events_enter, Event.replayReceivers, List.foldl_append, receivers_enter, ← h.receivers]
    rfl
  | tryPool | release => exact ⟨h.receivers, h.distinct, h.alternate, h.odd_iff, h.sensors,
      h.mem_sensors, h.total, h.failed⟩

theorem Faithful.entries (h : k.Faithful) (hentries : Entries k k') : k'.Faithful := by
  induction hentries with
  | refl => exact h
  | tail _ hentry ih => exact ih.entry hentry

end Chronicle

end SensorCluster
