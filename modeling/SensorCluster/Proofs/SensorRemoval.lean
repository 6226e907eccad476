import SensorCluster.Proofs.Aside

/-!
# Removing a sensor

A sensor can be known in two ways that have nothing to do with each other: it announced itself, or
some registered receiver has a record of it. The removal of a sensor ends both, in the registry and
in every registered receiver, running or not, and **its answer says whether there was anything to
end** (`unregisterSensor_exact`). It touches nothing else: `Forgotten` lists what a cluster keeps.

## What it rests on

* The receivers are gone through one after the other, and what becomes of one does not depend on
  those before it (`replica_removeRecords`), nor on how often it is listed.
* A receiver without a record of the sensor stays exactly as it is. So a second removal finds a
  cluster on which it does nothing (`unregisterSensor_of_not_knows`).
-/

namespace SensorCluster

/-- Nobody is changed by being put in his own place. -/
theorem Fleet.set_get (f : Fleet) (ref : ReplicaRef) : f.set ref (f.get ref) = f := by
  by_cases h : f.Holds ref
  · have hlt : ref < f.replicas.length := h
    rw [set, get, List.getD_eq_getElem?_getD, List.getElem?_eq_getElem hlt, Option.getD_some,
      List.set_getElem_self]
  · exact set_of_not_holds h _

namespace Replica

variable {r : Replica} {sensor : String}

theorem removeRecord_of_none (h : r.index.get? sensor = none) :
    r.removeRecord sensor = (false, r) := by
  have hindex : r.index.remove sensor = r.index :=
    congrArg RecordIndex.mk (KeyMap.erase_of_get?_eq_none h)
  rw [removeRecord, hindex, RecordIndex.contains, KeyMap.contains,
    show r.index.records.get? sensor = none from h]
  rfl

/-- A deletion takes the record of one sensor and leaves all others. -/
theorem get?_removeRecord (r : Replica) (sensor other : String) :
    (r.removeRecord sensor).2.index.get? other = if other = sensor then none
      else r.index.get? other :=
  KeyMap.get?_erase ..

end Replica

namespace Cluster

variable {c c' : Cluster} {ref : ReplicaRef} {sensor other : String}

/-! ### Receivers, one after the other -/

theorem removeRecord_of_none (h : (c.replica ref).index.get? sensor = none) :
    c.removeRecord ref sensor = (false, c) := by
  rw [removeRecord, Replica.removeRecord_of_none h]
  show (false, { c with fleet := c.fleet.set ref (c.fleet.get ref) }) = _
  rw [Fleet.set_get]

/-- The receivers are gone through one by one, and the deletions are counted. -/
theorem removeRecords_cons (c : Cluster) (sensor : String) (removed : Nat) (head : ReplicaRef)
    (rest : List ReplicaRef) :
    c.removeRecords sensor removed (head :: rest) =
      (c.removeRecord head sensor).2.removeRecords sensor
      (removed + (c.removeRecord head sensor).1.toNat) rest := rfl

/-- A deletion changes receivers and nothing else. -/
theorem removeRecords_eq (c : Cluster) (sensor : String) (removed : Nat) (refs : List ReplicaRef) :
    (c.removeRecords sensor removed refs).2 =
      { c with fleet := (c.removeRecords sensor removed refs).2.fleet } := by
  induction refs generalizing c removed with
  | nil => rfl
  | cons head rest ih =>
    rw [removeRecords_cons, ih]
    rfl

/-- **Each receiver by itself**: those that are gone through lose their record, the others are as
before. -/
theorem replica_removeRecords (c : Cluster) (sensor : String) (removed : Nat)
    (refs : List ReplicaRef) (ref : ReplicaRef) :
    (c.removeRecords sensor removed refs).2.replica ref =
      if ref ∈ refs then ((c.replica ref).removeRecord sensor).2 else c.replica ref := by
  induction refs generalizing c removed with
  | nil => rfl
  | cons head rest ih =>
    have hhead : (c.removeRecord head sensor).2.replica ref =
        if ref = head then ((c.replica ref).removeRecord sensor).2 else c.replica ref := by
      by_cases hholds : c.fleet.Holds head
      · refine (Fleet.get_set hholds ref _).trans ?_
        split
        · next heq => rw [heq]; rfl
        · rfl
      · -- nobody is there, so there is no record to delete
        have hblank : c.replica head = default := Fleet.get_of_not_holds hholds
        rw [removeRecord_of_none (by rw [hblank]; rfl)]
        split
        · next heq => rw [heq, hblank]; rfl
        · rfl
    -- A receiver may be listed twice, and the second deletion finds nothing.
    have hagain : ((((c.replica ref).removeRecord sensor).2).removeRecord sensor).2 =
        ((c.replica ref).removeRecord sensor).2 := by
      rw [Replica.removeRecord_of_none (by rw [Replica.get?_removeRecord, if_pos rfl])]
    rw [removeRecords_cons, ih, hhead]
    by_cases heq : ref = head
    · rw [if_pos heq, if_pos (show ref ∈ head :: rest from heq ▸ List.mem_cons_self),
        hagain, ite_self]
    · simp only [heq, List.mem_cons, false_or, if_false]

/-- The count goes up when a record is found. -/
theorem le_fst_removeRecords (c : Cluster) (sensor : String) (removed : Nat)
    (refs : List ReplicaRef) :
    removed ≤ (c.removeRecords sensor removed refs).1 := by
  induction refs generalizing c removed with
  | nil => exact Nat.le_refl _
  | cons head rest ih => exact Nat.le_trans (Nat.le_add_right ..) (ih _ _)

/-- Where nobody has a record, nothing changes and nothing is counted. -/
theorem removeRecords_of_none {removed : Nat} {refs : List ReplicaRef}
    (h : ∀ ref ∈ refs, (c.replica ref).index.get? sensor = none) :
    c.removeRecords sensor removed refs = (removed, c) := by
  induction refs with
  | nil => rfl
  | cons head rest ih =>
    rw [removeRecords_cons, removeRecord_of_none (h head List.mem_cons_self)]
    exact ih fun ref href ↦ h ref (List.mem_cons_of_mem _ href)

/-- Nothing is counted when no receiver has a record, and only then. -/
theorem fst_removeRecords_eq_iff (c : Cluster) (sensor : String) (removed : Nat)
    (refs : List ReplicaRef) :
    (c.removeRecords sensor removed refs).1 = removed ↔
      ∀ ref ∈ refs, (c.replica ref).index.get? sensor = none := by
  refine ⟨fun h ↦ ?_, fun h ↦ by rw [removeRecords_of_none h]⟩
  induction refs with
  | nil => exact fun _ href ↦ absurd href List.not_mem_nil
  | cons head rest ih =>
    have hhead : (c.replica head).index.get? sensor = none := by
      by_contra hsome
      have hfound : (c.removeRecord head sensor).1 = true := Option.isSome_iff_ne_none.2 hsome
      have hle := le_fst_removeRecords (c.removeRecord head sensor).2 sensor (removed + 1) rest
      rw [removeRecords_cons, hfound] at h
      exact absurd (Nat.le_trans hle (Nat.le_of_eq h)) (Nat.not_succ_le_self removed)
    rw [removeRecords_cons, removeRecord_of_none hhead] at h
    exact List.forall_mem_cons.2 ⟨hhead, ih h⟩

/-! ### The whole removal -/

/-- Is anything known of the sensor, in the registry or in a registered receiver? -/
def Knows (c : Cluster) (sensor : String) : Prop :=
  (c.coordinator.sensors.get? sensor).isSome = true ∨
    ∃ ref ∈ c.coordinator.registry, ((c.replica ref).index.get? sensor).isSome = true

/-- Nothing is known of a sensor that did not announce itself and that no registered receiver has
heard of. -/
theorem not_knows_iff : ¬c.Knows sensor ↔ c.coordinator.sensors.get? sensor = none ∧
    ∀ ref ∈ c.coordinator.registry, (c.replica ref).index.get? sensor = none := by
  simp [Knows]

/-- **A removal in one line**: what is known is forgotten and told of, or nothing is known. -/
theorem unregisterSensor_spec (c : Cluster) (sensor : String) :
    (c.Knows sensor ∧ ∃ lines, c.unregisterSensor sensor =
      (true, ((c.withdraw sensor).2.write lines).publish (.sensorUnregistered sensor))) ∨
    (¬c.Knows sensor ∧ c.unregisterSensor sensor = (false, (c.withdraw sensor).2)) := by
  have hcount : (c.withdraw sensor).1 = 0 ↔
      ∀ ref ∈ c.coordinator.registry, (c.replica ref).index.get? sensor = none :=
    fst_removeRecords_eq_iff _ sensor 0 c.coordinator.registry
  have hknows := c.unregisterSensor_cases sensor
  rw [← and_assoc, hcount, ← not_knows_iff, not_not] at hknows
  exact hknows.symm

/-- Where nothing is known, nothing happens. -/
theorem unregisterSensor_of_not_knows (h : ¬c.Knows sensor) :
    c.unregisterSensor sensor = (false, c) := by
  obtain ⟨hsensor, hrecords⟩ := not_knows_iff.1 h
  have hregistry : c.coordinator.sensors.remove sensor = c.coordinator.sensors :=
    congrArg SensorRegistry.mk (KeyMap.erase_of_get?_eq_none hsensor)
  have hsame : (c.withdraw sensor).2 = c := by
    rw [withdraw, modifyCoordinator, hregistry]
    exact congrArg Prod.snd (removeRecords_of_none hrecords)
  rcases c.unregisterSensor_spec sensor with ⟨hknows, -⟩ | ⟨-, heq⟩
  · exact absurd hknows h
  · rw [heq, hsame]

/-- The sensor is gone, and nothing else has changed but what the cluster told and logged. -/
structure Forgotten (c : Cluster) (sensor : String) (c' : Cluster) : Prop where
  unregistered : c'.coordinator.sensors.get? sensor = none
  /-- No registered receiver has a record of it, running or not. -/
  gone : ∀ ref ∈ c'.coordinator.registry, (c'.replica ref).index.get? sensor = none
  sensors : ∀ other, other ≠ sensor →
    c'.coordinator.sensors.get? other = c.coordinator.sensors.get? other
  records : ∀ ref other, other ≠ sensor →
    (c'.replica ref).index.get? other = (c.replica ref).index.get? other
  /-- A receiver keeps all but its records: who it is, its state, its vector and its counts. -/
  replicas : ∀ ref, { c'.replica ref with index := (c.replica ref).index } = c.replica ref
  /-- Who is not registered keeps his records too. -/
  unlisted : ∀ ref, ref ∉ c.coordinator.registry → c'.replica ref = c.replica ref
  /-- The coordinator keeps all but the sensor: its receivers, the global vector and its counts. -/
  coordinator : { c'.coordinator with sensors := c.coordinator.sensors } = c.coordinator
  replication : c'.replication = c.replication
  healing : c'.healing = c.healing
  agenda : c'.agenda = c.agenda

/-- What a removal leaves behind has forgotten the sensor, and nothing else. -/
theorem withdraw_forgotten (c : Cluster) (sensor : String) :
    c.Forgotten sensor (c.withdraw sensor).2 := by
  have hreplica : ∀ ref, (c.withdraw sensor).2.replica ref =
      if ref ∈ c.coordinator.registry then ((c.replica ref).removeRecord sensor).2
          else c.replica ref :=
    replica_removeRecords _ sensor 0 _
  -- The removal changes the fleet and the registry of sensors, and no other field.
  have heq : (c.withdraw sensor).2 = { c with
      fleet := (c.withdraw sensor).2.fleet
      coordinator := { c.coordinator with sensors := c.coordinator.sensors.remove sensor } } :=
    removeRecords_eq _ sensor 0 _
  have hcoordinator : (c.withdraw sensor).2.coordinator =
      { c.coordinator with sensors := c.coordinator.sensors.remove sensor } :=
    congrArg Cluster.coordinator heq
  have hsensors : ∀ other, (c.withdraw sensor).2.coordinator.sensors.get? other =
      if other = sensor then none else c.coordinator.sensors.get? other := by
    intro other
    rw [hcoordinator]
    exact KeyMap.get?_erase ..
  exact {
    unregistered := (hsensors sensor).trans (if_pos rfl)
    gone := by
      intro ref href
      rw [hcoordinator] at href
      rw [hreplica, if_pos href, Replica.get?_removeRecord, if_pos rfl]
    sensors := fun other hne ↦ (hsensors other).trans (if_neg hne)
    records := by
      intro ref other hne
      rw [hreplica]
      split
      · rw [Replica.get?_removeRecord, if_neg hne]
      · rfl
    replicas := by
      intro ref
      rw [hreplica]
      split <;> rfl
    unlisted := fun ref hout ↦ (hreplica ref).trans (if_neg hout)
    coordinator := by rw [hcoordinator]
    replication := by rw [heq]
    healing := by rw [heq]
    agenda := by rw [heq] }

theorem Forgotten.not_knows (h : c.Forgotten sensor c') : ¬c'.Knows sensor :=
  not_knows_iff.2 ⟨h.unregistered, h.gone⟩

/-- **The removal of a sensor does that and nothing else**, in every state of a cluster. The answer
is yes when the sensor was registered or some registered receiver, running or not, had a record of
it. Afterwards it is in neither, and all other sensors, records, vectors and counts are as before
(`Forgotten`). The one event is that of the removal, and there is none when the answer is no. The
same removal straight after answers no and changes nothing. -/
theorem unregisterSensor_exact (c : Cluster) (sensor : String) :
    let answer := (c.unregisterSensor sensor).1
    let c' := (c.unregisterSensor sensor).2
    (answer = true ↔ (c.coordinator.sensors.get? sensor).isSome = true ∨
      ∃ ref ∈ c.coordinator.registry, ((c.replica ref).index.get? sensor).isSome = true) ∧
    c.Forgotten sensor c' ∧
    c'.bus.published.toList =
      c.bus.published.toList ++ (if answer = true then [.sensorUnregistered sensor] else []) ∧
    c'.unregisterSensor sensor = (false, c') := by
  intro answer c'
  have hforgotten := c.withdraw_forgotten sensor
  have hbus : (c.withdraw sensor).2.bus = c.bus := (removeRecords_aside ..).bus
  have hresult : c.unregisterSensor sensor = (answer, c') := rfl
  clear_value answer c'
  rcases c.unregisterSensor_spec sensor with ⟨hknows, lines, heq⟩ | ⟨hunknown, heq⟩ <;>
    obtain ⟨rfl, rfl⟩ := Prod.mk.inj (hresult.symm.trans heq)
  · have htold : c.Forgotten sensor
        (((c.withdraw sensor).2.write lines).publish (.sensorUnregistered sensor)) :=
      { hforgotten with }
    refine ⟨iff_of_true rfl hknows, htold, ?_, unregisterSensor_of_not_knows htold.not_knows⟩
    rw [if_pos rfl, published_publish, ← hbus]
    rfl
  · refine ⟨iff_of_false Bool.false_ne_true hunknown, hforgotten, ?_,
      unregisterSensor_of_not_knows hforgotten.not_knows⟩
    rw [if_neg Bool.false_ne_true, hbus, List.append_nil]

end Cluster

end SensorCluster
