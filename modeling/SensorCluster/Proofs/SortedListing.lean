import SensorCluster.Proofs.Bench
import SensorCluster.Proofs.ByteOrder

/-!
# The listing of an index

An index holds its records under the ids of sensors, and each record names a sensor itself.
Receivers are compared by the listings of their records, which is in the order of the sensors that
the records name. **The listing is as good as the index** (`sortedRecords_exact`): it has each
record once and in strict order, every look-up can be read off it, and two indexes with one listing
can never be told apart.

## What it rests on

* A record is stored under the sensor that it names (`Keyed`). A candidate brings its own key, a
  removal changes no record, and a restore takes all records with their keys, so every index that
  comes about has this (`Reachable.keyed`). Then the order of the keys is the order of the listing.
* Sensors are compared by their bytes, which is the order of their characters (`Text.bytes_lt_iff`).
* With its keys in the records, the listing gives back the entries of the index
  (`eq_of_sortedRecords_eq`).
-/

namespace SensorCluster

namespace RecordIndex

variable {i j : RecordIndex}

/-! ### Indexes that come about -/

/-- An index that comes about: by offering candidates and by removals, and by the backup of one
receiver that another one is restored from. -/
inductive Reachable : RecordIndex → Prop
  | empty : Reachable .empty
  | apply {i : RecordIndex} (h : Reachable i) (candidate : SensorRecord) :
      Reachable (i.apply candidate).2
  | remove {i : RecordIndex} (h : Reachable i) (sensor : String) : Reachable (i.remove sensor)
  | restore {r source : Replica} (h : Reachable r.index) (hsource : Reachable source.index)
      (now : WallTime) : Reachable (r.restore (source.snapshot now)).2.index

/-- Every record is stored under the sensor that it names. -/
def Keyed (i : RecordIndex) : Prop := ∀ sensor r, i.get? sensor = some r → r.sensor = sensor

/-- An empty index is keyed, -/
theorem keyed_empty : Keyed .empty := fun _ _ h ↦ by cases h

/-- it stays so when a candidate is offered, who brings the key that he is stored under, -/
theorem Keyed.apply (h : i.Keyed) (candidate : SensorRecord) : (i.apply candidate).2.Keyed := by
  intro sensor r hr
  rw [get?_apply] at hr
  split at hr
  · next hown =>
    obtain rfl := Option.some.inj hr
    exact hown.1.symm
  · exact h sensor r hr

/-- when a record is removed, -/
theorem Keyed.remove (h : i.Keyed) (sensor : String) : (i.remove sensor).Keyed := by
  intro other r hr
  have herased : (i.records.erase sensor).get? other = some r := hr
  rw [KeyMap.get?_erase] at herased
  split at herased
  · cases herased
  · exact h other r herased

/-- and when all records are taken over from another index. -/
theorem Keyed.restore {r source : Replica} (h : r.index.Keyed) (hsource : source.index.Keyed)
    (now : WallTime) : (r.restore (source.snapshot now)).2.index.Keyed := by
  rw [Replica.restore]
  split
  · exact hsource
  · exact h

/-- **Every index that comes about is keyed.** -/
theorem Reachable.keyed (h : i.Reachable) : i.Keyed := by
  induction h with
  | empty => exact keyed_empty
  | apply _ candidate ih => exact ih.apply candidate
  | remove _ sensor ih => exact ih.remove sensor
  | restore _ _ now ih ihsource => exact ih.restore ihsource now

/-! ### The listing -/

/-- The listing has exactly the stored records. -/
theorem mem_sortedRecords {r : SensorRecord} :
    r ∈ i.sortedRecords ↔ ∃ sensor, i.get? sensor = some r := by
  rw [sortedRecords, KeyMap.values, List.mem_map]
  constructor
  · rintro ⟨⟨sensor, r⟩, hmem, rfl⟩
    exact ⟨sensor, (i.records.get?_eq_some_iff sensor r).2 hmem⟩
  · rintro ⟨sensor, hget⟩
    exact ⟨(sensor, r), (i.records.get?_eq_some_iff sensor r).1 hget, rfl⟩

/-- The entries of an index can be read off its records. -/
theorem Keyed.entries_eq (h : i.Keyed) :
    i.records.entries = i.sortedRecords.map fun r ↦ (r.sensor, r) := by
  have hself : ∀ e ∈ i.records.entries, (e.2.sensor, e.2) = e := by
    rintro ⟨sensor, r⟩ he
    rw [h sensor r ((i.records.get?_eq_some_iff sensor r).2 he)]
  rw [sortedRecords, KeyMap.values, List.map_map]
  exact ((List.map_congr_left hself).trans (List.map_id _)).symm

/-- The record of a sensor is the one that is listed for it. -/
theorem Keyed.get?_eq_some_iff (h : i.Keyed) {sensor : String} {r : SensorRecord} :
    i.get? sensor = some r ↔ r ∈ i.sortedRecords ∧ r.sensor = sensor := by
  rw [mem_sortedRecords]
  constructor
  · intro hget
    exact ⟨⟨sensor, hget⟩, h sensor r hget⟩
  · rintro ⟨⟨other, hget⟩, rfl⟩
    rwa [h other r hget]

/-- The records are in the order of the sensors that they name. -/
theorem Keyed.sortedRecords_pairwise (h : i.Keyed) :
    i.sortedRecords.Pairwise fun a b ↦ a.sensor < b.sensor := by
  have hordered := i.records.ordered
  rw [h.entries_eq, List.pairwise_map] at hordered
  exact hordered

/-- A listed record is known by its sensor. -/
theorem Keyed.eq_of_sensor_eq (h : i.Keyed) {a b : SensorRecord} (ha : a ∈ i.sortedRecords)
    (hb : b ∈ i.sortedRecords) (heq : a.sensor = b.sensor) : a = b := by
  have hget : i.get? b.sensor = some a := h.get?_eq_some_iff.2 ⟨ha, heq⟩
  rw [h.get?_eq_some_iff.2 ⟨hb, rfl⟩] at hget
  exact (Option.some.inj hget).symm

/-- Is a record to be listed no later than another one? -/
def listedBefore (a b : SensorRecord) : Bool := decide (Text.bytes a.sensor ≤ Text.bytes b.sensor)

/-- **Sorting the records**, in whatever order they come, gives the listing. -/
theorem Keyed.mergeSort_eq (h : i.Keyed) {records : List SensorRecord}
    (hrecords : records.Perm i.sortedRecords) :
    records.mergeSort listedBefore = i.sortedRecords := by
  have hlisted : i.sortedRecords.Pairwise fun a b ↦ listedBefore a b = true :=
    h.sortedRecords_pairwise.imp fun hlt ↦
      decide_eq_true (List.le_of_lt (Text.bytes_lt_iff.2 hlt))
  have hsorted : (records.mergeSort listedBefore).Pairwise fun a b ↦ listedBefore a b = true := by
    refine List.pairwise_mergeSort (fun a b c hab hbc ↦ ?_) (fun a b ↦ ?_) records
    · exact decide_eq_true (List.le_trans (of_decide_eq_true hab) (of_decide_eq_true hbc))
    · rw [Bool.or_eq_true, listedBefore, listedBefore, decide_eq_true_iff, decide_eq_true_iff]
      exact List.le_total _ _
  have hperm : (records.mergeSort listedBefore).Perm i.sortedRecords :=
    (List.mergeSort_perm records listedBefore).trans hrecords
  refine hperm.eq_of_pairwise (fun a b ha hb hab hba ↦ ?_) hsorted hlisted
  -- neither sensor is before the other, so they are the same, and so are the records
  have hnotlt : ¬b.sensor < a.sensor :=
    fun hlt ↦ of_decide_eq_true hab (Text.bytes_lt_iff.2 hlt)
  have hnotgt : ¬a.sensor < b.sensor :=
    fun hlt ↦ of_decide_eq_true hba (Text.bytes_lt_iff.2 hlt)
  exact h.eq_of_sensor_eq (hperm.mem_iff.1 ha) hb
    (String.le_antisymm (String.not_lt.1 hnotlt) (String.not_lt.1 hnotgt))

/-- Two indexes with one listing are one. -/
theorem eq_of_sortedRecords_eq (hi : i.Keyed) (hj : j.Keyed)
    (h : i.sortedRecords = j.sortedRecords) :
    i = j := by
  obtain ⟨⟨entries, hentries⟩⟩ := i
  obtain ⟨⟨entries', hentries'⟩⟩ := j
  have heq : entries = entries' := by
    have hi' := hi.entries_eq
    have hj' := hj.entries_eq
    rw [h] at hi'
    exact hi'.trans hj'.symm
  subst heq
  rfl

/-! ### Answers -/

/-- A call that changes an index. -/
inductive Request
  | apply (candidate : SensorRecord)
  | remove (sensor : String)

/-- What a call answers: what became of the candidate, or the record that was removed. -/
inductive Answer
  | applied (resolution : Resolution)
  | removed (record : Option SensorRecord)

/-- The answer to a call, and the index after it. -/
def answer (i : RecordIndex) : Request → Answer × RecordIndex
  | .apply candidate => (.applied (i.apply candidate).1, (i.apply candidate).2)
  | .remove sensor => (.removed (i.get? sensor), i.remove sensor)

/-- The answers to several calls, one after the other. -/
def answers (i : RecordIndex) : List Request → List Answer
  | [] => []
  | request :: rest => (i.answer request).1 :: (i.answer request).2.answers rest

/-- **The listing is as good as the index.** Every record is stored under the sensor that it names.
The listing is strictly increasing by the bytes of the sensors; it is what sorting the stored
records gives, in whatever order they come; and it has exactly the stored records, each once. The
record of a sensor is the one listed for it. Two indexes with one listing give the same answers, to
look-ups and to all later calls. -/
theorem sortedRecords_exact (h : i.Reachable) :
    (∀ sensor r, i.get? sensor = some r → r.sensor = sensor) ∧
    (i.sortedRecords.Pairwise fun a b ↦ Text.bytes a.sensor < Text.bytes b.sensor) ∧
    (∀ records : List SensorRecord, records.Perm (i.records.entries.map (·.2)) →
      records.mergeSort listedBefore = i.sortedRecords) ∧
    (∀ r, r ∈ i.sortedRecords ↔ ∃ sensor, i.get? sensor = some r) ∧
    i.sortedRecords.Nodup ∧ i.sortedRecords.length = i.size ∧
    (∀ sensor r, i.get? sensor = some r ↔ r ∈ i.sortedRecords ∧ r.sensor = sensor) ∧
    ∀ j : RecordIndex, j.Reachable → i.sortedRecords = j.sortedRecords →
      (∀ sensor, i.get? sensor = j.get? sensor ∧ i.contains sensor = j.contains sensor) ∧
      ∀ requests, i.answers requests = j.answers requests := by
  have hkeyed := h.keyed
  have hstrict := hkeyed.sortedRecords_pairwise
  refine ⟨hkeyed, hstrict.imp Text.bytes_lt_iff.2,
    fun records hrecords ↦ hkeyed.mergeSort_eq hrecords, fun r ↦ mem_sortedRecords, ?_,
    List.length_map _, fun sensor r ↦ hkeyed.get?_eq_some_iff, ?_⟩
  · refine hstrict.imp fun hlt heq ↦ ?_
    rw [heq] at hlt
    exact String.lt_irrefl _ hlt
  · intro j hj heq
    obtain rfl := eq_of_sortedRecords_eq hkeyed hj.keyed heq
    exact ⟨fun sensor ↦ ⟨rfl, rfl⟩, fun requests ↦ rfl⟩

/-- A reading of a sensor. -/
def reading (sensor : String) (timestamp : UInt64) : SensorRecord :=
  ⟨sensor, 0.0, "t", timestamp, 1⟩

/-- The index that took one reading after the other. -/
def taking (readings : List SensorRecord) : RecordIndex :=
  readings.foldl (fun i r ↦ (i.apply r).2) .empty

/-- Readings make up an index that comes about. -/
theorem reachable_taking (readings : List SensorRecord) : (taking readings).Reachable := by
  have hfold : ∀ (l : List SensorRecord) (i : RecordIndex), i.Reachable →
      (l.foldl (fun i r ↦ (i.apply r).2) i).Reachable := by
    intro l
    induction l with
    | nil => exact fun _ h ↦ h
    | cons r rest ih => exact fun _ h ↦ ih _ (h.apply r)
  exact hfold readings .empty .empty

/-- A receiver that took readings of three sensors, one of them three times and the last of these
too late. -/
def giver : Replica :=
  { Replica.new "a" "" with
    index := taking [reading "z" 1, reading "é" 5, reading "b" 2, reading "z" 3, reading "z" 2]
    total := 5 }

/-- The index of a receiver that was restored from the giver and then deleted one record. -/
def given : RecordIndex :=
  ((Replica.new "b" "").restore (giver.snapshot default)).2.index.remove "b"

/-- An index that came to its records in another way has the same listing, in which the letter with
an accent is behind the last one without, and answers alike. -/
theorem sortedRecords_exact_given :
    given.Reachable ∧ (taking [reading "é" 5, reading "z" 3]).Reachable ∧
      given.sortedRecords = [reading "z" 3, reading "é" 5] ∧
      given.sortedRecords = (taking [reading "é" 5, reading "z" 3]).sortedRecords ∧
      given.get? "é" = some (reading "é" 5) ∧
      given.answers [.apply (reading "z" 3), .remove "é", .remove "é"] =
        (taking [reading "é" 5, reading "z" 3]).answers
          [.apply (reading "z" 3), .remove "é", .remove "é"] := by
  have hgiven : given.Reachable :=
    .remove (.restore (r := .new "b" "") .empty (reachable_taking _) default) "b"
  have hother := reachable_taking [reading "é" 5, reading "z" 3]
  have hlisting : given.sortedRecords = [reading "z" 3, reading "é" 5] := by
    with_unfolding_all rfl
  have hsame : given.sortedRecords = (taking [reading "é" 5, reading "z" 3]).sortedRecords := by
    with_unfolding_all rfl
  obtain ⟨-, -, -, -, -, -, hget, halike⟩ := sortedRecords_exact hgiven
  refine ⟨hgiven, hother, hlisting, hsame, (hget _ _).2 ⟨?_, rfl⟩, (halike _ hother hsame).2 _⟩
  rw [hlisting]
  exact List.mem_cons_of_mem _ List.mem_cons_self

end RecordIndex

/-! ### Indexes of receivers -/

namespace Bench

variable {b : Bench}

/-- Nothing that a receiver hands on, or does besides taking messages, leads to another index. -/
theorem heritable_reachable : Replica.Heritable fun r ↦ r.index.Reachable where
  lifecycle _ _ h := h
  conflict h := h
  restore now h hsource := h.restore hsource now
  forget sensor h := h.remove sensor

/-- **One call** leaves every receiver with an index that comes about, and every snapshot too. -/
theorem reachable_step (h : b.Each fun r ↦ r.index.Reachable) (call : Call) :
    (b.step call).Each fun r ↦ r.index.Reachable := by
  refine h.step heritable_reachable (fun _ _ ↦ .empty) fun ref m outcome r _ hprocess ↦ ?_
  rw [(Replica.process_eq_ok hprocess).2.2]
  have hheld := h.held ref
  split
  · exact hheld.apply (.ofMessage m)
  · exact hheld

/-- **All indexes come about**: those of the receivers on a bench, whatever was called, and those of
the snapshots on its shelf. -/
theorem reachable_run (config : Config) (sink : SnapshotSink) (provisioner : Provisioner)
    (now : WallTime) (calls : List Call) :
    let b := (new config sink provisioner now).run calls
    (∀ ref, (b.cluster.replica ref).index.Reachable) ∧ ∀ s ∈ b.shelf, s.index.Reachable := by
  have hrun : ∀ (calls : List Call) (b : Bench), (b.Each fun r ↦ r.index.Reachable) →
      (b.run calls).Each fun r ↦ r.index.Reachable := by
    intro calls
    induction calls with
    | nil => exact fun _ h ↦ h
    | cons call rest ih => exact fun b h ↦ ih _ (reachable_step h call)
  have hall := hrun calls (new config sink provisioner now) (.new fun _ _ ↦ .empty)
  refine ⟨hall.held, fun s hs ↦ ?_⟩
  obtain ⟨source, time, hsource, rfl⟩ := hall.kept s hs
  exact hsource

end Bench

end SensorCluster
