import SensorCluster.Proofs.Deliveries
import SensorCluster.Proofs.SyncLoss

/-!
# The counting chain

Four numbers are kept of what receivers have taken in: a receiver has so many records, its vector
has so many marks of receivers, it counts so many messages, and so many were accepted by anybody.
Each of them is at most the next (`counting_chain`). None of the four is a function of another: a
reading may take the place of an earlier one, messages may be no readings or come too late, and what
one receiver counts others may count as well after a copy, or lose.

**The chain holds because it is about one receiver's data at a time**, and data are copied as a
whole. What a message raises, it raises in order: a record more is a mark more, and a mark more is a
message more. The marks of one receiver alone would not do, for the records that were copied from
others are marked there.
-/

namespace SensorCluster

namespace RecordIndex

theorem size_insert_le (i : RecordIndex) (sensor : String) (record : SensorRecord) :
    (⟨i.records.insert sensor record⟩ : RecordIndex).size ≤ i.size + 1 :=
  KeyMap.length_place_le ..

theorem size_remove_le (i : RecordIndex) (sensor : String) : (i.remove sensor).size ≤ i.size :=
  List.length_filter_le ..

end RecordIndex

namespace Replica

variable {ids : Finset String} {log : List Delivery} {r r' : Replica} {m : Message}
  {outcome : ProcessOutcome}

/-- A message makes a record more only when it is stored. -/
theorem recordCount_of_process (h : r.process m = .ok (outcome, r')) :
    r'.recordCount ≤ r.recordCount + outcome.isStored.toNat := by
  rw [recordCount, index_of_process h]
  cases outcome.isStored with
  | true => exact RecordIndex.size_insert_le ..
  | false => exact Nat.le_refl _

/-- Records, marks and messages of the receiver, and the deliveries to anybody, each no more than
the next. -/
structure Chained (ids : Finset String) (log : List Delivery) (r : Replica) : Prop where
  records_le : r.recordCount ≤ r.vector.marks ids
  marks_le : r.vector.marks ids ≤ r.total.toNat
  total_le : r.total.toNat ≤ log.length

/-- A receiver that was not used has nothing to count. -/
theorem IsUnused.chained (h : r.IsUnused) : r.Chained ids log where
  records_le := by
    rw [recordCount, h.index]
    exact Nat.zero_le _
  marks_le := by
    rw [h.vector, VersionVector.marks_empty]
    exact Nat.zero_le _
  total_le := by
    rw [h.total]
    exact Nat.zero_le _

/-- The chain accrues: what is copied takes all its numbers along, and more messages only lengthen
the last one. -/
theorem accrues_chained (ids : Finset String) : Accrues (Chained ids) where
  heritable log :=
    { lifecycle := fun _ _ h ↦ ⟨h.records_le, h.marks_le, h.total_le⟩
      conflict := fun h ↦ ⟨h.records_le, h.marks_le, h.total_le⟩
      restore := fun now h hsource ↦ by
        rw [restore]
        split
        · exact ⟨hsource.records_le, hsource.marks_le, hsource.total_le⟩
        · exact h
      forget := fun {r} sensor h ↦
        ⟨(r.index.size_remove_le sensor).trans h.records_le, h.marks_le, h.total_le⟩ }
  more h extra :=
    { records_le := h.records_le
      marks_le := h.marks_le
      total_le := by
        rw [List.length_append]
        exact h.total_le.trans (Nat.le_add_right ..) }

/-- **One message** raises the numbers of the chain from the right. -/
theorem Chained.process (h : r.Chained ids log) (hid : r.id ∈ ids)
    (hforeign : ∀ id ∈ ids, m.vector.get id = 0) (hfew : log.length + 1 < UInt64.size)
    (hprocess : r.process m = .ok (outcome, r')) (ref : ReplicaRef) :
    r'.Chained ids (log ++ [⟨ref, m⟩]) := by
  obtain ⟨hrecords, hmarks, htotal⟩ := h
  have hrecords' := recordCount_of_process hprocess
  have hmarks' := marks_of_process hid hforeign (by omega) hprocess
  have htotal' : r'.total.toNat = r.total.toNat + 1 := by
    rw [(vector_of_process hprocess).2.1, Counter.toNat_increment (by omega)]
  have hone : outcome.isStored.toNat ≤ 1 := Bool.toNat_le _
  exact
    { records_le := by omega
      marks_le := by omega
      total_le := by
        rw [List.length_append, List.length_singleton]
        omega }

end Replica

namespace Cluster

/-- **The counting chain**, after any history of a new cluster in which receivers begin without
data, messages are only handed over by routes, and snapshots are put back that were taken. When no
accepted message has a counter for a receiver, and the routes fit into a word, each receiver has no
more records than there are marks of all receivers in its vector, no more of these than it counts
messages, and counts no more messages than routes were accepted. -/
theorem counting_chain (config : Config) (sink : SnapshotSink) (provisioner : Provisioner)
    (now : WallTime) (history : List Happening)
    (hintake : (new config sink provisioner now).Intake Replica.IsUnused history)
    (hrouted : ∀ e ∈ history, ∀ ref m, e ≠ .process ref m) :
    let c := new config sink provisioner now
    let c' := c.undergoAll history
    (∀ d ∈ c.deliveries history, ∀ id ∈ c'.fleet.allIds, d.message.vector.get id = 0) →
    (c.answers history).length < UInt64.size →
    ∀ ref,
      (c'.replica ref).recordCount ≤
        ∑ id ∈ c'.fleet.allIds, ((c'.replica ref).vector.get id).toNat ∧
      ∑ id ∈ c'.fleet.allIds, ((c'.replica ref).vector.get id).toNat ≤
        (c'.replica ref).total.toNat ∧
      (c'.replica ref).total.toNat ≤ (c.answers history).countP Except.isOk := by
  intro c c' hforeign hfew ref
  have hdistinct : c.StaysDistinct := new_staysDistinct config sink provisioner now
  have haccepted := hdistinct.length_deliveries hrouted
  have hshort : (c.deliveries history).length < UInt64.size := by
    rw [haccepted]
    exact List.countP_le_length.trans_lt hfew
  have hchained : (c'.replica ref).Chained c'.fleet.allIds (c.deliveries history) := by
    refine each_of_history (Replica.accrues_chained c'.fleet.allIds) hdistinct
      (fun _ hr ↦ hr.chained) (fun _ ↦ (Replica.isUnused_new ..).chained) hintake
      (fun before hbefore target m outcome r hprocess hlog h ↦ ?_) ref
    -- the target is running, so it is there, and it is there to the end
    have hheld : (c.undergoAll before).fleet.Holds target :=
      Fleet.holds_of_isRunning (Replica.process_eq_ok hprocess).1
    have hid : ((c.undergoAll before).replica target).id ∈ c'.fleet.allIds :=
      (hdistinct.grows hbefore).allIds_subset (Fleet.mem_allIds.2 ⟨target, hheld, rfl⟩)
    have hdelivered : ⟨target, m⟩ ∈ c.deliveries history := hlog.subset (by simp)
    refine h.process hid (hforeign _ hdelivered) ?_ hprocess target
    have hlength := hlog.length_le
    rw [List.length_append, List.length_singleton] at hlength
    exact hlength.trans_lt hshort
  rw [← haccepted]
  exact ⟨hchained.records_le, hchained.marks_le, hchained.total_le⟩

/-- A receiver takes a reading and a sign of life, and another one begins with its data. The sensor
is forgotten, the first receiver retired and replaced. -/
def copiedTwice : List Happening :=
  [.request (.operation (.register
      { Replica.new "a" "a:1" with state := .running, inbound := true })) trivial,
    .request (.operation (.route (.data "m" "s" "t" 0.0 7 5) "host" 1)) trivial,
    .request (.operation (.route (.heartbeat "n" "s" "t" 8) "host" 1)) trivial,
    .request (.operation (.register
      { Replica.new "b" "b:1" with state := .running, inbound := true })) trivial,
    .request (.operation (.unregisterSensor "s")) trivial,
    .request (.operation (.retire 0)) trivial,
    .request (.operation (.recoverReceiver "a")) trivial]

/-- The replacement has no record left and counts both messages. The mark of the first receiver,
which it has by two copies, is covered by them. -/
theorem counting_chain_copiedTwice :
    let c := new oneSlot .discard .inMemory default
    let c' := c.undergoAll copiedTwice
    (c'.replica 2).id = "b1" ∧ (c'.replica 2).recordCount = 0 ∧ (c'.replica 2).vector.get "a" = 1 ∧
      ∑ id ∈ c'.fleet.allIds, ((c'.replica 2).vector.get id).toNat ≤ (c'.replica 2).total.toNat ∧
      (c'.replica 2).total.toNat ≤ 2 := by
  intro c c'
  have hquiet : ∀ e ∈ copiedTwice, ∀ ref s, e ≠ .restore ref s := by simp [copiedTwice]
  have hrouted : ∀ e ∈ copiedTwice, ∀ ref m, e ≠ .process ref m := by simp [copiedTwice]
  have hintake : c.Intake Replica.IsUnused copiedTwice :=
    { delivers := new_delivers_inMemory fun _ _ ↦ Replica.isUnused_new ..
      brings := by
        simp [copiedTwice, Happening.Brings, Request.Brings, Replica.isUnused_new]
      authentic := (authentic_nil c).append hquiet }
  obtain ⟨-, hmarks, htotal⟩ := counting_chain oneSlot .discard .inMemory default copiedTwice
    hintake hrouted (by decide +kernel) (by decide +kernel) 2
  have haccepted : (c.answers copiedTwice).countP Except.isOk = 2 := by decide +kernel
  exact ⟨by decide +kernel, by decide +kernel, by decide +kernel, hmarks, htotal.trans_eq haccepted⟩

end Cluster

end SensorCluster
