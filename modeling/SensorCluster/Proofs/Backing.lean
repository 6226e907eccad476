import SensorCluster.Proofs.Deliveries
import SensorCluster.Proofs.RecordOrigin

/-!
# What backs a record

A record and the vector beside it are changed together: by a message, by a restore, by a sync. A
reader of a snapshot relies on the two fitting together, as does a receiver that is restored from
it. **For every record there is an accepted reading that it was taken from and whose vector is
dominated by the vector beside the record** (`records_backed`).

The clock of a record is bounded by that. A reading takes its clock from the counter of its own
sensor, and where it has none, from its largest counter. So the vector has a counter at least as
large somewhere, and it has one for the sensor when the reading had. Of the counter of the sensor
alone the bound is not preserved: what backs the record is the whole vector of the reading, and it
has to be carried along.

## What it rests on

* A deletion takes records away and leaves the vector; a message only raises the vector; all other
  changes copy both. So the property accrues, with the messages that are delivered.
* A restore may well lower the vector. The records that come with it are those that it was taken
  with.
-/

namespace SensorCluster

/-! ### Largest counters -/

namespace VersionVector

variable {a b : VersionVector} {n : UInt64}

/-- A maximum over words is bounded when all of them are. -/
theorem foldl_max_le_iff {l : List UInt64} {start : UInt64} :
    l.foldl max start ≤ n ↔ start ≤ n ∧ ∀ m ∈ l, m ≤ n := by
  induction l generalizing start with
  | nil => simp
  | cons m rest ih =>
    rw [List.foldl_cons, ih, List.forall_mem_cons, ← and_assoc]
    refine and_congr_left fun _ ↦ ?_
    simp only [UInt64.le_iff_toNat_le, UInt64.toNat_max]
    exact Nat.max_le

/-- The largest counter is within a bound when all counters are. -/
theorem maxCounter_le_iff : a.maxCounter ≤ n ↔ ∀ node, a.get node ≤ n := by
  rw [maxCounter, foldl_max_le_iff]
  constructor
  · rintro ⟨-, hvalues⟩ node
    rw [get]
    cases hnode : a.counters.get? node with
    | none => exact UInt64.zero_le
    | some m =>
      have hentry : (node, m) ∈ a.counters.entries := (KeyMap.get?_eq_some_iff ..).1 hnode
      exact hvalues m (List.mem_map_of_mem hentry)
  · refine fun h ↦ ⟨UInt64.zero_le, fun m hm ↦ ?_⟩
    obtain ⟨⟨node, m⟩, hentry, rfl⟩ := List.mem_map.1 hm
    have hget : a.get node = m := by rw [get, (KeyMap.get?_eq_some_iff ..).2 hentry]; rfl
    exact hget ▸ h node

theorem get_le_maxCounter (a : VersionVector) (node : String) : a.get node ≤ a.maxCounter :=
  maxCounter_le_iff.1 (UInt64.le_refl _) node

/-- What is dominated has no larger counter anywhere, so it has no larger one at all. -/
theorem maxCounter_le_of_dominates (h : a.dominates b = true) : b.maxCounter ≤ a.maxCounter :=
  maxCounter_le_iff.2 fun node ↦
    UInt64.le_trans (get_le_of_dominates h node) (get_le_maxCounter a node)

end VersionVector

/-- A message only raises the vector of its receiver, above its own as well. -/
theorem Replica.dominates_of_process {r r' : Replica} {m : Message} {outcome : ProcessOutcome}
    (h : r.process m = .ok (outcome, r')) :
    r'.vector.dominates r.vector = true ∧ r'.vector.dominates m.vector = true := by
  obtain ⟨-, -, hvector⟩ := vector_of_process h
  have hmerged : r'.vector.dominates (r.vector.merge m.vector) = true := by
    rw [hvector]
    refine VersionVector.dominates_iff.2 fun node ↦ ?_
    split
    · exact VersionVector.get_le_get_increment ..
    · exact UInt64.le_refl _
  exact ⟨VersionVector.dominates_trans hmerged (VersionVector.dominates_merge_left ..),
    VersionVector.dominates_trans hmerged (VersionVector.dominates_merge_right ..)⟩

/-! ### Backed records -/

/-- The message is the reading of the sensor that the record was taken from, and the vector has seen
all that it had seen. -/
structure Message.Backs (m : Message) (sensor : String) (record : SensorRecord)
    (v : VersionVector) : Prop where
  kind : m.kind = .data
  sensor_eq : m.sensor = sensor
  record_eq : record = .ofMessage m
  dominated : v.dominates m.vector = true

namespace Message.Backs

variable {m : Message} {sensor : String} {record : SensorRecord} {v v' : VersionVector}

/-- The vector may grow under a record: what backs it backs it still. -/
theorem mono (h : m.Backs sensor record v) (hv : v'.dominates v = true) :
    m.Backs sensor record v' where
  kind := h.kind
  sensor_eq := h.sensor_eq
  record_eq := h.record_eq
  dominated := VersionVector.dominates_trans hv h.dominated

/-- Some counter is at least as large as the clock of the record. -/
theorem clock_le_maxCounter (h : m.Backs sensor record v) : record.clock ≤ v.maxCounter := by
  have hclock : m.clock ≤ m.vector.maxCounter := by
    rw [Message.clock]
    split
    · exact UInt64.le_refl _
    · exact VersionVector.get_le_maxCounter ..
  rw [h.record_eq]
  exact UInt64.le_trans hclock (VersionVector.maxCounter_le_of_dominates h.dominated)

/-- The counter of the sensor is, when the message had one for it. -/
theorem clock_le_get (h : m.Backs sensor record v) (hown : m.vector.get sensor ≠ 0) :
    record.clock ≤ v.get sensor := by
  have hclock : m.clock = m.vector.get sensor := by
    rw [← h.sensor_eq] at hown ⊢
    exact if_neg hown
  rw [h.record_eq, SensorRecord.ofMessage, hclock]
  exact VersionVector.get_le_of_dominates h.dominated sensor

end Message.Backs

/-- Each record of the receiver is backed by one of the messages that were delivered. -/
def Replica.Backed (log : List Delivery) (r : Replica) : Prop :=
  ∀ sensor record, r.index.get? sensor = some record →
    ∃ d ∈ log, d.message.Backs sensor record r.vector

namespace Replica

variable {log : List Delivery} {r r' : Replica} {m : Message} {outcome : ProcessOutcome}

theorem IsBlank.backed (h : r.IsBlank) : r.Backed log := by
  intro sensor record hrecord
  rw [show r.index = .empty from h] at hrecord
  cases hrecord

/-- **To be backed accrues.** A restore brings records together with the vector that they were taken
with, and a deletion only takes records away. -/
theorem accrues_backed : Accrues Backed where
  heritable log :=
    { lifecycle := fun _ _ h ↦ h
      conflict := fun h ↦ h
      restore := fun now h hsource ↦ by
        rw [restore]
        split
        · exact hsource
        · exact h
      forget := fun sensor h other record hrecord ↦ by
        rw [removeRecord] at hrecord ⊢
        have hkept := (KeyMap.get?_erase ..).symm.trans hrecord
        split at hkept
        · cases hkept
        · exact h other record hkept }
  more h extra := by
    intro sensor record hrecord
    obtain ⟨d, hd, hbacks⟩ := h sensor record hrecord
    exact ⟨d, List.mem_append_left _ hd, hbacks⟩

/-- **One message** backs its own record, and goes on backing those that are left. -/
theorem Backed.process (h : r.Backed log) (hprocess : r.process m = .ok (outcome, r'))
    (ref : ReplicaRef) : r'.Backed (log ++ [⟨ref, m⟩]) := by
  obtain ⟨-, -, hindex⟩ := process_eq_ok hprocess
  obtain ⟨hvector, hmessage⟩ := dominates_of_process hprocess
  intro sensor record hrecord
  -- A record that was there is backed as before, for the vector only grew.
  have hold : r.index.get? sensor = some record →
      ∃ d ∈ log ++ [⟨ref, m⟩], d.message.Backs sensor record r'.vector := by
    intro hrecord
    obtain ⟨d, hd, hbacks⟩ := h sensor record hrecord
    exact ⟨d, List.mem_append_left _ hd, hbacks.mono hvector⟩
  rw [hindex] at hrecord
  split at hrecord
  · next hdata =>
    rw [RecordIndex.get?_apply] at hrecord
    split at hrecord
    · next hstored =>
      -- The record is new: the message is its reading, and was merged into the vector.
      refine ⟨⟨ref, m⟩, by simp, ?_⟩
      exact
        { kind := hdata
          sensor_eq := hstored.1.symm
          record_eq := (Option.some.inj hrecord).symm
          dominated := hmessage }
    · exact hold hrecord
  · exact hold hrecord

end Replica

namespace Cluster

/-- **Records are backed.** After any history of a new cluster in which receivers begin without
records and snapshots are put back that were taken, each receiver and each snapshot that is taken of
one has, for every record, an accepted reading that the record was taken from and whose vector is
dominated. Its clock is no larger than the largest counter of the vector, and no larger than the
counter of the sensor if the reading had one. -/
theorem records_backed (config : Config) (sink : SnapshotSink) (provisioner : Provisioner)
    (now : WallTime) (history : List Happening)
    (hintake : (new config sink provisioner now).Intake Replica.IsBlank history) :
    let c := new config sink provisioner now
    let c' := c.undergoAll history
    ∀ ref, (c'.snapshot ref).index = (c'.replica ref).index ∧
      (c'.snapshot ref).vector = (c'.replica ref).vector ∧
      ∀ sensor record, (c'.snapshot ref).index.get? sensor = some record →
        ∃ d ∈ c.deliveries history, d.message.Backs sensor record (c'.snapshot ref).vector ∧
          record.clock ≤ (c'.snapshot ref).vector.maxCounter ∧
          (d.message.vector.get sensor ≠ 0 →
            record.clock ≤ (c'.snapshot ref).vector.get sensor) := by
  intro c c' ref
  have hbacked : (c'.replica ref).Backed (c.deliveries history) :=
    each_of_history Replica.accrues_backed (new_staysDistinct config sink provisioner now)
      (fun _ hr ↦ hr.backed) (fun _ ↦ Replica.IsBlank.backed rfl) hintake
      (fun _ _ ref _ _ _ hprocess _ h ↦ h.process hprocess ref) ref
  refine ⟨rfl, rfl, fun sensor record hrecord ↦ ?_⟩
  obtain ⟨d, hd, hbacks⟩ := hbacked sensor record hrecord
  exact ⟨d, hd, hbacks, hbacks.clock_le_maxCounter, hbacks.clock_le_get⟩

/-- A reading is routed, and then another receiver is created that nobody registers. -/
def beforeRestore : List Happening :=
  [.request (.operation (.register
      { Replica.new "a" "a:1" with state := .running, inbound := true })) trivial,
    .request (.operation (.route (.data "m" "s" "t" 0.0 7 5) "host" 1)) trivial,
    .request (.create (.new "b" "b:1")) trivial]

/-- The receiver that nobody registered is restored from a snapshot that was taken before its
creation. The record that it has then is backed by the reading that was routed to the other one. -/
theorem records_backed_keptSnapshot :
    let c := new .default .discard .inMemory default
    let s := ((c.undergoAll (beforeRestore.take 2)).replica 0).snapshot default
    let c' := c.undergoAll (beforeRestore ++ [.restore 1 s])
    (c'.replica 1).id = "b" ∧ ∃ record, (c'.snapshot 1).index.get? "s" = some record ∧
      ∃ d ∈ c.deliveries (beforeRestore ++ [.restore 1 s]),
        d.message.Backs "s" record (c'.snapshot 1).vector := by
  intro c s c'
  have hquiet : ∀ e ∈ beforeRestore, ∀ ref s, e ≠ .restore ref s := by simp [beforeRestore]
  have hbrings : ∀ e ∈ beforeRestore, e.Brings Replica.IsBlank := by
    simp [beforeRestore, Happening.Brings, Request.Brings, Replica.IsBlank, Replica.new]
  have hintake : c.Intake Replica.IsBlank (beforeRestore ++ [.restore 1 s]) :=
    { delivers := new_delivers_inMemory fun _ _ ↦ rfl
      brings := by
        intro e he
        rcases List.mem_append.1 he with he | he
        · exact hbrings e he
        · rw [List.mem_singleton.1 he]
          trivial
      authentic :=
        ((authentic_nil c).append hquiet).restore ⟨beforeRestore.drop 2, rfl⟩ 1 0 default }
  have hheld : ((c'.snapshot 1).index.get? "s").isSome = true := by decide +kernel
  obtain ⟨record, hrecord⟩ := Option.isSome_iff_exists.1 hheld
  obtain ⟨-, -, hbacked⟩ := records_backed .default .discard .inMemory default _ hintake 1
  obtain ⟨d, hd, hbacks, -⟩ := hbacked "s" record hrecord
  exact ⟨by decide +kernel, record, hrecord, d, hd, hbacks⟩

end Cluster

end SensorCluster
