import SensorCluster.Proofs.Membership
import SensorCluster.Proofs.SyncLoss
import Mathlib.Data.Nat.Choose.Basic

/-!
# What a sync cycle counts

A sync cycle compares the running receivers of the pool two by two, while it overwrites some of
them. It counts twice: in its report, from what became of each pair, and in the counters of the
replication, on the spot. **Both counts are those of the comparisons that took place**
(`syncCycle_counts`): so many pairs were compared, so many of them copied, so many skipped, and so
many were concurrent at the moment when they were compared.

## What it rests on

* A `Comparison` remembers the node as it was when the two receivers were compared, and `Compares`
  threads the node through the comparisons of a cycle. So what is said of a comparison is said of
  that moment, however the receivers were changed before it.
* **One comparison** is one more in the report and in the counters (`syncPair_counts`). A snapshot
  of the receiver that has seen more messages is never refused by the other, so the pair is skipped
  only when the two have seen equally many.
* Which pairs are compared is settled before the first of them is (`compared_pairs`).
-/

namespace SensorCluster

/-- The counters with all that a report counts. -/
def Cluster.SyncReport.count (r : Cluster.SyncReport) (n : ReplicationCounters) :
    ReplicationCounters :=
  { n with
    pairsCopied := n.pairsCopied.add (UInt64.ofNat r.copied)
    pairsSkipped := n.pairsSkipped.add (UInt64.ofNat r.skipped)
    conflictsDetected := n.conflictsDetected.add (UInt64.ofNat r.conflicts) }

namespace Cluster

variable {c c' : Cluster} {a b : ReplicaRef}

/-! ### Comparisons -/

/-- Two receivers that were compared, and the node at that moment. -/
structure Comparison where
  before : Cluster
  first : ReplicaRef
  second : ReplicaRef

namespace Comparison

variable (x : Comparison)

/-- Had neither of the two receivers seen all that the other had? -/
def isConcurrent : Bool :=
  (x.before.replica x.first).vector.concurrentWith (x.before.replica x.second).vector

/-- Had one of the two receivers seen more messages than the other? -/
def isUneven : Bool := (x.before.replica x.first).total ≠ (x.before.replica x.second).total

/-- Were it these two receivers, in one order or the other? -/
def isOf (a b : ReplicaRef) : Bool :=
  x.first = a ∧ x.second = b ∨ x.first = b ∧ x.second = a

end Comparison

/-- The comparisons that lead from one node to another, each of the node that the one before it
left. -/
inductive Compares : Cluster → List Comparison → Cluster → Prop
  | nil (c : Cluster) : Compares c [] c
  | cons {c c' : Cluster} {a b : ReplicaRef} {rest : List Comparison}
      (h : Compares (c.syncPair a b).2 rest c') : Compares c (⟨c, a, b⟩ :: rest) c'

/-- The report of the given comparisons. -/
def SyncReport.ofComparisons (xs : List Comparison) : SyncReport where
  pairs := xs.length
  copied := xs.countP (·.isUneven)
  skipped := xs.countP fun x ↦ !x.isUneven
  conflicts := xs.countP (·.isConcurrent)

/-- Every comparison was of receivers that had seen equally many messages, or not. -/
theorem SyncReport.pairs_ofComparisons (xs : List Comparison) :
    (ofComparisons xs).pairs = (ofComparisons xs).copied + (ofComparisons xs).skipped := by
  have hsplit := List.length_eq_countP_add_countP (fun x : Comparison ↦ x.isUneven) (l := xs)
  simp only [Bool.not_eq_true, Bool.decide_eq_false] at hsplit
  exact hsplit

/-- Two reports in one. -/
def SyncReport.plus (r s : SyncReport) : SyncReport :=
  ⟨r.pairs + s.pairs, r.copied + s.copied, r.skipped + s.skipped, r.conflicts + s.conflicts⟩

/-- Two reports in one count as one after the other. -/
theorem SyncReport.count_plus (r s : SyncReport) (n : ReplicationCounters) :
    (r.plus s).count n = s.count (r.count n) := by
  simp only [count, plus, Counter.add, UInt64.ofNat_add, UInt64.add_assoc]

/-- One comparison more is one report more. -/
theorem SyncReport.ofComparisons_cons (x : Comparison) (xs : List Comparison) :
    ofComparisons (x :: xs) = (ofComparisons [x]).plus (ofComparisons xs) := by
  simp only [ofComparisons, plus, ← List.countP_append, ← List.length_append, List.singleton_append]

/-! ### One comparison -/

/-- A conflict is counted once, or not at all. -/
theorem countConcurrent_counters (concurrent : Bool) :
    (c.countConcurrent concurrent).replication.counters =
      { c.replication.counters with
        conflictsDetected :=
          c.replication.counters.conflictsDetected.add (UInt64.ofNat concurrent.toNat) } := by
  cases concurrent with
  | false => simp [countConcurrent, Counter.add]
  | true => rfl

/-- A copy that is taken counts as one pair copied. -/
theorem copyPair_counters {source target : ReplicaRef}
    (hlt : (c.replica target).total < (c.replica source).total) (concurrent : Bool) :
    (c.copyPair concurrent source target).2.replication.counters =
      { c.replication.counters with
        pairsCopied := c.replication.counters.pairsCopied.increment } := by
  have happlied : (c.restore target (c.snapshot source)).1 = true :=
    congrArg Prod.fst
      (show (c.replica target).restore (c.snapshot source) = (true, _) from if_pos hlt)
  rw [copyPair]
  simp only [happlied, Bool.not_true, Bool.false_eq_true, if_false]
  cases concurrent <;> rfl

/-- The report of one comparison. -/
theorem SyncReport.ofComparisons_singleton (x : Comparison) :
    ofComparisons [x] =
      ⟨1, x.isUneven.toNat, (!x.isUneven).toNat, x.isConcurrent.toNat⟩ := by
  have hone : ∀ p : Comparison → Bool, [x].countP p = (p x).toNat := by
    intro p
    cases h : p x <;> simp [h]
  simp only [ofComparisons, hone, List.length_singleton]

/-- **One comparison** is one more in the report and in the counters, and in nothing else that the
replication counts. -/
theorem syncPair_counts (a b : ReplicaRef) (report : SyncReport) :
    report.add (c.syncPair a b).1 = report.plus (.ofComparisons [⟨c, a, b⟩]) ∧
      (c.syncPair a b).2.replication.counters =
        (SyncReport.ofComparisons [⟨c, a, b⟩]).count c.replication.counters := by
  set concurrent := (c.replica a).vector.concurrentWith (c.replica b).vector with hconcurrent
  have hreplica : ∀ ref, (c.countConcurrent concurrent).replica ref = c.replica ref :=
    fun ref ↦ congrArg (fun f : Fleet ↦ f.get ref) (countConcurrent_fleet concurrent)
  have hcounted := countConcurrent_counters (c := c) concurrent
  by_cases heq : (c.replica a).total = (c.replica b).total
  · have hcomparison : SyncReport.ofComparisons [⟨c, a, b⟩] = ⟨1, 0, 1, concurrent.toNat⟩ := by
      rw [SyncReport.ofComparisons_singleton]
      simp [Comparison.isUneven, Comparison.isConcurrent, heq, hconcurrent]
    rw [syncPair, if_pos heq, hcomparison]
    refine ⟨rfl, ?_⟩
    simp only [skipPair, countReplication, ← hconcurrent, hcounted, SyncReport.count]
    simp [Counter.add, Counter.increment]
  · have hcomparison : SyncReport.ofComparisons [⟨c, a, b⟩] = ⟨1, 1, 0, concurrent.toNat⟩ := by
      rw [SyncReport.ofComparisons_singleton]
      simp [Comparison.isUneven, Comparison.isConcurrent, heq, hconcurrent]
    -- whichever of the two has seen more messages, a copy counts alike
    have hcopy : ∀ {source target}, (c.replica target).total < (c.replica source).total →
        report.add ((c.countConcurrent concurrent).copyPair concurrent source target).1 =
            report.plus (.ofComparisons [⟨c, a, b⟩]) ∧
          ((c.countConcurrent concurrent).copyPair concurrent source
            target).2.replication.counters =
            (SyncReport.ofComparisons [⟨c, a, b⟩]).count c.replication.counters := by
      intro source target hlt
      rw [← hreplica source, ← hreplica target] at hlt
      rw [copyPair_answer hlt, copyPair_counters hlt, hcomparison, hcounted]
      refine ⟨rfl, ?_⟩
      simp [SyncReport.count, Counter.add, Counter.increment]
    rw [syncPair, if_neg heq]
    by_cases hlt : (c.replica b).total < (c.replica a).total
    · rw [if_pos hlt]
      exact hcopy hlt
    · rw [if_neg hlt]
      refine hcopy ?_
      rw [UInt64.lt_iff_toNat_lt] at hlt ⊢
      rw [← UInt64.toNat_inj] at heq
      omega

/-! ### A list of pairs -/

/-- **What a cycle says and counts** are the comparisons that it makes. -/
theorem syncPairs_counts (report : SyncReport) (ps : List (ReplicaRef × ReplicaRef)) :
    ∃ xs, Compares c xs (c.syncPairs report ps).2 ∧ xs.map (fun x ↦ (x.first, x.second)) = ps ∧
      (c.syncPairs report ps).1 = report.plus (.ofComparisons xs) ∧
      (c.syncPairs report ps).2.replication.counters =
        (SyncReport.ofComparisons xs).count c.replication.counters := by
  induction ps generalizing c report with
  | nil =>
    refine ⟨[], .nil c, rfl, rfl, ?_⟩
    simp [SyncReport.count, SyncReport.ofComparisons, Counter.add, syncPairs]
  | cons p rest ih =>
    obtain ⟨a, b⟩ := p
    obtain ⟨hreport, hcounters⟩ := syncPair_counts (c := c) a b report
    obtain ⟨xs, hxs, hmap, hreports, hcounted⟩ :=
      ih (c := (c.syncPair a b).2) (report.add (c.syncPair a b).1)
    refine ⟨⟨c, a, b⟩ :: xs, .cons hxs, congrArg ((a, b) :: ·) hmap, ?_, ?_⟩
    · rw [SyncReport.ofComparisons_cons]
      refine hreports.trans ?_
      rw [hreport]
      simp only [SyncReport.plus, Nat.add_assoc]
    · rw [SyncReport.ofComparisons_cons, SyncReport.count_plus, ← hcounters]
      exact hcounted

/-! ### The pairs of a list -/

/-- Of `n` receivers there are `n` over two pairs. -/
theorem length_pairs {α : Type} (l : List α) : (pairs l).length = l.length.choose 2 := by
  induction l with
  | nil => rfl
  | cons a rest ih =>
    rw [pairs, List.length_append, List.length_map, ih, List.length_cons, Nat.choose_succ_succ',
      Nat.choose_one_right]

/-- How often two values make up a pair of a list: each time the one stands at one place and the
other at another one. -/
theorem count_pairs {α : Type} [DecidableEq α] (l : List α) (a b : α) :
    (pairs l).countP (fun p ↦ decide (p = (a, b) ∨ p = (b, a))) =
      if a = b then (l.count a).choose 2 else l.count a * l.count b := by
  induction l with
  | nil => simp [pairs]
  | cons x rest ih =>
    -- the pairs of the first one with those behind it
    have hrow : (rest.map fun y ↦ (x, y)).countP (fun p ↦ decide (p = (a, b) ∨ p = (b, a))) =
        if x = a then rest.count b else if x = b then rest.count a else 0 := by
      rw [List.countP_map, List.count, List.count]
      split
      · next ha =>
        subst ha
        exact List.countP_congr fun y _ ↦ by simp; grind
      · split
        · next ha hb =>
          subst hb
          exact List.countP_congr fun y _ ↦ by simp [ha]
        · next ha hb => simp [ha, hb]
    rw [pairs, List.countP_append, hrow, ih, List.count_cons, List.count_cons]
    by_cases hab : a = b
    · subst hab
      by_cases hx : x = a
      · simp [hx, Nat.choose_succ_succ']
      · simp [hx]
    · by_cases hxa : x = a
      · simp [hxa, hab, Nat.add_mul, Nat.add_comm]
      · by_cases hxb : x = b
        · subst hxb
          simp [hxa, hab, Nat.mul_add, Nat.add_comm]
        · simp [hxa, hxb, hab]

/-! ### The cycle -/

/-- **No pool lists anybody twice**, whatever requests led to it. -/
theorem nodup_running_handleAll (config : Config) (sink : SnapshotSink) (provisioner : Provisioner)
    (now : WallTime) (requests : List Request) :
    let c := (new config sink provisioner now).handleAll requests
    (c.fleet.running c.replication.pool).Nodup := by
  intro c
  have hnew : (new config sink provisioner now).core.Sound fun _ ↦ True :=
    new_sound fun _ _ _ _ _ ↦ trivial
  have hsound : c.core.Sound fun _ ↦ True := handleAll_sound hnew requests
  have hregistry : c.coordinator.registry.Nodup := List.Nodup.of_map _ hsound.ids
  have hpool : c.replication.pool = c.coordinator.registry := hsound.pool_eq
  rw [hpool]
  exact hregistry.filter _

/-- Which receivers were compared, and how often, follows from the pairs that were gone through. -/
theorem compared_pairs {xs : List Comparison} {l : List ReplicaRef}
    (h : xs.map (fun x ↦ (x.first, x.second)) = pairs l) (a b : ReplicaRef) :
    xs.countP (·.isOf a b) = if a = b then (l.count a).choose 2 else l.count a * l.count b := by
  rw [← count_pairs, ← h, List.countP_map]
  refine List.countP_congr fun x _ ↦ ?_
  simp [Comparison.isOf]

/-- In a list that has nobody twice, two of its members that are not the same are compared once. -/
theorem choose_or_mul_of_nodup {l : List ReplicaRef} (h : l.Nodup) (a b : ReplicaRef) :
    (if a = b then (l.count a).choose 2 else l.count a * l.count b) =
      if a ≠ b ∧ a ∈ l ∧ b ∈ l then 1 else 0 := by
  rw [h.count, h.count]
  by_cases hab : a = b
  · subst hab
    by_cases ha : a ∈ l <;> simp [ha]
  · by_cases ha : a ∈ l <;> by_cases hb : b ∈ l <;> simp [hab, ha, hb]

/-- **Reports and counters agree.** A sync cycle makes comparisons, one after the other, and then
only counts itself and writes to the log. They are of `n * (n - 1) / 2` pairs of the `n` receivers
that run in the pool: two of them are compared as often as the pool lists the one beside the other,
so in a pool that lists nobody twice they are compared once if they are two, and nobody else is
compared with anybody. The report counts the comparisons, those at which one receiver had seen more
messages as copied and the others as skipped, and those at which the vectors were concurrent as
conflicts. The counters of the replication grow by what the report says, the sync cycles by one, and
no other counter changes. -/
theorem syncCycle_counts (c : Cluster) :
    let running := c.fleet.running c.replication.pool
    let report := c.syncCycle.1
    ∃ xs synced lines, Compares c xs synced ∧
      c.syncCycle.2 = (synced.countReplication fun n ↦
        { n with syncCycles := n.syncCycles.increment }).write lines ∧
      (∀ a b, xs.countP (·.isOf a b) =
        if a = b then (running.count a).choose 2 else running.count a * running.count b) ∧
      (running.Nodup → ∀ a b, xs.countP (·.isOf a b) =
        if a ≠ b ∧ a ∈ running ∧ b ∈ running then 1 else 0) ∧
      report.pairs = xs.length ∧ report.pairs = running.length * (running.length - 1) / 2 ∧
      report.pairs = report.copied + report.skipped ∧
      report.copied = xs.countP (·.isUneven) ∧ report.skipped = xs.countP (fun x ↦ !x.isUneven) ∧
      report.conflicts = xs.countP (·.isConcurrent) ∧
      c.syncCycle.2.replication.counters =
        { c.replication.counters with
          pairsCopied := c.replication.counters.pairsCopied.add (UInt64.ofNat report.copied)
          pairsSkipped := c.replication.counters.pairsSkipped.add (UInt64.ofNat report.skipped)
          conflictsDetected :=
            c.replication.counters.conflictsDetected.add (UInt64.ofNat report.conflicts)
          syncCycles := c.replication.counters.syncCycles.increment } := by
  intro running report
  obtain ⟨xs, hcompares, hpairs, hreport, hcounters⟩ :=
    syncPairs_counts (c := c) default (pairs running)
  have hcompared := compared_pairs hpairs
  have hreport : report = .ofComparisons xs := by
    refine ((syncCycle_spec c).1.trans hreport).trans ?_
    simp [SyncReport.plus, SyncReport.ofComparisons, default, instInhabitedSyncReport.default]
  have hlength : xs.length = running.length.choose 2 := by
    rw [← length_pairs, ← hpairs, List.length_map]
  refine ⟨xs, _, _, hcompares, rfl, hcompared, fun hnodup a b ↦ ?_, ?_, ?_, ?_, ?_, ?_, ?_, ?_⟩
  · rw [hcompared, choose_or_mul_of_nodup hnodup]
  · rw [hreport]
    rfl
  · rw [hreport, ← Nat.choose_two_right]
    exact hlength
  · rw [hreport]
    exact SyncReport.pairs_ofComparisons xs
  · rw [hreport]
    rfl
  · rw [hreport]
    rfl
  · rw [hreport]
    rfl
  · rw [hreport]
    exact congrArg (fun n : ReplicationCounters ↦ { n with syncCycles := n.syncCycles.increment })
      hcounters

end Cluster

namespace Bench

/-- Three running receivers in the pool, each with readings of a sensor of its own, and one that was
stopped. The first has seen two messages and the others one. -/
def threeApart : List Call :=
  [.create "a" "", .start 0, .joinPool 0, .create "b" "", .start 1, .joinPool 1,
    .create "c" "", .start 2, .joinPool 2, .create "d" "", .start 3, .joinPool 3, .stop 3,
    .process 0 (.data "k" "s" "t" 0.0 1 1), .process 0 (.data "l" "s" "t" 0.0 2 2),
    .process 1 (.data "m" "u" "t" 0.0 1 1), .process 2 (.data "n" "v" "t" 0.0 1 1)]

/-- The second and the third receiver are concurrent at the start. When they are compared both have
the data of the first, so that is no conflict. -/
theorem syncCycle_counts_threeApart :
    let c := ((new .default .discard .inMemory default).run threeApart).cluster
    c.fleet.running c.replication.pool = [0, 1, 2] ∧
      (c.replica 1).vector.concurrentWith (c.replica 2).vector = true ∧
      c.syncCycle.1 = ⟨3, 2, 1, 2⟩ ∧
      ∃ xs synced, Cluster.Compares c xs synced ∧ xs.countP (·.isConcurrent) = 2 ∧
        ∀ a b, xs.countP (·.isOf a b) =
          if a ≠ b ∧ a ∈ [0, 1, 2] ∧ b ∈ [0, 1, 2] then 1 else 0 := by
  have hfacts :
      let c := ((new .default .discard .inMemory default).run threeApart).cluster
      c.fleet.running c.replication.pool = [0, 1, 2] ∧
        (c.replica 1).vector.concurrentWith (c.replica 2).vector = true ∧
        c.syncCycle.1 = ⟨3, 2, 1, 2⟩ := by
    decide +kernel
  have hcounts : ∀ c : Cluster, c.fleet.running c.replication.pool = [0, 1, 2] →
      c.syncCycle.1 = ⟨3, 2, 1, 2⟩ →
      ∃ xs synced, Cluster.Compares c xs synced ∧ xs.countP (·.isConcurrent) = 2 ∧
        ∀ a b, xs.countP (·.isOf a b) =
          if a ≠ b ∧ a ∈ [0, 1, 2] ∧ b ∈ [0, 1, 2] then 1 else 0 := by
    intro c hrunning hreport
    obtain ⟨xs, synced, -, hcompares, -, -, honce, -, -, -, -, -, hconflicts, -⟩ :=
      Cluster.syncCycle_counts c
    rw [hrunning] at honce
    rw [hreport] at hconflicts
    exact ⟨xs, synced, hcompares, hconflicts.symm, honce (by decide)⟩
  obtain ⟨hrunning, hapart, hreport⟩ := hfacts
  exact ⟨hrunning, hapart, hreport, hcounts _ hrunning hreport⟩

end Bench

end SensorCluster
