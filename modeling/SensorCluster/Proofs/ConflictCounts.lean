import SensorCluster.Proofs.SyncLoss

/-!
# Conflicts that a sync forgets

When two receivers with concurrent vectors are synced, the one that has seen fewer messages loses
readings that the other never saw, and that is to be counted as a conflict on it. A snapshot carries
the conflict counter of the receiver it was taken of, though, and the restore puts that counter in
place of the target's before the conflict is counted. **So the target ends up with one conflict more
than the source had, whatever it had counted itself** (`syncPair_conflicts`). The counter has gone
up only where it was no larger than that of the source. Where it was larger, the conflicts of the
target are forgotten, and the counter stands still or falls (`syncPair_forgets`), although it is
published as one that only rises.

Nothing is assumed of the two receivers but their vectors and their message counts: they need not
run, and no call need have led to them.
-/

namespace SensorCluster

/-- One more than `n` is above a counter when `n` has reached it, unless it wraps. -/
theorem Counter.lt_increment_iff {c n : Counter} :
    c.toNat < n.increment.toNat ↔ c ≤ n ∧ n.toNat + 1 < UInt64.size := by
  rw [UInt64.le_iff_toNat_le]
  by_cases hn : n.toNat + 1 < UInt64.size
  · rw [Counter.toNat_increment hn]
    omega
  · -- the largest counter wraps to zero
    have hlast : n.toNat + 1 = UInt64.size := by
      have := n.toNat_lt_size
      omega
    have hzero : n.increment.toNat = 0 := by
      rw [Counter.increment, UInt64.toNat_add]
      show (n.toNat + 1) % UInt64.size = 0
      rw [hlast, Nat.mod_self]
    omega

namespace Cluster

variable {c : Cluster} {a b : ReplicaRef}

/-- Of two receivers that have not seen equally many messages, a sync copies one over the other and
changes nobody else. -/
theorem syncPair_of_total_ne (ha : c.fleet.Holds a) (hb : c.fleet.Holds b)
    (hne : (c.replica a).total ≠ (c.replica b).total) :
    ∃ source target, (source = a ∧ target = b ∨ source = b ∧ target = a) ∧
      c.fleet.Holds target ∧ (c.replica target).total < (c.replica source).total ∧
      (c.syncPair a b).1 = .copied (c.replica source).id (c.replica target).id
        ((c.replica a).vector.concurrentWith (c.replica b).vector) ∧
      (c.syncPair a b).2.fleet = c.fleet.set target
        ((c.replica target).overwritten (c.replica source)
          ((c.replica a).vector.concurrentWith (c.replica b).vector)) := by
  set concurrent := (c.replica a).vector.concurrentWith (c.replica b).vector with hconcurrent
  have hfleet : (c.syncPair a b).2.fleet = c.fleet.level a b := syncPair_fleet ha hb
  have hreplica : ∀ ref, (c.countConcurrent concurrent).replica ref = c.replica ref :=
    fun ref ↦ congrArg (fun f : Fleet ↦ f.get ref) (countConcurrent_fleet concurrent)
  have hanswer : ∀ {source target}, (c.replica target).total < (c.replica source).total →
      ((c.countConcurrent concurrent).copyPair concurrent source target).1 =
        .copied (c.replica source).id (c.replica target).id concurrent := by
    intro source target hlt
    rw [copyPair_answer (by rwa [hreplica, hreplica]), hreplica, hreplica]
  rw [syncPair, if_neg hne]
  rw [syncPair, if_neg hne] at hfleet
  by_cases hlt : (c.replica b).total < (c.replica a).total
  · rw [if_pos hlt] at hfleet ⊢
    exact ⟨a, b, .inl ⟨rfl, rfl⟩, hb, hlt, hanswer hlt, hfleet.trans (if_pos hlt)⟩
  · have hgt : (c.replica a).total < (c.replica b).total := by
      rw [UInt64.lt_iff_toNat_lt] at hlt ⊢
      rw [Ne, ← UInt64.toNat_inj] at hne
      omega
    rw [if_neg hlt] at hfleet ⊢
    exact ⟨b, a, .inr ⟨rfl, rfl⟩, ha, hgt, hanswer hgt,
      hfleet.trans ((if_neg hlt).trans (if_pos hgt))⟩

/-- **What a sync counts.** Of two receivers with concurrent vectors that have not seen equally many
messages, the one that has seen fewer is overwritten and nobody else changes. Its conflict counter
is then one more than the source's. That is more than it was itself exactly when it was no larger
than the source's, and the source's is not the largest word. -/
theorem syncPair_conflicts (ha : c.fleet.Holds a) (hb : c.fleet.Holds b)
    (hconcurrent : (c.replica a).vector.concurrentWith (c.replica b).vector = true)
    (hne : (c.replica a).total ≠ (c.replica b).total) :
    ∃ source target, (source = a ∧ target = b ∨ source = b ∧ target = a) ∧
      (c.replica target).total < (c.replica source).total ∧
      (c.syncPair a b).1 = .copied (c.replica source).id (c.replica target).id true ∧
      (∀ ref ≠ target, (c.syncPair a b).2.replica ref = c.replica ref) ∧
      ((c.syncPair a b).2.replica target).conflicts = (c.replica source).conflicts.increment ∧
      ((c.replica target).conflicts.toNat + 1 ≤
          ((c.syncPair a b).2.replica target).conflicts.toNat ↔
        (c.replica target).conflicts ≤ (c.replica source).conflicts ∧
          (c.replica source).conflicts.toNat + 1 < UInt64.size) := by
  obtain ⟨source, target, hpair, hholds, hlt, hanswer, hfleet⟩ := syncPair_of_total_ne ha hb hne
  rw [hconcurrent] at hanswer hfleet
  have hget : ∀ ref, (c.syncPair a b).2.replica ref =
      if ref = target then (c.replica target).overwritten (c.replica source) true
      else c.replica ref := by
    intro ref
    rw [replica, hfleet, Fleet.get_set hholds]
    rfl
  have hcounted : ((c.syncPair a b).2.replica target).conflicts =
      (c.replica source).conflicts.increment := by
    rw [hget, if_pos rfl]
    rfl
  refine ⟨source, target, hpair, hlt, hanswer, fun ref href ↦ by rw [hget, if_neg href],
    hcounted, ?_⟩
  rw [hcounted]
  exact Counter.lt_increment_iff

end Cluster

namespace Bench

/-- Two receivers, each with readings of a sensor of its own. The second of the readings that the
latter sees is older than the first, which it counts as a conflict. -/
def outOfOrder : List Call :=
  [.create "a" "", .start 0, .create "b" "", .start 1,
    .process 0 (.data "k" "s" "t" 0.0 1 1), .process 0 (.data "l" "s" "t" 0.0 2 2),
    .process 0 (.data "m" "s" "t" 0.0 3 3),
    .process 1 (.data "n" "u" "t" 0.0 5 1), .process 1 (.data "o" "u" "t" 0.0 4 2)]

/-- The first receiver overwrites the second, whose counter was the larger one and does not rise. -/
theorem syncPair_conflicts_outOfOrder :
    let c := ((new .default .discard .inMemory default).run outOfOrder).cluster
    (c.replica 1).total < (c.replica 0).total ∧ (c.syncPair 0 1).1 = .copied "a" "b" true ∧
      (c.syncPair 0 1).2.replica 0 = c.replica 0 ∧
      ¬(c.replica 1).conflicts.toNat + 1 ≤ ((c.syncPair 0 1).2.replica 1).conflicts.toNat := by
  have hfacts :
      let c := ((new .default .discard .inMemory default).run outOfOrder).cluster
      c.fleet.Holds 0 ∧ c.fleet.Holds 1 ∧
        (c.replica 0).vector.concurrentWith (c.replica 1).vector = true ∧
        (c.replica 0).total ≠ (c.replica 1).total ∧
        (c.replica 1).total < (c.replica 0).total ∧ ¬(c.replica 0).total < (c.replica 1).total ∧
        (c.replica 0).id = "a" ∧ (c.replica 1).id = "b" ∧
        ¬(c.replica 1).conflicts ≤ (c.replica 0).conflicts := by
    decide +kernel
  intro c
  obtain ⟨ha, hb, hconcurrent, hne, hless, hmore, hida, hidb, hconflicts⟩ := hfacts
  obtain ⟨source, target, hpair, hlt, hanswer, hothers, -, hrises⟩ :=
    Cluster.syncPair_conflicts ha hb hconcurrent hne
  rcases hpair with ⟨rfl, rfl⟩ | ⟨rfl, rfl⟩
  · exact ⟨hless, hida ▸ hidb ▸ hanswer, hothers 0 (by decide), fun h ↦ hconflicts (hrises.1 h).1⟩
  · exact absurd hlt hmore

/-- **A conflict is not counted**: readings are lost to a receiver whose vector is concurrent, and
the counter of the overwritten one is what it was before. -/
theorem syncPair_forgets :
    let c := ((new .default .discard .inMemory default).run outOfOrder).cluster
    (c.replica 0).vector.concurrentWith (c.replica 1).vector = true ∧
      (c.replica 0).total = 3 ∧ (c.replica 1).total = 2 ∧ (c.replica 1).conflicts = 1 ∧
      (c.syncPair 0 1).1 = .copied "a" "b" true ∧
      ((c.syncPair 0 1).2.replica 1).conflicts = 1 := by
  decide +kernel

end Bench

end SensorCluster
