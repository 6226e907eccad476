import SensorCluster.Proofs.Bench
import SensorCluster.Proofs.Dominance
import SensorCluster.Proofs.Tally

/-!
# What a sync loses

A sync looks at two receivers twice. By their message counts it decides which one overwrites the
other, and by their vectors whether the overwritten one loses readings that the other never saw.
**The two views need not agree**: heartbeats raise a count and no entry, so a receiver that saw many
of them overwrites one whose vector dominates its own. Then a reading is lost, and as the vectors
are not concurrent no conflict is counted (`overwritten_by_heartbeats`).

`copy_cases` says what a copy can be. Either the vectors were concurrent and the target counts a
conflict, or the source dominated the target, or the target dominated the source. The last only
happens for messages that were no stored readings: by the marks in its vector, the source has no
more stored readings than the target has messages, and what it counts beyond them is made up of
others. So where each accepted message is a stored reading, a copy that counts no conflict loses
nothing.

## What it rests on

* Counts and vectors are copied together, so every receiver stays tallied (`Each.tallied_run`),
  however it came to its data.
* Dominance carries over to marks: the source has no more of them than the target.
-/

namespace SensorCluster

namespace Fleet

variable {f f' : Fleet} {id : String}

/-- The ids of all receivers, listed or not. -/
def allIds (f : Fleet) : Finset String :=
  (Finset.range f.replicas.length).image fun ref ↦ (f.get ref).id

theorem mem_allIds : id ∈ f.allIds ↔ ∃ ref, f.Holds ref ∧ (f.get ref).id = id := by
  simp [allIds, Holds]

/-- Of a pair, the second member is overwritten when it has seen fewer messages. -/
theorem get_level_right {a b : ReplicaRef} (hb : f.Holds b)
    (hlt : (f.get b).total < (f.get a).total) :
    (f.level a b).get b =
      (f.get b).overwritten (f.get a) ((f.get a).vector.concurrentWith (f.get b).vector) := by
  rw [level]
  rw [if_pos hlt, get_set hb, if_pos rfl]

/-- Of a pair, the first member is overwritten when it has seen fewer messages. -/
theorem get_level_left {a b : ReplicaRef} (ha : f.Holds a)
    (hlt : (f.get a).total < (f.get b).total) :
    (f.level a b).get a =
      (f.get a).overwritten (f.get b) ((f.get a).vector.concurrentWith (f.get b).vector) := by
  have hnlt : ¬(f.get b).total < (f.get a).total := UInt64.lt_asymm hlt
  rw [level]
  rw [if_neg hnlt, if_pos hlt, get_set ha, if_pos rfl]

theorem Grows.allIds_subset (h : f.Grows f') : f.allIds ⊆ f'.allIds := by
  intro id hid
  obtain ⟨ref, href, rfl⟩ := mem_allIds.1 hid
  exact mem_allIds.2 ⟨ref, h ref href⟩

end Fleet

namespace Cluster

variable {c : Cluster} {a b : ReplicaRef}

/-- The answer to a copy names its source and its target. -/
theorem copyPair_answer {source target : ReplicaRef}
    (hlt : (c.replica target).total < (c.replica source).total) (concurrent : Bool) :
    (c.copyPair concurrent source target).1 =
      .copied (c.replica source).id (c.replica target).id concurrent := by
  have happlied : (c.restore target (c.snapshot source)).1 = true :=
    congrArg Prod.fst
      (show (c.replica target).restore (c.snapshot source) = (true, _) from if_pos hlt)
  -- neither the restore nor the conflict renames anybody
  have hset : ∀ (c : Cluster) {r : Replica}, r.id = (c.replica target).id → ∀ ref,
      ((c.setReplica target r).replica ref).id = (c.replica ref).id :=
    fun _ _ h ↦ Fleet.apply_get_set Replica.id h
  have hrestored : ∀ ref,
      ((c.restore target (c.snapshot source)).2.replica ref).id = (c.replica ref).id :=
    hset c (Replica.restore_id ..)
  have hcounted : ∀ (c : Cluster) ref,
      ((c.setReplica target (c.replica target).recordConflict).replica ref).id =
        (c.replica ref).id :=
    fun c ↦ hset c (r := (c.replica target).recordConflict) rfl
  rw [copyPair]
  simp only [happlied, Bool.not_true, Bool.false_eq_true, if_false]
  cases concurrent with
  | false => rw [if_neg (by decide), hrestored, hrestored]
  | true => rw [if_pos rfl, hcounted, hcounted, hrestored, hrestored]

/-- **A copy**: of the two, the one that has seen more messages has overwritten the other. -/
theorem syncPair_copied (ha : c.fleet.Holds a) (hb : c.fleet.Holds b) {s t : String}
    {concurrent : Bool} (h : (c.syncPair a b).1 = .copied s t concurrent) :
    ∃ source target, (source = a ∧ target = b ∨ source = b ∧ target = a) ∧
      (c.replica source).id = s ∧ (c.replica target).id = t ∧
      (c.replica target).total < (c.replica source).total ∧
      (c.replica source).vector.concurrentWith (c.replica target).vector = concurrent ∧
      (c.syncPair a b).2.replica target =
        (c.replica target).overwritten (c.replica source) concurrent := by
  have hfleet := syncPair_fleet ha hb
  have hreplica : ∀ concurrent ref, (c.countConcurrent concurrent).replica ref = c.replica ref :=
    fun concurrent ref ↦ congrArg (fun f : Fleet ↦ f.get ref) (countConcurrent_fleet concurrent)
  rw [syncPair] at h
  split at h
  · cases h
  · next hne =>
    split at h
    · next hlt =>
      rw [copyPair_answer (by rwa [hreplica, hreplica]), hreplica, hreplica] at h
      obtain ⟨hs, ht, hconcurrent⟩ := PairOutcome.copied.inj h
      refine ⟨a, b, .inl ⟨rfl, rfl⟩, hs, ht, hlt, hconcurrent, ?_⟩
      rw [replica, hfleet]
      exact (Fleet.get_level_right hb hlt).trans (congrArg _ hconcurrent)
    · next hnlt =>
      have hlt : (c.replica a).total < (c.replica b).total := by
        rw [UInt64.lt_iff_toNat_lt] at hnlt ⊢
        rw [← UInt64.toNat_inj] at hne
        omega
      rw [copyPair_answer (by rwa [hreplica, hreplica]), hreplica, hreplica] at h
      obtain ⟨hs, ht, hconcurrent⟩ := PairOutcome.copied.inj h
      refine ⟨b, a, .inr ⟨rfl, rfl⟩, hs, ht, hlt, ?_, ?_⟩
      · rw [VersionVector.concurrentWith_comm]
        exact hconcurrent
      · rw [replica, hfleet]
        exact (Fleet.get_level_left ha hlt).trans (congrArg _ hconcurrent)

end Cluster

namespace Bench

variable {b : Bench} {call : Call} {calls : List Call} {ids : Finset String} {n unstored : Nat}

/-- How many of the accepted messages were no stored readings. -/
def unstoredCount (l : List Acceptance) : Nat := l.countP fun a ↦ !a.outcome.isStored

/-- **One call** leaves everybody tallied. -/
theorem Each.tallied_step (h : b.Each (Replica.Tallied ids n unstored))
    (hids : (b.step call).cluster.fleet.allIds ⊆ ids)
    (hmarks : ∀ a ∈ (b.accepts? call).toList, ∀ id ∈ ids, a.message.vector.get id = 0)
    (hn : n + (b.accepts? call).toList.length < UInt64.size) :
    (b.step call).Each (Replica.Tallied ids (n + (b.accepts? call).toList.length)
      (unstored + unstoredCount (b.accepts? call).toList)) := by
  have hmono := h.mono fun _ hr ↦ hr.mono (Nat.le_add_right n (b.accepts? call).toList.length)
    (Nat.le_add_right unstored (unstoredCount (b.accepts? call).toList))
  refine hmono.step (Replica.heritable_tallied ..) (fun _ _ ↦ Replica.tallied_new ..) ?_
  intro ref m outcome r haccepts hprocess
  rw [haccepts] at hmarks hn ⊢
  have hholds : b.cluster.fleet.Holds ref :=
    Fleet.holds_of_isRunning (Replica.process_eq_ok hprocess).1
  have hid : (b.cluster.replica ref).id ∈ ids :=
    hids ((b.step_grows call).allIds_subset (Fleet.mem_allIds.2 ⟨ref, hholds, rfl⟩))
  have hcount : unstoredCount (some (⟨ref, m, outcome⟩ : Acceptance)).toList =
      (!outcome.isStored).toNat := by
    cases houtcome : outcome.isStored <;> simp [unstoredCount, houtcome]
  rw [hcount]
  exact (h.held ref).process hid (hmarks _ (List.mem_singleton.2 rfl)) hn hprocess

theorem Each.tallied_run (h : b.Each (Replica.Tallied ids n unstored))
    (hids : (b.run calls).cluster.fleet.allIds ⊆ ids)
    (hmarks : ∀ a ∈ b.accepted calls, ∀ id ∈ ids, a.message.vector.get id = 0)
    (hn : n + (b.accepted calls).length < UInt64.size) :
    (b.run calls).Each (Replica.Tallied ids (n + (b.accepted calls).length)
      (unstored + unstoredCount (b.accepted calls))) := by
  induction calls generalizing b n unstored with
  | nil => exact h
  | cons call rest ih =>
    have hfirst : (b.step call).cluster.fleet.allIds ⊆ ids :=
      ((b.step call).run_grows rest).allIds_subset.trans hids
    rw [accepted, List.length_append] at hn
    have hstep := h.tallied_step hfirst
      (fun a ha ↦ hmarks a (List.mem_append_left _ ha)) (by omega)
    have hrest := ih hstep hids (fun a ha ↦ hmarks a (List.mem_append_right _ ha)) (by omega)
    rw [accepted, List.length_append, unstoredCount, List.countP_append, ← Nat.add_assoc,
      ← Nat.add_assoc]
    exact hrest

/-- **What a copy can be**, between any two receivers that any calls lead to. The one that has seen
more messages overwrites the other, and
* the vectors were concurrent, and the target counts a conflict on top of those of the source; or
* no conflict is counted, and the source dominated the target; or
* no conflict is counted, and the target dominated the source. When no accepted message had a
  counter for a receiver, and the messages fit into a word, then the stored readings of the source
  are no more than the messages of the target. What the source counts beyond them is no more than
  the accepted messages that were no stored readings. -/
theorem copy_cases (config : Config) (sink : SnapshotSink) (provisioner : Provisioner)
    (now : WallTime) (calls : List Call) {a b : ReplicaRef} {s t : String} {concurrent : Bool} :
    let start := new config sink provisioner now
    let c := (start.run calls).cluster
    c.fleet.Holds a → c.fleet.Holds b → (c.syncPair a b).1 = .copied s t concurrent →
    ∃ source target, (source = a ∧ target = b ∨ source = b ∧ target = a) ∧
      (c.replica source).id = s ∧ (c.replica target).id = t ∧
      (c.replica target).total < (c.replica source).total ∧
      (concurrent = true ∧ ((c.syncPair a b).2.replica target).conflicts =
          (c.replica source).conflicts.increment ∨
        concurrent = false ∧
          (c.replica source).vector.dominates (c.replica target).vector = true ∨
        concurrent = false ∧
          (c.replica target).vector.dominates (c.replica source).vector = true ∧
          ((∀ m ∈ start.accepted calls, ∀ id ∈ c.fleet.allIds, m.message.vector.get id = 0) →
            (start.accepted calls).length < UInt64.size →
            (c.replica source).vector.marks c.fleet.allIds ≤ (c.replica target).total.toNat ∧
            (c.replica source).total.toNat ≤ (c.replica source).vector.marks c.fleet.allIds +
              unstoredCount (start.accepted calls))) := by
  intro start c ha hb h
  obtain ⟨source, target, hpair, hs, ht, hlt, hconcurrent, hafter⟩ :=
    Cluster.syncPair_copied ha hb h
  refine ⟨source, target, hpair, hs, ht, hlt, ?_⟩
  cases concurrent with
  | true => exact .inl ⟨rfl, congrArg Replica.conflicts hafter⟩
  | false =>
    refine .inr ?_
    rcases VersionVector.dominates_or_of_not_concurrent hconcurrent with hcovered | hcovers
    · exact .inl ⟨rfl, hcovered⟩
    · refine .inr ⟨rfl, hcovers, fun hmarks hshort ↦ ?_⟩
      have hstart : start.Each (Replica.Tallied c.fleet.allIds 0 0) :=
        .new fun _ _ ↦ Replica.tallied_new ..
      have htallied := hstart.tallied_run (Finset.Subset.refl _) hmarks (by omega)
      rw [Nat.zero_add, Nat.zero_add] at htallied
      have hfewer : (c.replica source).vector.marks c.fleet.allIds ≤
          (c.replica target).vector.marks c.fleet.allIds :=
        VersionVector.marks_le_of_dominates hcovers
      exact ⟨hfewer.trans (htallied.held target).marks_le, (htallied.held source).le_marks⟩

/-- One receiver sees two heartbeats, the other one reading. -/
def heartbeats : List Call :=
  [.create "a" "", .start 0, .create "b" "", .start 1,
    .process 0 (.heartbeat "h" "s" "t" default), .process 0 (.heartbeat "i" "s" "t" default),
    .process 1 (.data "d" "s" "t" 0.0 1 1)]

/-- The source dominates nobody here, so it has no more stored readings than the target has
messages: none of its two messages was one. -/
theorem copy_cases_heartbeats :
    let start := new .default .discard .inMemory default
    let c := (start.run heartbeats).cluster
    (c.syncPair 0 1).1 = .copied "a" "b" false ∧
      (c.replica 0).vector.marks c.fleet.allIds ≤ (c.replica 1).total.toNat ∧
      (c.replica 0).total.toNat ≤
        (c.replica 0).vector.marks c.fleet.allIds + unstoredCount (start.accepted heartbeats) := by
  have hfacts :
      let start := new .default .discard .inMemory default
      let c := (start.run heartbeats).cluster
      c.fleet.Holds 0 ∧ c.fleet.Holds 1 ∧ (c.syncPair 0 1).1 = .copied "a" "b" false ∧
        ¬(c.replica 0).total < (c.replica 1).total ∧
        ¬(c.replica 0).vector.dominates (c.replica 1).vector = true ∧
        (∀ m ∈ start.accepted heartbeats, ∀ id ∈ c.fleet.allIds, m.message.vector.get id = 0) ∧
        (start.accepted heartbeats).length < UInt64.size := by
    decide +kernel
  have hcases := @copy_cases .default .discard .inMemory default heartbeats 0 1 "a" "b" false
  -- the facts are about one bench, whose value is not needed any more
  generalize new .default .discard .inMemory default = start at hfacts hcases ⊢
  dsimp only at hfacts hcases ⊢
  generalize start.run heartbeats = b at hfacts hcases ⊢
  obtain ⟨ha, hb, hcopied, hmore, hnot, hmarks, hshort⟩ := hfacts
  obtain ⟨source, target, hpair, -, -, hlt, hcases⟩ := hcases ha hb hcopied
  refine ⟨hcopied, ?_⟩
  rcases hpair with ⟨rfl, rfl⟩ | ⟨rfl, rfl⟩
  · rcases hcases with ⟨hflag, -⟩ | ⟨-, hdominates⟩ | ⟨-, -, hbound⟩
    · exact absurd hflag Bool.false_ne_true
    · exact absurd hdominates hnot
    · exact hbound hmarks hshort
  · exact absurd hlt hmore

/-- The reading is overwritten by a receiver that does not dominate its own, and no conflict is
counted. -/
theorem overwritten_by_heartbeats :
    let c := ((new .default .discard .inMemory default).run heartbeats).cluster
    (c.replica 0).isRunning = true ∧ (c.replica 1).isRunning = true ∧
      (c.syncPair 0 1).1 = .copied "a" "b" false ∧
      (c.replica 0).vector.dominates (c.replica 1).vector = false ∧
      (c.replica 1).recordCount = 1 ∧ ((c.syncPair 0 1).2.replica 1).recordCount = 0 ∧
      ((c.syncPair 0 1).2.replica 1).conflicts = 0 ∧
      (c.syncPair 0 1).2.replication.counters.conflictsDetected = 0 := by
  decide +kernel

end Bench

end SensorCluster
