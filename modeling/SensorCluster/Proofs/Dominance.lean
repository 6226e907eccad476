import SensorCluster.Proofs.Vectors

/-!
# Merging and dominance

A vector is a map, and it is also what can be read from it; an explicit zero makes the two differ.
**Merging obeys its laws on the maps**: it is commutative, associative and idempotent as an equality
of values, and it keeps every entry of both sides, the zero ones as well (`merge_join`). **Dominance
knows only what is read**: it looks at the entries of one side alone and still compares at every
node, since an absent entry reads as zero and every word is at least that (`dominates_iff`).

So dominance is a preorder on maps. Two maps that dominate each other read alike, and then they have
the same entries up to explicit zeros (`nonzero_eq_iff`). The merge is the join of that preorder,
and any two vectors are in exactly one of four relations to each other (`dominance_classifies`).
-/

namespace SensorCluster

namespace VersionVector

variable {a b a' b' : VersionVector} {node : String}

/-! ### Laws of merging -/

theorem word_max_comm (m n : UInt64) : max m n = max n m := by
  rw [← UInt64.toNat_inj, UInt64.toNat_max, UInt64.toNat_max, Nat.max_comm]

theorem word_max_assoc (l m n : UInt64) : max (max l m) n = max l (max m n) := by
  simp only [← UInt64.toNat_inj, UInt64.toNat_max, Nat.max_assoc]

theorem word_max_self (n : UInt64) : max n n = n := by
  rw [← UInt64.toNat_inj, UInt64.toNat_max, Nat.max_self]

/-- To merge is commutative, -/
theorem merge_comm (a b : VersionVector) : a.merge b = b.merge a :=
  congrArg mk (KeyMap.mergeWith_comm word_max_comm ..)

/-- associative -/
theorem merge_assoc (a b c : VersionVector) : (a.merge b).merge c = a.merge (b.merge c) :=
  congrArg mk (KeyMap.mergeWith_assoc word_max_assoc ..)

/-- and idempotent, on the stored maps and not only as they are read. -/
theorem merge_self (a : VersionVector) : a.merge a = a :=
  congrArg mk (KeyMap.mergeWith_self word_max_self _)

/-- What dominates both parts dominates the merge, and nothing else does. -/
theorem dominates_merge_iff (a b c : VersionVector) :
    c.dominates (a.merge b) = true ↔ c.dominates a = true ∧ c.dominates b = true := by
  constructor
  · intro h
    exact ⟨dominates_trans h (dominates_merge_left a b),
      dominates_trans h (dominates_merge_right a b)⟩
  · rintro ⟨ha, hb⟩
    refine dominates_iff.2 fun node ↦ ?_
    have hleft := get_le_of_dominates ha node
    have hright := get_le_of_dominates hb node
    rw [UInt64.le_iff_toNat_le] at hleft hright ⊢
    rw [get_merge, UInt64.toNat_max]
    exact Nat.max_le.2 ⟨hleft, hright⟩

/-- **Merging is the join of dominance**, and its laws hold of the maps. It is commutative,
associative and idempotent, explicit zeros included; the merged map has an entry for each node that
one of the two has an entry for, and no other; at every node it reads as the larger of the two; and
a vector dominates the merge when it dominates both, and only then. -/
theorem merge_join (a b c : VersionVector) :
    a.merge b = b.merge a ∧
    (a.merge b).merge c = a.merge (b.merge c) ∧
    a.merge a = a ∧
    (∀ node, node ∈ (a.merge b).counters.keys ↔ node ∈ a.counters.keys ∨ node ∈ b.counters.keys) ∧
    (∀ node, (a.merge b).get node = max (a.get node) (b.get node)) ∧
    (c.dominates (a.merge b) = true ↔ c.dominates a = true ∧ c.dominates b = true) :=
  ⟨merge_comm a b, merge_assoc a b c, merge_self a, KeyMap.mem_keys_mergeWith a.counters b.counters,
    get_merge a b, dominates_merge_iff a b c⟩

/-! ### Explicit zeros -/

/-- The entries that do not hold zero. -/
def nonzero (v : VersionVector) : List (String × UInt64) :=
  v.counters.entries.filter fun e ↦ e.2 ≠ 0

/-- They are what can be read and is not zero. -/
theorem mem_nonzero {n : UInt64} : (node, n) ∈ a.nonzero ↔ a.get node = n ∧ n ≠ 0 := by
  rw [nonzero, List.mem_filter, ← KeyMap.get?_eq_some_iff, get]
  cases a.counters.get? node with
  | none =>
    simp only [reduceCtorEq, false_and, Option.getD_none, false_iff]
    rintro ⟨rfl, hzero⟩
    exact hzero rfl
  | some held => simp

/-- **Vectors that read alike have the same entries, explicit zeros apart.** -/
theorem nonzero_eq_iff : a.nonzero = b.nonzero ↔ ∀ node, a.get node = b.get node := by
  constructor
  · intro h node
    have hread : ∀ n : UInt64, n ≠ 0 → (a.get node = n ↔ b.get node = n) := by
      intro n hn
      have hmem : (node, n) ∈ a.nonzero ↔ a.get node = n ∧ n ≠ 0 := mem_nonzero
      rw [h, mem_nonzero] at hmem
      simpa [hn] using hmem.symm
    by_cases ha : a.get node = 0
    · by_contra hne
      exact hne ((hread (b.get node) (ha ▸ Ne.symm hne)).2 rfl)
    · exact ((hread (a.get node) ha).1 rfl).symm
  · intro h
    -- the nonzero entries make a map of their own, and maps with the same entries are equal
    let kept (v : VersionVector) : KeyMap UInt64 := ⟨v.nonzero, v.counters.ordered.filter _⟩
    have hkept : kept a = kept b := by
      refine KeyMap.ext_get? fun node ↦ Option.ext fun n ↦ ?_
      rw [KeyMap.get?_eq_some_iff, KeyMap.get?_eq_some_iff]
      show (node, n) ∈ a.nonzero ↔ (node, n) ∈ b.nonzero
      rw [mem_nonzero, mem_nonzero, h node]
    exact congrArg KeyMap.entries hkept

/-- An explicit zero can be added where zero was read. -/
theorem nonzero_set_zero (h : a.get node = 0) : (a.set node 0).nonzero = a.nonzero := by
  refine nonzero_eq_iff.2 fun other ↦ ?_
  rw [get_set]
  split
  · next heq => rw [heq, h]
  · rfl

/-- An explicit zero can be dropped. -/
theorem nonzero_erase_zero (h : a.get node = 0) : nonzero ⟨a.counters.erase node⟩ = a.nonzero := by
  refine nonzero_eq_iff.2 fun other ↦ ?_
  rw [get, KeyMap.get?_erase]
  split
  · next heq => rw [heq, h]; rfl
  · rfl

/-! ### Two vectors -/

theorem dominates_self (a : VersionVector) : a.dominates a = true :=
  dominates_iff.2 fun _ ↦ UInt64.le_refl _

/-- Vectors dominate each other when they read alike. -/
theorem dominates_each_other_iff :
    a.dominates b = true ∧ b.dominates a = true ↔ ∀ node, a.get node = b.get node := by
  constructor
  · rintro ⟨hab, hba⟩ node
    exact UInt64.le_antisymm (get_le_of_dominates hba node) (get_le_of_dominates hab node)
  · intro h
    exact ⟨dominates_iff.2 fun node ↦ h node ▸ UInt64.le_refl _,
      dominates_iff.2 fun node ↦ h node ▸ UInt64.le_refl _⟩

/-- Where dominance fails there is a node that shows it. -/
theorem not_dominates_iff : a.dominates b = false ↔ ∃ node, a.get node < b.get node := by
  rw [← Bool.not_eq_true, dominates_iff, not_forall]
  simp only [UInt64.not_le]

theorem concurrentWith_comm (a b : VersionVector) : a.concurrentWith b = b.concurrentWith a :=
  Bool.and_comm ..

/-- Two vectors are concurrent when each is ahead of the other at some node. -/
theorem concurrentWith_iff : a.concurrentWith b = true ↔
    (∃ node, b.get node < a.get node) ∧ ∃ node, a.get node < b.get node := by
  rw [concurrentWith, Bool.and_eq_true, Bool.not_eq_true', Bool.not_eq_true', not_dominates_iff,
    not_dominates_iff, and_comm]

/-- Vectors that are not concurrent dominate one another. -/
theorem dominates_or_of_not_concurrent (h : a.concurrentWith b = false) :
    a.dominates b = true ∨ b.dominates a = true := by
  rw [concurrentWith] at h
  cases hab : a.dominates b with
  | true => exact .inl rfl
  | false => exact .inr (by simpa [hab] using h)

/-- Neither relation sees explicit zeros. -/
theorem dominates_congr (ha : a'.nonzero = a.nonzero) (hb : b'.nonzero = b.nonzero) :
    a'.dominates b' = a.dominates b := by
  rw [Bool.eq_iff_iff, dominates_iff, dominates_iff]
  simp only [nonzero_eq_iff.1 ha, nonzero_eq_iff.1 hb]

/-- Explicit zeros make no difference to whether two vectors are concurrent. -/
theorem concurrentWith_congr (ha : a'.nonzero = a.nonzero) (hb : b'.nonzero = b.nonzero) :
    a'.concurrentWith b' = a.concurrentWith b := by
  rw [concurrentWith, concurrentWith, dominates_congr ha hb, dominates_congr hb ha]

/-! ### Raising an entry -/

/-- A raised vector dominates the one before. -/
theorem dominates_increment (a : VersionVector) (node : String) :
    (a.increment node).dominates a = true :=
  dominates_iff.2 (get_le_get_increment a node)

/-- A raised vector is dominated by the one before only when there was no room above its entry. -/
theorem dominates_increment_iff (a : VersionVector) (node : String) :
    a.dominates (a.increment node) = true ↔ (a.get node).toNat + 1 = UInt64.size := by
  have hraised : (a.increment node).get node = bump (a.get node) := by
    rw [get_increment, if_pos rfl]
  rcases bump_eq_or (a.get node) with ⟨hlast, hsame⟩ | hone
  · -- a saturated entry stays, so the two vectors read alike
    have hread : ∀ other, a.get other = (a.increment node).get other := by
      intro other
      rw [get_increment]
      split
      · next heq => rw [heq, hsame]
      · rfl
    refine iff_of_true (dominates_each_other_iff.2 hread).1 ?_
    rw [hlast]
    decide
  · refine iff_of_false (fun h ↦ ?_) ?_
    · have hle := get_le_of_dominates h node
      rw [hraised, UInt64.le_iff_toNat_le, hone] at hle
      exact Nat.not_succ_le_self _ hle
    · have hlt : (bump (a.get node)).toNat < UInt64.size := UInt64.toNat_lt _
      omega

/-- **Dominance classifies every pair of vectors.**

* It is reflexive and transitive. Two vectors dominate each other when they read alike at every
  node, and that is when their maps have the same entries, explicit zeros apart.
* Of mutual dominance, dominance on one side only, on the other side only, and concurrency exactly
  one is the case. Concurrency is symmetric: each of the two vectors is larger at some node.
* Neither relation changes when explicit zeros are added to either vector or dropped from it.
* A vector with an entry raised dominates the one before, and is dominated by it only when the entry
  was the largest word. -/
theorem dominance_classifies (a b c : VersionVector) :
    a.dominates a = true ∧
    (a.dominates b = true → b.dominates c = true → a.dominates c = true) ∧
    (a.dominates b = true ∧ b.dominates a = true ↔ ∀ node, a.get node = b.get node) ∧
    ((∀ node, a.get node = b.get node) ↔ a.nonzero = b.nonzero) ∧
    [a.dominates b && b.dominates a, a.dominates b && !b.dominates a,
      b.dominates a && !a.dominates b,
      a.concurrentWith b].count true = 1 ∧
    a.concurrentWith b = b.concurrentWith a ∧
    (a.concurrentWith b = true ↔
      (∃ node, b.get node < a.get node) ∧ ∃ node, a.get node < b.get node) ∧
    (∀ a' b' : VersionVector, a'.nonzero = a.nonzero → b'.nonzero = b.nonzero →
      a'.dominates b' = a.dominates b ∧ a'.concurrentWith b' = a.concurrentWith b) ∧
    ∀ node, (a.increment node).dominates a = true ∧
      (a.dominates (a.increment node) = true ↔ (a.get node).toNat + 1 = UInt64.size) := by
  refine ⟨dominates_self a, dominates_trans, dominates_each_other_iff, nonzero_eq_iff.symm, ?_,
    concurrentWith_comm a b, concurrentWith_iff,
    fun _ _ ha hb ↦ ⟨dominates_congr ha hb, concurrentWith_congr ha hb⟩,
    fun node ↦ ⟨dominates_increment a node, dominates_increment_iff a node⟩⟩
  rw [concurrentWith]
  cases a.dominates b <;> cases b.dominates a <;> rfl

/-- Two maps that differ by explicit zeros dominate each other, and are one to every third
vector. -/
theorem dominance_classifies_explicitZeros :
    let plain := ofList [("x", 2), ("y", 1)]
    let padded := plain.set "z" 0
    let other := ofList [("x", 3), ("y", 0)]
    plain.counters.entries ≠ padded.counters.entries ∧
      (padded.dominates plain = true ∧ plain.dominates padded = true) ∧
      padded.concurrentWith other = true ∧
      padded.concurrentWith ⟨other.counters.erase "y"⟩ = true ∧
      (padded.increment "x").dominates plain = true := by
  intro plain padded other
  have hpadded : padded.nonzero = plain.nonzero := nonzero_set_zero (by decide +kernel)
  have hdropped : nonzero ⟨other.counters.erase "y"⟩ = other.nonzero :=
    nonzero_erase_zero (by decide +kernel)
  obtain ⟨-, -, hmutual, hread, -, -, -, -, hraised⟩ := dominance_classifies padded plain empty
  obtain ⟨-, -, -, -, -, -, hconcurrent, hzeros, -⟩ := dominance_classifies plain other empty
  obtain ⟨-, htrans, -⟩ := dominance_classifies (padded.increment "x") padded plain
  have hequal := hmutual.2 (hread.2 hpadded)
  have hapart : plain.concurrentWith other = true :=
    hconcurrent.2 ⟨⟨"y", by decide +kernel⟩, "x", by decide +kernel⟩
  exact ⟨by decide +kernel, hequal, (hzeros padded other hpadded rfl).2.trans hapart,
    (hzeros padded _ hpadded hdropped).2.trans hapart, htrans (hraised "x").1 hequal.1⟩

end VersionVector

end SensorCluster
