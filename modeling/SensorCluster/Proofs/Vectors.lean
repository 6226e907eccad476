import SensorCluster.Proofs.Core

/-!
# Version vectors as an order

A vector dominates another when it is at least as large at every node (`dominates_iff`). So
dominance is reflexive and transitive, a merge dominates both of its parts, and what dominates both
parts dominates the merge.

**What a message does to the vector of its receiver** is said once, in `Replica.vector_of_process`:
the vector of the message is merged in, and a reading that is stored raises the receiver's own
entry. No other entry moves on its own.
-/

namespace SensorCluster

namespace VersionVector

variable {a b c : VersionVector} {node : String}

/-! ### Dominance -/

/-- A vector without an entry at a node has zero there, so **dominance is the order at every node**.
-/
theorem dominates_iff : a.dominates b = true ↔ ∀ node, b.get node ≤ a.get node := by
  rw [dominates, List.all_eq_true]
  constructor
  · intro h node
    cases hnode : b.counters.get? node with
    | none =>
      rw [get, hnode]
      exact UInt64.zero_le
    | some n =>
      -- The entries that are listed are the ones that are compared; elsewhere there is zero.
      have hentry : (node, n) ∈ b.counters.entries := (KeyMap.get?_eq_some_iff ..).1 hnode
      rw [get, hnode]
      exact of_decide_eq_true (h _ hentry)
  · rintro h ⟨node, n⟩ hentry
    have hget : b.get node = n := by rw [get, (KeyMap.get?_eq_some_iff ..).2 hentry]; rfl
    exact decide_eq_true (hget ▸ h node)

theorem get_le_of_dominates (h : a.dominates b = true) (node : String) : b.get node ≤ a.get node :=
  dominates_iff.1 h node

/-- Dominance is transitive, as the order of the entries is. -/
theorem dominates_trans (hab : a.dominates b = true) (hbc : b.dominates c = true) :
    a.dominates c = true :=
  dominates_iff.2 fun node ↦
    UInt64.le_trans (get_le_of_dominates hbc node) (get_le_of_dominates hab node)

/-- Every vector dominates the empty one. -/
theorem dominates_empty (a : VersionVector) : a.dominates empty = true := rfl

/-! ### Merging -/

theorem get_le_get_merge_left (a b : VersionVector) (node : String) :
    a.get node ≤ (a.merge b).get node := by
  rw [get_merge, UInt64.le_iff_toNat_le, UInt64.toNat_max]
  exact Nat.le_max_left ..

theorem get_le_get_merge_right (a b : VersionVector) (node : String) :
    b.get node ≤ (a.merge b).get node := by
  rw [get_merge, UInt64.le_iff_toNat_le, UInt64.toNat_max]
  exact Nat.le_max_right ..

/-- A merge dominates what was merged, -/
theorem dominates_merge_left (a b : VersionVector) : (a.merge b).dominates a = true :=
  dominates_iff.2 (get_le_get_merge_left a b)

/-- on either side. -/
theorem dominates_merge_right (a b : VersionVector) : (a.merge b).dominates b = true :=
  dominates_iff.2 (get_le_get_merge_right a b)

/-! ### Raising an entry -/

/-- Below the largest word an entry is raised by one. -/
theorem toNat_bump {n : UInt64} (h : n.toNat + 1 < UInt64.size) : (bump n).toNat = n.toNat + 1 := by
  have hne : n ≠ UInt64.ofNat (UInt64.size - 1) := by
    rintro rfl
    exact absurd h (by decide)
  rw [bump, if_neg hne, UInt64.toNat_add]
  exact Nat.mod_eq_of_lt h

/-- An entry at the largest word stays there, and no other comes there unseen. -/
theorem bump_eq_or (n : UInt64) :
    n = UInt64.ofNat (UInt64.size - 1) ∧ bump n = n ∨ (bump n).toNat = n.toNat + 1 := by
  by_cases h : n.toNat + 1 < UInt64.size
  · exact .inr (toNat_bump h)
  · have hlt : n.toNat < UInt64.size := n.toNat_lt
    have hlast : n = UInt64.ofNat (UInt64.size - 1) := by
      rw [← UInt64.toNat_inj]
      exact (show n.toNat = UInt64.size - 1 by omega)
    exact .inl ⟨hlast, if_pos hlast⟩

/-- At the largest word an entry stays where it is, so it never falls. -/
theorem le_bump (n : UInt64) : n ≤ bump n := by
  rcases bump_eq_or n with ⟨-, hsame⟩ | hraised
  · rw [hsame]
    exact UInt64.le_refl _
  · rw [UInt64.le_iff_toNat_le, hraised]
    exact Nat.le_succ _

/-- To raise an entry lowers none. -/
theorem get_le_get_increment (a : VersionVector) (raised node : String) :
    a.get node ≤ (a.increment raised).get node := by
  rw [get_increment]
  split
  · next h =>
    rw [h]
    exact le_bump _
  · exact UInt64.le_refl _

end VersionVector

/-! ### Processing -/

namespace Replica

/-- Was the message a reading that was stored? -/
def ProcessOutcome.isStored (o : ProcessOutcome) : Bool := o.resolution.any Resolution.isStored

variable {r r' : Replica} {m : Message} {outcome : ProcessOutcome}

/-- An offer leaves the count alone, and raises the own entry of a receiver that stores. -/
theorem offer_vector (r : Replica) (candidate : SensorRecord) :
    (r.offer candidate).2.total = r.total ∧
      (r.offer candidate).2.vector =
        if (r.offer candidate).1.isStored then r.vector.increment r.id else r.vector := by
  simp only [offer]
  split
  · next h => exact ⟨rfl, by simp [Resolution.isStored, h]⟩
  · next h => exact ⟨rfl, by simp [Resolution.isStored, h]⟩

/-- **What a message does to the vector**: the answer is the vector afterwards; the vector of the
message is merged in, and a stored reading raises the receiver's own entry. -/
theorem vector_of_process (h : r.process m = .ok (outcome, r')) :
    outcome.vector = r'.vector ∧ r'.total = r.total.increment ∧
      r'.vector = if outcome.isStored then (r.vector.merge m.vector).increment r.id
        else r.vector.merge m.vector := by
  rw [process] at h
  split at h
  · cases h
  · split at h
    · obtain ⟨rfl, rfl⟩ := Prod.mk.inj (Except.ok.inj h)
      obtain ⟨htotal, hvector⟩ := (r.absorb m).offer_vector (.ofMessage m)
      exact ⟨rfl, congrArg Counter.increment htotal, hvector⟩
    · obtain ⟨rfl, rfl⟩ := Prod.mk.inj (Except.ok.inj h)
      exact ⟨rfl, rfl, rfl⟩

/-- An offer answers what becomes of the candidate in the index. -/
theorem offer_fst (r : Replica) (candidate : SensorRecord) :
    (r.offer candidate).1 = (r.index.apply candidate).1 := by
  simp only [offer]
  split <;> rfl

/-- Only a reading is stored, when the index takes it. -/
theorem isStored_of_process (h : r.process m = .ok (outcome, r')) :
    outcome.isStored = (m.kind = .data && (r.index.apply (.ofMessage m)).1.isStored) := by
  rw [process] at h
  split at h
  · cases h
  · split at h
    · next hdata =>
      have hanswer := congrArg Resolution.isStored ((r.absorb m).offer_fst (.ofMessage m))
      obtain ⟨houtcome, -⟩ := Prod.mk.inj (Except.ok.inj h)
      rw [decide_eq_true hdata, Bool.true_and, ← houtcome]
      exact hanswer
    · next hother =>
      obtain ⟨rfl, -⟩ := Prod.mk.inj (Except.ok.inj h)
      rw [decide_eq_false hother]
      rfl

/-- **What a message does to the index**: a stored reading is put in its place, and nothing else
is. -/
theorem index_of_process (h : r.process m = .ok (outcome, r')) :
    r'.index = if outcome.isStored then ⟨r.index.records.insert m.sensor (.ofMessage m)⟩
      else r.index := by
  rw [(process_eq_ok h).2.2, isStored_of_process h]
  by_cases hdata : m.kind = .data
  · rw [if_pos hdata, decide_eq_true hdata, Bool.true_and]
    rfl
  · rw [if_neg hdata, decide_eq_false hdata]
    rfl

end Replica

end SensorCluster
