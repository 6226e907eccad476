import SensorCluster.Proofs.Inheritance
import SensorCluster.Proofs.Vectors
import Mathlib.Algebra.BigOperators.Group.Finset.Basic
import Mathlib.Algebra.Order.BigOperators.Group.Finset

/-!
# Counting what was stored

A receiver counts its messages in a number and marks the readings that it stores in its vector, at
the entry of its own id. A restore takes over the count and the vector together, so the two can be
compared whatever was copied in between: **the marks of all receivers in one vector, added up, are
the stored readings among the messages that are counted with it** (`Replica.Tallied`).

The marks are at the entries of receivers, so this only holds as long as no message has a counter
for one of them.
-/

namespace SensorCluster

namespace VersionVector

variable {ids : Finset String} {a b : VersionVector} {id : String}

/-- The marks of the given receivers, added up. -/
def marks (ids : Finset String) (v : VersionVector) : Nat := ∑ id ∈ ids, (v.get id).toNat

@[simp] theorem marks_empty (ids : Finset String) : empty.marks ids = 0 :=
  Finset.sum_eq_zero fun _ _ ↦ rfl

/-- A vector that dominates another has no fewer marks. -/
theorem marks_le_of_dominates (h : a.dominates b = true) : b.marks ids ≤ a.marks ids :=
  Finset.sum_le_sum fun id _ ↦ UInt64.le_iff_toNat_le.1 (get_le_of_dominates h id)

/-- One entry is no more than all together. -/
theorem toNat_get_le_marks (h : id ∈ ids) : (a.get id).toNat ≤ a.marks ids :=
  Finset.single_le_sum (f := fun id ↦ (a.get id).toNat) (fun _ _ ↦ Nat.zero_le _) h

/-- Merging in a vector without marks adds none. -/
theorem marks_merge (h : ∀ id ∈ ids, b.get id = 0) : (a.merge b).marks ids = a.marks ids := by
  refine Finset.sum_congr rfl fun id hid ↦ ?_
  rw [get_merge, UInt64.toNat_max, h id hid]
  exact Nat.max_zero _

/-- Below the largest word, raising the entry of a receiver is one mark more. -/
theorem marks_increment (h : id ∈ ids) (hlast : (a.get id).toNat + 1 < UInt64.size) :
    (a.increment id).marks ids = a.marks ids + 1 := by
  have hraised : ((a.increment id).get id).toNat = (a.get id).toNat + 1 := by
    rw [get_increment, if_pos rfl, toNat_bump hlast]
  have hothers : ∑ other ∈ ids.erase id, ((a.increment id).get other).toNat =
      ∑ other ∈ ids.erase id, (a.get other).toNat :=
    Finset.sum_congr rfl fun other hother ↦ by
      rw [get_increment, if_neg (Finset.ne_of_mem_erase hother)]
  rw [marks, marks, ← Finset.add_sum_erase ids _ h, ← Finset.add_sum_erase ids _ h, hraised,
    hothers]
  omega

end VersionVector

namespace Replica

variable {ids : Finset String} {n n' unstored unstored' : Nat} {r r' : Replica} {m : Message}
  {outcome : ProcessOutcome}

/-- A stored reading is one mark more, as long as marks and messages fit into a word. -/
theorem marks_of_process (hid : r.id ∈ ids) (hmarks : ∀ id ∈ ids, m.vector.get id = 0)
    (hfew : r.vector.marks ids + 1 < UInt64.size) (hprocess : r.process m = .ok (outcome, r')) :
    r'.vector.marks ids = r.vector.marks ids + outcome.isStored.toNat := by
  obtain ⟨-, -, hvector⟩ := vector_of_process hprocess
  have hmerged : (r.vector.merge m.vector).marks ids = r.vector.marks ids :=
    VersionVector.marks_merge hmarks
  rw [hvector]
  cases outcome.isStored with
  | false => exact hmerged
  | true =>
    -- the own mark is one of them, so it is far from the largest word
    have hown := VersionVector.toNat_get_le_marks (a := r.vector.merge m.vector) hid
    have hlast : ((r.vector.merge m.vector).get r.id).toNat + 1 < UInt64.size := by omega
    exact (VersionVector.marks_increment hid hlast).trans (congrArg (· + 1) hmerged)

/-- The data stem from at most `n` messages, of which at most `unstored` were no stored readings:
what is counted beyond the marks are such messages. -/
structure Tallied (ids : Finset String) (n unstored : Nat) (r : Replica) : Prop where
  marks_le : r.vector.marks ids ≤ r.total.toNat
  le_marks : r.total.toNat ≤ r.vector.marks ids + unstored
  le_messages : r.total.toNat ≤ n

theorem Tallied.mono (h : r.Tallied ids n unstored) (hn : n ≤ n')
    (hunstored : unstored ≤ unstored') :
    r.Tallied ids n' unstored' where
  marks_le := h.marks_le
  le_marks := Nat.le_trans h.le_marks (Nat.add_le_add_left hunstored _)
  le_messages := Nat.le_trans h.le_messages hn

theorem tallied_new (ids : Finset String) (n unstored : Nat) (id address : String) :
    (new id address).Tallied ids n unstored where
  marks_le := Nat.le_of_eq (VersionVector.marks_empty ids)
  le_marks := Nat.zero_le _
  le_messages := Nat.zero_le _

/-- What is copied takes the marks and the count along, so a tally is inherited. -/
theorem heritable_tallied (ids : Finset String) (n unstored : Nat) :
    Heritable (Tallied ids n unstored) where
  lifecycle _ _ h := ⟨h.marks_le, h.le_marks, h.le_messages⟩
  conflict h := ⟨h.marks_le, h.le_marks, h.le_messages⟩
  restore now h hsource := by
    rw [restore]
    split
    · exact ⟨hsource.marks_le, hsource.le_marks, hsource.le_messages⟩
    · exact h
  forget _ h := ⟨h.marks_le, h.le_marks, h.le_messages⟩

/-- **One message** is one more in the count, and one more among the marks if it is stored. -/
theorem Tallied.process (h : r.Tallied ids n unstored) (hid : r.id ∈ ids)
    (hmarks : ∀ id ∈ ids, m.vector.get id = 0) (hn : n + 1 < UInt64.size)
    (hprocess : r.process m = .ok (outcome, r')) :
    r'.Tallied ids (n + 1) (unstored + (!outcome.isStored).toNat) := by
  obtain ⟨-, htotal, -⟩ := vector_of_process hprocess
  obtain ⟨hle, hge, hmessages⟩ := h
  have hcount : r'.total.toNat = r.total.toNat + 1 := by
    rw [htotal, Counter.toNat_increment (by omega)]
  have hstored := marks_of_process hid hmarks (by omega) hprocess
  refine ⟨?_, ?_, ?_⟩ <;> rw [hcount]
  · have := Bool.toNat_le outcome.isStored
    omega
  · cases houtcome : outcome.isStored <;> simp only [houtcome, Bool.not_true, Bool.not_false,
      Bool.toNat_true, Bool.toNat_false] at hstored ⊢ <;> omega
  · omega

end Replica

end SensorCluster
