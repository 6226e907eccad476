import SensorCluster.Fleet
import Mathlib.Data.List.Nodup

/-!
# Rosters of a fleet

What the operations on a fleet do to the numbers it holds and to the ids that a roster shows.

**Nobody changes its id**: a receiver is only ever replaced by one of the same id, so the ids of a
roster change with the roster alone. A roster whose ids are distinct names each receiver once, and
taking out the one that a look-up found is the same as dismissing its id (`erase_eq_dismiss`).
-/

namespace SensorCluster

namespace Fleet

variable {f : Fleet} {roster : Roster} {ref other : ReplicaRef} {id : String}

/-! ### Receivers that exist -/

instance (f : Fleet) (ref : ReplicaRef) : Decidable (f.Holds ref) :=
  inferInstanceAs (Decidable (ref < f.replicas.length))

/-- A number that is nobody's reads as a receiver that never was. -/
theorem get_of_not_holds (h : ¬f.Holds ref) : f.get ref = default := by
  rw [get, List.getD_eq_getElem?_getD, List.getElem?_eq_none (Nat.le_of_not_lt h)]
  rfl

/-- Who runs exists. -/
theorem holds_of_isRunning (h : (f.get ref).isRunning = true) : f.Holds ref := by
  by_contra hout
  rw [get_of_not_holds hout] at h
  exact absurd h (by decide)

@[simp] theorem holds_set (ref other : ReplicaRef) (r : Replica) :
    (f.set ref r).Holds other ↔ f.Holds other := by
  simp [Holds, set]

/-- A number that is nobody's stays nobody's. -/
theorem set_of_not_holds (h : ¬f.Holds ref) (r : Replica) : f.set ref r = f := by
  rw [set, List.set_eq_of_length_le (Nat.le_of_not_lt h)]

/-- Who is not put in place stays as he is. -/
theorem get_set_cases (f : Fleet) (ref other : ReplicaRef) (r : Replica) :
    (f.set ref r).get other = f.get other ∨ other = ref ∧ (f.set ref r).get other = r := by
  by_cases h : f.Holds ref
  · rw [get_set h]
    split
    · next heq => exact .inr ⟨heq, rfl⟩
    · exact .inl rfl
  · exact .inl (by rw [set_of_not_holds h])

/-- Nobody is lost when another one comes. -/
theorem holds_add_of_holds (h : f.Holds ref) (r : Replica) : (f.add r).2.Holds ref := by
  show ref < (f.replicas ++ [r]).length
  rw [List.length_append]
  exact Nat.lt_add_right _ h

/-- Beside the new receiver nobody is another one. -/
theorem get_add_cases (f : Fleet) (r : Replica) (other : ReplicaRef) :
    (f.add r).2.get other = f.get other ∨ (f.add r).2.get other = r := by
  rcases Nat.lt_trichotomy other f.replicas.length with hlt | rfl | hgt
  · exact .inl (get_add_of_holds hlt r)
  · exact .inr (f.get_add_self r)
  · have hnobody : ¬(f.add r).2.Holds other := by
      show ¬other < (f.replicas ++ [r]).length
      rw [List.length_append]
      exact Nat.not_lt_of_le hgt
    have hnone : ¬f.Holds other := fun hother ↦ hnobody (holds_add_of_holds hother r)
    exact .inl ((get_of_not_holds hnobody).trans (get_of_not_holds hnone).symm)

theorem holds_add_self (r : Replica) : (f.add r).2.Holds (f.add r).1 := by
  simp [Holds, add]

/-- What all receivers have, all receivers have when one is put in place that has it. -/
theorem forall_get_set {P : Replica → Prop} (h : ∀ ref, P (f.get ref)) {r : Replica} (hr : P r)
    (ref other : ReplicaRef) : P ((f.set ref r).get other) := by
  rcases f.get_set_cases ref other r with hsame | ⟨-, hnew⟩
  · rw [hsame]
    exact h other
  · rwa [hnew]

/-! ### Ids -/

/-- What a receiver has in common with the one in whose place it is put, everybody keeps. -/
theorem apply_get_set {α : Type} (g : Replica → α) {r : Replica} (h : g r = g (f.get ref))
    (other : ReplicaRef) : g ((f.set ref r).get other) = g (f.get other) := by
  rcases f.get_set_cases ref other r with hsame | ⟨rfl, hnew⟩
  · rw [hsame]
  · rw [hnew, h]

/-- A roster shows the same ids, whoever is replaced by one of his id. -/
theorem ids_set {r : Replica} (h : r.id = (f.get ref).id) (roster : Roster) :
    (f.set ref r).ids roster = f.ids roster :=
  List.map_congr_left fun other _ ↦ apply_get_set Replica.id h other

/-- A newcomer changes no roster's ids, since it lists him nowhere. -/
theorem ids_add (h : ∀ ref ∈ roster, f.Holds ref) (r : Replica) :
    (f.add r).2.ids roster = f.ids roster :=
  List.map_congr_left fun ref href ↦ by rw [get_add_of_holds (h ref href)]

theorem ids_append (more : Roster) : f.ids (roster ++ more) = f.ids roster ++ f.ids more :=
  List.map_append

/-- A roster lists an id if it shows it. -/
theorem lists_iff : f.lists roster id = true ↔ id ∈ f.ids roster := by
  simp [lists, ids]

/-- A roster with distinct ids has one receiver of an id. -/
theorem eq_of_id_eq (h : (f.ids roster).Nodup) (href : ref ∈ roster) (hother : other ∈ roster)
    (hid : (f.get ref).id = (f.get other).id) : ref = other :=
  List.inj_on_of_nodup_map h href hother hid

/-! ### Look-ups -/

/-- A look-up finds somebody of the id who is listed. -/
theorem mem_of_find? (h : f.find? roster id = some ref) :
    ref ∈ roster ∧ (f.get ref).id = id :=
  ⟨List.mem_of_find?_eq_some h, by simpa using List.find?_some h⟩

/-- Who is listed is found by its id, where ids are distinct. -/
theorem find?_of_mem (hids : (f.ids roster).Nodup) (href : ref ∈ roster) :
    f.find? roster (f.get ref).id = some ref := by
  cases hfind : f.find? roster (f.get ref).id with
  | none =>
    rw [find?, List.find?_eq_none] at hfind
    exact absurd (decide_eq_true rfl) (hfind ref href)
  | some other =>
    obtain ⟨hother, hid⟩ := mem_of_find? hfind
    rw [eq_of_id_eq hids hother href hid]

/-- Who is not listed yet is listed last. -/
theorem enlist_of_not_mem (h : (f.get ref).id ∉ f.ids roster) :
    f.enlist roster ref = some (roster ++ [ref]) :=
  if_neg fun hlists ↦ h (lists_iff.1 hlists)

/-! ### Leaving -/

/-- Only those of the id are dismissed. -/
theorem mem_dismiss : ref ∈ f.dismiss roster id ↔ ref ∈ roster ∧ (f.get ref).id ≠ id := by
  simp [dismiss]

/-- Who is left stays in order. -/
theorem ids_dismiss_sublist : (f.ids (f.dismiss roster id)).Sublist (f.ids roster) :=
  List.filter_sublist.map _

/-- Among distinct ids, the receiver that a look-up finds is all that a dismissal takes out. -/
theorem erase_eq_dismiss (hids : (f.ids roster).Nodup) (h : f.find? roster id = some ref) :
    roster.erase ref = f.dismiss roster id := by
  obtain ⟨href, hid⟩ := mem_of_find? h
  have hroster : roster.Nodup := List.Nodup.of_map _ hids
  rw [hroster.erase_eq_filter, dismiss]
  refine List.filter_congr fun other hother ↦ ?_
  have hiff : other ≠ ref ↔ (f.get other).id ≠ id := by
    rw [← hid]
    exact not_congr ⟨fun heq ↦ by rw [heq], fun heq ↦ eq_of_id_eq hids hother href heq⟩
  exact Bool.eq_iff_iff.2 (by simpa using hiff)

/-- To take out the receiver that a look-up finds is to take out its id. -/
theorem ids_erase (h : f.find? roster id = some ref) :
    f.ids (roster.erase ref) = (f.ids roster).erase id := by
  obtain ⟨-, hid⟩ := mem_of_find? h
  induction roster with
  | nil => rfl
  | cons head rest ih =>
    by_cases hhead : (f.get head).id = id
    · -- the look-up finds the first one of the id
      have hfound : f.find? (head :: rest) id = some head :=
        List.find?_cons_of_pos (by simpa using hhead)
      obtain rfl := Option.some.inj (hfound.symm.trans h)
      rw [List.erase_cons_head]
      show f.ids rest = ((f.get head).id :: f.ids rest).erase id
      rw [hhead, List.erase_cons_head]
    -- it finds somebody behind the first one, who therefore stays
    · have hrest : f.find? rest id = some ref :=
        (List.find?_cons_of_neg (by simpa using hhead)).symm.trans h
      have hne : head ≠ ref := fun heq ↦ hhead (heq ▸ hid)
      rw [List.erase_cons_tail (by simpa using hne)]
      show (f.get head).id :: f.ids (rest.erase ref) = ((f.get head).id :: f.ids rest).erase id
      rw [List.erase_cons_tail (by simpa using hhead), ih hrest]

/-! ### The most complete peer -/

theorem mem_running : ref ∈ f.running roster ↔ ref ∈ roster ∧ (f.get ref).isRunning = true :=
  List.mem_filter

/-- The running ones of any roster exist. -/
theorem holds_of_mem_running (h : ref ∈ f.running roster) : f.Holds ref :=
  holds_of_isRunning (mem_running.1 h).2

/-- The most complete peer is listed. -/
theorem mem_of_mostComplete? {excluded : String}
    (h : f.mostComplete? roster excluded = some ref) : ref ∈ roster := by
  -- along the roster the best so far is the one from before or a listed one
  have hfold : ∀ (step : Option ReplicaRef → ReplicaRef → Option ReplicaRef),
      (∀ best other, step best other = best ∨ step best other = some other) →
      ∀ (rest : Roster) (best : Option ReplicaRef), rest.foldl step best = some ref →
        best = some ref ∨ ref ∈ rest := by
    intro step hstep rest
    induction rest with
    | nil => exact fun best h ↦ .inl h
    | cons other rest ih =>
      intro best h
      rcases ih _ h with h | h
      · rcases hstep best other with hsame | hnew
        · exact .inl (hsame ▸ h)
        · rw [hnew] at h
          exact .inr (List.mem_cons.2 (.inl (Option.some.inj h).symm))
      · exact .inr (List.mem_cons_of_mem _ h)
  refine (hfold _ (fun best other ↦ ?_) roster none h).resolve_left (by simp)
  dsimp only
  split
  · exact .inl rfl
  · cases best with
    | none => exact .inr rfl
    | some b =>
      dsimp only
      split
      · exact .inl rfl
      · exact .inr rfl

end Fleet

end SensorCluster
