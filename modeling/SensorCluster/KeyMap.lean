/-!
# Maps kept in key order

A `KeyMap α` is a finite map from text keys to values, stored as its list of entries in strictly
increasing key order. **One map has one representation**: two maps with the same look-ups are
equal (`KeyMap.ext_get?`), so laws about merging are equalities of values and not equivalences,
and every listing of a map is sorted without a sorting step.

Keys are compared as text is compared, by code points.
-/

namespace SensorCluster

universe u

/-- A finite map from text keys to values, as a list of entries in strictly increasing key
order. -/
structure KeyMap (α : Type u) where
  /-- The entries, smallest key first. -/
  entries : List (String × α)
  /-- No key occurs twice, and the keys increase. -/
  ordered : entries.Pairwise fun a b ↦ a.1 < b.1

namespace KeyMap

variable {α : Type u}

/-! ### Operations on lists of entries -/

/-- The value listed for a key. -/
def lookup (k : String) : List (String × α) → Option α
  | [] => none
  | (k', v) :: rest => if k = k' then some v else lookup k rest

/-- Puts an entry at its place in an increasing list, over an entry of the same key. -/
def place (k : String) (v : α) : List (String × α) → List (String × α)
  | [] => [(k, v)]
  | (k', v') :: rest =>
    if k < k' then (k, v) :: (k', v') :: rest
    else if k = k' then (k, v) :: rest
    else (k', v') :: place k v rest

/-- Placing an entry brings in that entry and no other. -/
theorem mem_place {k : String} {v : α} {e : String × α} {l : List (String × α)}
    (h : e ∈ place k v l) : e = (k, v) ∨ e ∈ l := by
  induction l with
  | nil => simpa [place] using h
  | cons head rest ih =>
    obtain ⟨k', v'⟩ := head
    rw [place] at h
    split at h
    · simpa using h
    · split at h
      · rcases List.mem_cons.1 h with h | h
        · exact .inl h
        · exact .inr (List.mem_cons_of_mem _ h)
      · rcases List.mem_cons.1 h with h | h
        · exact .inr (by simp [h])
        · exact (ih h).imp id (List.mem_cons_of_mem _)

/-- An increasing list stays increasing. -/
theorem pairwise_place (k : String) (v : α) {l : List (String × α)}
    (h : l.Pairwise fun a b ↦ a.1 < b.1) :
    (place k v l).Pairwise fun a b ↦ a.1 < b.1 := by
  induction l with
  | nil => simp [place]
  | cons head rest ih =>
    obtain ⟨k', v'⟩ := head
    obtain ⟨hhead, hrest⟩ := List.pairwise_cons.1 h
    rw [place]
    split
    · next hlt =>
      refine List.pairwise_cons.2 ⟨fun e he ↦ ?_, h⟩
      rcases List.mem_cons.1 he with rfl | he
      · exact hlt
      · exact String.lt_trans hlt (hhead e he)
    · next hnlt =>
      split
      · next heq =>
        subst heq
        exact List.pairwise_cons.2 ⟨hhead, hrest⟩
      · next hne =>
        refine List.pairwise_cons.2 ⟨fun e he ↦ ?_, ih hrest⟩
        rcases mem_place he with rfl | he
        · exact Std.lt_of_le_of_ne (Std.not_lt.1 hnlt) (Ne.symm hne)
        · exact hhead e he

/-- A list grows by at most one entry. -/
theorem length_place_le (k : String) (v : α) (l : List (String × α)) :
    (place k v l).length ≤ l.length + 1 := by
  induction l with
  | nil => exact Nat.le_refl _
  | cons head rest ih =>
    obtain ⟨k', v'⟩ := head
    rw [place]
    split
    · exact Nat.le_refl _
    · split
      · exact Nat.le_succ _
      · exact Nat.succ_le_succ ih

/-! ### Maps -/

/-- The map with no entries. -/
def empty : KeyMap α := ⟨[], List.Pairwise.nil⟩

instance : Inhabited (KeyMap α) := ⟨empty⟩

/-- The value held under a key. -/
def get? (m : KeyMap α) (k : String) : Option α := lookup k m.entries

/-- Holds `v` under `k`, over whatever was held there. -/
def insert (m : KeyMap α) (k : String) (v : α) : KeyMap α :=
  ⟨place k v m.entries, pairwise_place k v m.ordered⟩

/-- Holds nothing under `k`. -/
def erase (m : KeyMap α) (k : String) : KeyMap α :=
  ⟨m.entries.filter fun e ↦ e.1 ≠ k, m.ordered.filter _⟩

/-- Is something held under `k`? -/
def contains (m : KeyMap α) (k : String) : Bool := (m.get? k).isSome

/-- The number of entries. -/
def size (m : KeyMap α) : Nat := m.entries.length

/-- Is nothing held at all? -/
def isEmpty (m : KeyMap α) : Bool := m.entries.isEmpty

/-- The keys, smallest first. -/
def keys (m : KeyMap α) : List String := m.entries.map (·.1)

/-- The values, in the order of their keys. -/
def values (m : KeyMap α) : List α := m.entries.map (·.2)

/-- The map of a list of entries; of two entries with one key the later counts. -/
def ofList (l : List (String × α)) : KeyMap α := l.foldl (fun m e ↦ m.insert e.1 e.2) empty

/-- All entries of both maps; a key of both holds the two values combined. -/
def mergeWith (combine : α → α → α) (a b : KeyMap α) : KeyMap α :=
  b.entries.foldl
    (fun m e ↦ m.insert e.1 (match m.get? e.1 with
      | none => e.2
      | some v => combine v e.2))
    a

/-! ### Look-ups after an operation -/

/-- The placed entry is the one that its key finds. -/
theorem lookup_place_self (k : String) (v : α) (l : List (String × α)) :
    lookup k (place k v l) = some v := by
  induction l with
  | nil => simp [place, lookup]
  | cons head rest ih =>
    obtain ⟨k', v'⟩ := head
    rw [place]
    split
    · simp [lookup]
    · split
      · simp [lookup]
      · next hne => simp [lookup, hne, ih]

/-- All other keys find what they found before. -/
theorem lookup_place_of_ne {j k : String} (v : α) (l : List (String × α)) (h : j ≠ k) :
    lookup j (place k v l) = lookup j l := by
  induction l with
  | nil => simp [place, lookup, h]
  | cons head rest ih =>
    obtain ⟨k', v'⟩ := head
    rw [place]
    split
    · simp [lookup, h]
    · split
      · next heq => subst heq; simp [lookup, h]
      · simp [lookup, ih]

@[simp] theorem get?_empty (k : String) : (empty : KeyMap α).get? k = none := rfl

@[simp] theorem get?_insert_self (m : KeyMap α) (k : String) (v : α) :
    (m.insert k v).get? k = some v := lookup_place_self k v m.entries

theorem get?_insert_of_ne (m : KeyMap α) {j k : String} (v : α) (h : j ≠ k) :
    (m.insert k v).get? j = m.get? j := lookup_place_of_ne v m.entries h

/-- An insertion changes what one key finds. -/
theorem get?_insert (m : KeyMap α) (j k : String) (v : α) :
    (m.insert k v).get? j = if j = k then some v else m.get? j := by
  split
  · next h => subst h; exact get?_insert_self m j v
  · next h => exact get?_insert_of_ne m v h

/-- A removal empties one key. -/
theorem get?_erase (m : KeyMap α) (j k : String) :
    (m.erase k).get? j = if j = k then none else m.get? j := by
  obtain ⟨l, hl⟩ := m
  simp only [erase, get?]
  clear hl
  induction l with
  | nil => simp [lookup]
  | cons head rest ih =>
    obtain ⟨k', v'⟩ := head
    by_cases hk : k' = k
    · subst hk
      simp only [ne_eq, not_true_eq_false, decide_false, Bool.false_eq_true, not_false_eq_true,
        List.filter_cons_of_neg, ih, lookup]
      split <;> rfl
    · simp only [ne_eq, hk, not_false_eq_true, decide_true, List.filter_cons_of_pos, lookup, ih]
      by_cases hj : j = k'
      · subst hj; simp [hk]
      · simp [hj]

/-- What a key finds is listed under it. -/
theorem mem_entries_of_lookup {k : String} {v : α} {l : List (String × α)}
    (h : lookup k l = some v) : (k, v) ∈ l := by
  induction l with
  | nil => simp [lookup] at h
  | cons head rest ih =>
    obtain ⟨k', v'⟩ := head
    rw [lookup] at h
    split at h
    · next heq => subst heq; cases h; exact List.mem_cons_self
    · exact List.mem_cons_of_mem _ (ih h)

/-- In an increasing list each entry is found by its key, for no entry before it has that key. -/
theorem lookup_eq_some_of_mem {k : String} {v : α} {l : List (String × α)}
    (hl : l.Pairwise fun a b ↦ a.1 < b.1) (h : (k, v) ∈ l) : lookup k l = some v := by
  induction l with
  | nil => cases h
  | cons head rest ih =>
    obtain ⟨k', v'⟩ := head
    obtain ⟨hhead, hrest⟩ := List.pairwise_cons.1 hl
    rw [lookup]
    rcases List.mem_cons.1 h with h | h
    · cases h; simp
    · have hlt := hhead _ h
      rw [if_neg, ih hrest h]
      rintro rfl
      exact String.lt_irrefl _ hlt

/-- Look-ups and the listing say the same. -/
theorem get?_eq_some_iff (m : KeyMap α) (k : String) (v : α) :
    m.get? k = some v ↔ (k, v) ∈ m.entries :=
  ⟨mem_entries_of_lookup, lookup_eq_some_of_mem m.ordered⟩

/-- The entries of one key are the one that its look-up finds, or none. -/
theorem filter_entries (m : KeyMap α) (k : String) :
    m.entries.filter (·.1 = k) = ((m.get? k).map fun v ↦ (k, v)).toList := by
  obtain ⟨l, hl⟩ := m
  simp only [get?]
  induction l with
  | nil => rfl
  | cons head rest ih =>
    obtain ⟨hhead, hrest⟩ := List.pairwise_cons.1 hl
    obtain ⟨k', v⟩ := head
    by_cases heq : k = k'
    · subst heq
      have hnone : rest.filter (·.1 = k) = [] := by
        refine List.filter_eq_nil_iff.2 fun e he hkey ↦ ?_
        have hlt : k < e.1 := hhead e he
        rw [of_decide_eq_true hkey] at hlt
        exact String.lt_irrefl _ hlt
      rw [List.filter_cons_of_pos (by simp), hnone, lookup, if_pos rfl]
      rfl
    · rw [List.filter_cons_of_neg (by simpa using Ne.symm heq), ih hrest, lookup, if_neg heq]

/-- No key is listed twice. -/
theorem nodup_keys (m : KeyMap α) : m.keys.Nodup := by
  refine List.pairwise_map.2 (m.ordered.imp fun {a b} hlt heq ↦ ?_)
  rw [heq] at hlt
  exact String.lt_irrefl _ hlt

/-- The keys are those under which something is held. -/
theorem mem_keys_iff (m : KeyMap α) (k : String) : k ∈ m.keys ↔ (m.get? k).isSome = true := by
  rw [Option.isSome_iff_exists, keys, List.mem_map]
  constructor
  · rintro ⟨⟨k', v⟩, hmem, rfl⟩
    exact ⟨v, (m.get?_eq_some_iff k' v).2 hmem⟩
  · rintro ⟨v, hget⟩
    exact ⟨(k, v), (m.get?_eq_some_iff k v).1 hget, rfl⟩

/-- A key below all keys of a list is not among them. -/
theorem lookup_eq_none_of_lt {k : String} {l : List (String × α)}
    (h : ∀ e ∈ l, k < e.1) : lookup k l = none := by
  cases hl : lookup k l with
  | none => rfl
  | some v => exact absurd (h _ (mem_entries_of_lookup hl)) (String.lt_irrefl k)

/-- What a merged map holds under a key, from what the two maps hold. -/
def combined (combine : α → α → α) : Option α → Option α → Option α
  | some v, some w => some (combine v w)
  | some v, none => some v
  | none, other => other

/-- Under each key a merged map holds the two values combined, or the one that there is. -/
theorem get?_mergeWith (combine : α → α → α) (a b : KeyMap α) (k : String) :
    (a.mergeWith combine b).get? k = combined combine (a.get? k) (b.get? k) := by
  obtain ⟨l, hl⟩ := b
  simp only [mergeWith, get?]
  induction l generalizing a with
  | nil => cases h : lookup k a.entries <;> simp [lookup, combined, h]
  | cons head rest ih =>
    obtain ⟨hhead, hrest⟩ := List.pairwise_cons.1 hl
    -- the first entry goes into `a`; no later entry has its key, so it is combined once
    rw [List.foldl_cons, ih _ hrest]
    obtain ⟨k', w⟩ := head
    change combined combine ((a.insert k' _).get? k) _ = _
    rw [get?_insert, lookup]
    split
    · next h =>
      subst h
      rw [lookup_eq_none_of_lt fun e he ↦ hhead e he]
      cases ha : a.get? k <;> simp [get?] at ha <;> simp [combined, ha]
    · rfl

/-- A map is determined by its look-ups. -/
theorem ext_get? {a b : KeyMap α} (h : ∀ k, a.get? k = b.get? k) : a = b := by
  obtain ⟨la, ha⟩ := a
  obtain ⟨lb, hb⟩ := b
  suffices hl : la = lb by subst hl; rfl
  have hmem : ∀ e : String × α, e ∈ la ↔ e ∈ lb := by
    rintro ⟨k, v⟩
    rw [← get?_eq_some_iff ⟨la, ha⟩, ← get?_eq_some_iff ⟨lb, hb⟩, h]
  clear h
  -- two increasing lists with the same members are equal, entry by entry
  induction la generalizing lb with
  | nil =>
    cases lb with
    | nil => rfl
    | cons e rest => exact absurd ((hmem e).2 List.mem_cons_self) (by simp)
  | cons x xs ih =>
    cases lb with
    | nil => exact absurd ((hmem x).1 List.mem_cons_self) (by simp)
    | cons y ys =>
      obtain ⟨hx, hxs⟩ := List.pairwise_cons.1 ha
      obtain ⟨hy, hys⟩ := List.pairwise_cons.1 hb
      have hxy : x = y := by
        rcases List.mem_cons.1 ((hmem x).1 List.mem_cons_self) with h | h
        · exact h
        · rcases List.mem_cons.1 ((hmem y).2 List.mem_cons_self) with h' | h'
          · exact h'.symm
          · exact absurd (String.lt_trans (hy _ h) (hx _ h')) (String.lt_irrefl _)
      subst hxy
      congr 1
      refine ih hxs ys hys fun e ↦ ⟨fun he ↦ ?_, fun he ↦ ?_⟩
      · rcases List.mem_cons.1 ((hmem e).1 (List.mem_cons_of_mem _ he)) with rfl | h
        · exact absurd (hx _ he) (String.lt_irrefl _)
        · exact h
      · rcases List.mem_cons.1 ((hmem e).2 (List.mem_cons_of_mem _ he)) with rfl | h
        · exact absurd (hy _ he) (String.lt_irrefl _)
        · exact h

/-- Where nothing is held there is nothing to take out. -/
theorem erase_of_get?_eq_none {m : KeyMap α} {k : String} (h : m.get? k = none) :
    m.erase k = m := by
  refine ext_get? fun j ↦ ?_
  rw [get?_erase]
  split
  · next heq => rw [heq, h]
  · rfl

/-! ### Laws of merging -/

section merging

variable {combine : α → α → α}

/-- Combining look-ups takes over the laws of the operation on values: commutativity, -/
theorem combined_comm (h : ∀ v w, combine v w = combine w v) (x y : Option α) :
    combined combine x y = combined combine y x := by
  cases x <;> cases y <;> simp [combined, h]

/-- associativity, -/
theorem combined_assoc (h : ∀ u v w, combine (combine u v) w = combine u (combine v w))
    (x y z : Option α) :
    combined combine (combined combine x y) z = combined combine x (combined combine y z) := by
  cases x <;> cases y <;> cases z <;> simp [combined, h]

/-- and idempotence. -/
theorem combined_self (h : ∀ v, combine v v = v) (x : Option α) : combined combine x x = x := by
  cases x <;> simp [combined, h]

/-- Merging is commutative, if combining two values is. -/
theorem mergeWith_comm (h : ∀ v w, combine v w = combine w v) (a b : KeyMap α) :
    a.mergeWith combine b = b.mergeWith combine a := by
  refine ext_get? fun k ↦ ?_
  rw [get?_mergeWith, get?_mergeWith, combined_comm h]

/-- Merging is associative, if combining values is. -/
theorem mergeWith_assoc (h : ∀ u v w, combine (combine u v) w = combine u (combine v w))
    (a b c : KeyMap α) :
    (a.mergeWith combine b).mergeWith combine c = a.mergeWith combine (b.mergeWith combine c) := by
  refine ext_get? fun k ↦ ?_
  simp only [get?_mergeWith, combined_assoc h]

/-- A map merged with itself is the same map, if this is so of each value. -/
theorem mergeWith_self (h : ∀ v, combine v v = v) (a : KeyMap α) : a.mergeWith combine a = a := by
  refine ext_get? fun k ↦ ?_
  rw [get?_mergeWith, combined_self h]

/-- A merged map has the keys of both. -/
theorem mem_keys_mergeWith (a b : KeyMap α) (k : String) :
    k ∈ (a.mergeWith combine b).keys ↔ k ∈ a.keys ∨ k ∈ b.keys := by
  rw [mem_keys_iff, mem_keys_iff, mem_keys_iff, get?_mergeWith]
  cases a.get? k <;> cases b.get? k <;> simp [combined]

end merging

end KeyMap

end SensorCluster
