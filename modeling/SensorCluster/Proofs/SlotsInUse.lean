import SensorCluster.Proofs.FillingUp

/-!
# The slots in use

`BackupPool.inUse` lists the ids of the slots that are in use. Two operations change it: a pass that
delivers a receiver puts the id of its slot on the list, and a release takes an id off it.

The in-memory provisioner never refuses, so of its passes there is little to say (`Pass.inMemory`):
the first available slot delivers, and when none is available nothing happens at all.
-/

namespace SensorCluster

namespace BackupPool

variable {history asked : List String} {slots slots' : List BackupSlot} {gone : List Abandonment}
  {r : Option Replica} {id other : String}

/-- The ids of the slots in use, in the order of the pool. -/
def inUse (slots : List BackupSlot) : List String :=
  (slots.filter (·.state = .inUse)).map (·.config.id)

theorem mem_inUse :
    id ∈ inUse slots ↔ ∃ slot ∈ slots, slot.state = .inUse ∧ slot.config.id = id := by
  simp [inUse, and_assoc]

theorem inUse_append (front back : List BackupSlot) :
    inUse (front ++ back) = inUse front ++ inUse back := by
  rw [inUse, List.filter_append, List.map_append]
  rfl

theorem inUse_cons_of_eq {slot : BackupSlot} (h : slot.state = .inUse) (rest : List BackupSlot) :
    inUse (slot :: rest) = slot.config.id :: inUse rest := by
  rw [inUse, List.filter_cons_of_pos (by simpa using h)]
  rfl

theorem inUse_cons_of_ne {slot : BackupSlot} (h : slot.state ≠ .inUse) (rest : List BackupSlot) :
    inUse (slot :: rest) = inUse rest := by
  rw [inUse, List.filter_cons_of_neg (by simpa using h)]
  rfl

/-- Who is in use is a slot of the pool. -/
theorem mem_ids_of_mem_inUse (h : id ∈ inUse slots) : id ∈ slots.map (·.config.id) := by
  obtain ⟨slot, hslot, -, rfl⟩ := mem_inUse.1 h
  exact List.mem_map.2 ⟨slot, hslot, rfl⟩

/-- A slot among distinct ones is in use when its id is. -/
theorem state_eq_inUse_iff (hdistinct : (slots.map (·.config.id)).Nodup) {slot : BackupSlot}
    (hslot : slot ∈ slots) : slot.state = .inUse ↔ slot.config.id ∈ inUse slots := by
  refine ⟨fun hstate ↦ mem_inUse.2 ⟨slot, hslot, hstate, rfl⟩, fun hid ↦ ?_⟩
  obtain ⟨used, hused, hstate, hsame⟩ := mem_inUse.1 hid
  rwa [← List.inj_on_of_nodup_map hdistinct hused hslot hsame]

/-! ### Releases -/

theorem ids_release (id : String) (slots : List BackupSlot) :
    (release id slots).1.map (·.config.id) = slots.map (·.config.id) := by
  rcases release_spec id slots with heq | ⟨front, slot, back, hslots, -, ⟨-, heq⟩ | ⟨-, heq⟩⟩ <;>
    rw [heq]
  · simp [hslots]
  · simp [hslots]

/-- **A release takes its id off the list**, and nobody else's. -/
theorem mem_inUse_release (hdistinct : (slots.map (·.config.id)).Nodup) :
    other ∈ inUse (release id slots).1 ↔ other ∈ inUse slots ∧ other ≠ id := by
  induction slots with
  | nil => simp [release, inUse]
  | cons slot rest ih =>
    obtain ⟨hnew, hrest⟩ := List.nodup_cons.1 hdistinct
    rw [release]
    split
    · next hslot =>
      obtain ⟨rfl, hstate⟩ := hslot
      -- the ids are distinct, so nobody behind the slot is in use under its id
      have hgone : other ∈ inUse rest ↔
          other ∈ inUse (slot :: rest) ∧ other ≠ slot.config.id := by
        rw [inUse_cons_of_eq hstate, List.mem_cons]
        constructor
        · refine fun hother ↦ ⟨.inr hother, ?_⟩
          rintro rfl
          exact hnew (mem_ids_of_mem_inUse hother)
        · rintro ⟨hother, hne⟩
          exact hother.resolve_left hne
      rw [← hgone]
      split
      · rw [inUse_cons_of_ne SlotState.noConfusion]
      · rw [inUse_cons_of_ne SlotState.noConfusion]
    · next hslot =>
      show other ∈ inUse (slot :: (release id rest).1) ↔ _
      by_cases hstate : slot.state = .inUse
      · have hne : slot.config.id ≠ id := fun hid ↦ hslot ⟨hid, hstate⟩
        rw [inUse_cons_of_eq hstate, inUse_cons_of_eq hstate, List.mem_cons,
          List.mem_cons, ih hrest]
        constructor
        · rintro (rfl | ⟨hother, hother_ne⟩)
          · exact ⟨.inl rfl, hne⟩
          · exact ⟨.inr hother, hother_ne⟩
        · rintro ⟨rfl | hother, hother_ne⟩
          · exact .inl rfl
          · exact .inr ⟨hother, hother_ne⟩
      · rw [inUse_cons_of_ne hstate, inUse_cons_of_ne hstate, ih hrest]

/-! ### Passes -/

/-- **A pass of the in-memory provisioner** takes the first available slot into use, or finds none
and leaves everything as it is. -/
theorem Pass.inMemory {provisioner : Provisioner} (hprovisioner : provisioner = .inMemory)
    (h : Pass provisioner history slots slots' asked gone r) :
    (r = none ∧ slots' = slots ∧ asked = []) ∨
    ∃ front slot back, slots = front ++ slot :: back ∧ slot.state = .available ∧
      slots' = front ++ { slot.counted with state := .inUse } :: back ∧ asked = [slot.config.id] ∧
      r = some { Replica.new slot.config.id slot.config.address with
        state := .running, inbound := true } := by
  subst hprovisioner
  induction h with
  | done => exact .inl ⟨rfl, rfl, rfl⟩
  | @skip _ head _ _ _ _ _ _ _ ih =>
    rcases ih with ⟨hr, rfl, hasked⟩ | ⟨front, slot, back, rfl, hslot, rfl, hasked, hr⟩
    · exact .inl ⟨hr, rfl, hasked⟩
    · exact .inr ⟨head :: front, slot, back, rfl, hslot, rfl, hasked, hr⟩
  | @deliver _ slot rest _ _ hslot hanswer =>
    exact .inr ⟨[], slot, rest, rfl, hslot, rfl, rfl,
      congrArg some (Cluster.delivered_inMemory hanswer)⟩
  | refuse _ hanswer | abandon _ hanswer =>
    exact absurd hanswer (Provisioner.inMemory_ne_refused _ _ _)

/-- To take a slot into use puts its id on the list. -/
theorem mem_inUse_counted {front back : List BackupSlot} {slot : BackupSlot}
    (h : slot.state = .available) :
    id ∈ inUse (front ++ { slot.counted with state := .inUse } :: back) ↔
      id ∈ inUse (front ++ slot :: back) ∨ id = slot.config.id := by
  have hfree : slot.state ≠ .inUse := by
    rw [h]
    exact SlotState.noConfusion
  rw [inUse_append, inUse_append, inUse_cons_of_eq rfl, inUse_cons_of_ne hfree]
  show id ∈ inUse front ++ slot.config.id :: inUse back ↔ _
  simp only [List.mem_append, List.mem_cons]
  tauto

/-- An available slot among distinct ones is not in use. -/
theorem not_mem_inUse_of_available {front back : List BackupSlot} {slot : BackupSlot}
    (hdistinct : ((front ++ slot :: back).map (·.config.id)).Nodup) (h : slot.state = .available) :
    slot.config.id ∉ inUse (front ++ slot :: back) := by
  intro hmem
  have hstate := (state_eq_inUse_iff hdistinct
    (List.mem_append_right front (List.mem_cons_self (a := slot) (l := back)))).2 hmem
  rw [h] at hstate
  cases hstate

end BackupPool

end SensorCluster
