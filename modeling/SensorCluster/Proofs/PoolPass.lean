import SensorCluster.BackupPool
import Mathlib.Data.List.Perm.Basic
import Mathlib.Data.List.Nodup

/-!
# A pass over the backup pool, slot by slot

`Pass` tells what a pass over the pool does when nothing panics: one rule for each thing that can
happen to a slot. A slot that is not available is skipped; one that yields a receiver ends the pass;
one that refuses is counted, and abandoned when that was its last attempt, and the pass goes on.

`pass_of_tryEach` says that `BackupPool.tryEach` is such a pass as long as the provisioner does not
panic and no slot has passed its limit. **Everything else about a pass is proved along `Pass`**:
which slots were asked, that the limits are kept, and which slots were given up.
-/

namespace SensorCluster

namespace BackupSlot

/-- How far the attempts of a slot have come: never past the limit, short of it while the slot is
available, and at the limit when it was given up. -/
structure Bounded (s : BackupSlot) : Prop where
  le_max : s.attempts ≤ s.config.maxAttempts
  available : s.state = .available → s.attempts < s.config.maxAttempts
  abandoned : s.state = .abandoned → s.attempts = s.config.maxAttempts

/-- What is told of a slot that was given up. -/
def abandonment? (s : BackupSlot) : Option Abandonment :=
  if s.state = .abandoned then some ⟨s.config.id, s.attempts⟩ else none

variable {s : BackupSlot}

theorem abandonment?_of_ne (h : s.state ≠ .abandoned) : s.abandonment? = none := if_neg h

/-- A slot that was not tried is within its limits if it has at least one attempt. -/
theorem bounded_fresh {config : SlotConfig} (h : 1 ≤ config.maxAttempts) :
    (fresh config).Bounded where
  le_max := UInt32.zero_le
  available _ := by
    rw [UInt32.lt_iff_toNat_lt]
    exact UInt32.le_iff_toNat_le.1 h
  abandoned habandoned := by cases habandoned

theorem isExhausted_iff : s.isExhausted = true ↔ s.config.maxAttempts ≤ s.attempts := by
  simp [isExhausted]

/-- **An available slot has room for one attempt more**, so counting it does not overflow. -/
theorem Bounded.toNat_counted (h : s.Bounded) (havailable : s.state = .available) :
    s.counted.attempts.toNat = s.attempts.toNat + 1 ∧
      s.counted.attempts ≤ s.config.maxAttempts := by
  have hlt := UInt32.lt_iff_toNat_lt.1 (h.available havailable)
  have hmax := s.config.maxAttempts.toNat_lt_size
  have hcounted : (s.attempts + 1).toNat = s.attempts.toNat + 1 := by
    rw [UInt32.toNat_add]
    exact Nat.mod_eq_of_lt (by
      show s.attempts.toNat + 1 < UInt32.size
      omega)
  refine ⟨hcounted, ?_⟩
  rw [UInt32.le_iff_toNat_le]
  show (s.attempts + 1).toNat ≤ _
  omega

/-- A slot short of its limit has not used up its word. -/
theorem Bounded.ne_last (h : s.Bounded) (havailable : s.state = .available) :
    s.attempts ≠ UInt32.ofNat (UInt32.size - 1) := by
  intro hlast
  have hlt := UInt32.lt_iff_toNat_lt.1 (h.available havailable)
  have hmax := s.config.maxAttempts.toNat_lt_size
  rw [hlast] at hlt
  have hword : (UInt32.ofNat (UInt32.size - 1)).toNat = UInt32.size - 1 := by decide
  omega

/-- One attempt more is within the limit of an available slot that is taken into use. -/
theorem Bounded.inUse (h : s.Bounded) (havailable : s.state = .available) :
    { s.counted with state := .inUse }.Bounded where
  le_max := (h.toNat_counted havailable).2
  available hstate := by cases hstate
  abandoned hstate := by cases hstate

/-- A slot with attempts left is available as long as it is not in use. -/
theorem bounded_available (h : s.isExhausted = false) : { s with state := .available }.Bounded := by
  have hlt : s.attempts < s.config.maxAttempts := by
    rw [← UInt32.not_le]
    exact fun hle ↦ by simp [isExhausted_iff.2 hle] at h
  refine ⟨UInt32.le_of_lt hlt, fun _ ↦ hlt, fun hstate ↦ ?_⟩
  cases hstate

/-- A slot whose attempts are used up can be given up. -/
theorem bounded_abandoned (hle : s.attempts ≤ s.config.maxAttempts) (h : s.isExhausted = true) :
    { s with state := .abandoned }.Bounded where
  le_max := hle
  available hstate := by cases hstate
  abandoned _ := UInt32.le_antisymm hle (isExhausted_iff.1 h)

end BackupSlot

namespace BackupPool

/-! ### Passes -/

/-- A pass over the slots of the pool: the slots before and after, who was asked, who was given up,
and the receiver that came of it. -/
inductive Pass (provisioner : Provisioner) : List String → List BackupSlot → List BackupSlot →
    List String → List Abandonment → Option Replica → Prop
  /-- Nobody is left to be asked. -/
  | done {history : List String} : Pass provisioner history [] [] [] [] none
  /-- Who is not available is not asked. -/
  | skip {history : List String} {slot : BackupSlot} {rest rest' : List BackupSlot}
      {asked : List String} {gone : List Abandonment} {r : Option Replica}
      (h : slot.state ≠ .available) (hrest : Pass provisioner history rest rest' asked gone r) :
      Pass provisioner history (slot :: rest) (slot :: rest') asked gone r
  /-- Who yields a receiver is the last to be asked. -/
  | deliver {history : List String} {slot : BackupSlot} {rest : List BackupSlot} {r : Replica}
      {lines : List LogLine} (h : slot.state = .available)
      (hanswer : provisioner history slot.config = .delivered r lines) :
      Pass provisioner history (slot :: rest) ({ slot.counted with state := .inUse } :: rest)
        [slot.config.id] [] (some r)
  /-- Who refuses has one attempt less. -/
  | refuse {history : List String} {slot : BackupSlot} {rest rest' : List BackupSlot}
      {asked : List String} {gone : List Abandonment} {r : Option Replica} {cause : ClusterError}
      (h : slot.state = .available)
      (hanswer : provisioner history slot.config = .refused cause)
      (hleft : slot.counted.isExhausted = false)
      (hrest : Pass provisioner (history ++ [slot.config.id]) rest rest' asked gone r) :
      Pass provisioner history (slot :: rest) (slot.counted :: rest') (slot.config.id :: asked)
        gone r
  /-- Who refuses for the last time is given up. -/
  | abandon {history : List String} {slot : BackupSlot} {rest rest' : List BackupSlot}
      {asked : List String} {gone : List Abandonment} {r : Option Replica} {cause : ClusterError}
      (h : slot.state = .available)
      (hanswer : provisioner history slot.config = .refused cause)
      (hspent : slot.counted.isExhausted = true)
      (hrest : Pass provisioner (history ++ [slot.config.id]) rest rest' asked gone r) :
      Pass provisioner history (slot :: rest) ({ slot.counted with state := .abandoned } :: rest')
        (slot.config.id :: asked) (⟨slot.config.id, slot.counted.attempts⟩ :: gone) r

/-- The ids of the available slots, in the order of the pool. -/
def available (slots : List BackupSlot) : List String :=
  (slots.filter (·.state = .available)).map (·.config.id)

theorem available_cons_of_eq {slot : BackupSlot} {rest : List BackupSlot}
    (h : slot.state = .available) :
    available (slot :: rest) = slot.config.id :: available rest := by
  rw [available, List.filter_cons_of_pos (by simpa using h)]
  rfl

theorem available_cons_of_ne {slot : BackupSlot} {rest : List BackupSlot}
    (h : slot.state ≠ .available) : available (slot :: rest) = available rest := by
  rw [available, List.filter_cons_of_neg (by simpa using h)]
  rfl

theorem available_append (front back : List BackupSlot) :
    available (front ++ back) = available front ++ available back := by
  rw [available, List.filter_append, List.map_append]
  rfl

/-- A pool is spent when none of its slots is available. -/
theorem available_eq_nil_iff {slots : List BackupSlot} :
    available slots = [] ↔ ∀ slot ∈ slots, slot.state ≠ .available := by
  rw [available, List.map_eq_nil_iff, List.filter_eq_nil_iff]
  simp only [decide_eq_true_eq]

theorem mem_available {slots : List BackupSlot} {id : String} :
    id ∈ available slots ↔ ∃ slot ∈ slots, slot.state = .available ∧ slot.config.id = id := by
  simp [available, and_assoc]

/-- Where the ids of all slots are distinct, those of the available ones are. -/
theorem nodup_available {slots : List BackupSlot} (h : (slots.map (·.config.id)).Nodup) :
    (available slots).Nodup :=
  h.sublist (List.filter_sublist.map _)

/-- What a pass that did not panic yielded. -/
def yield? (pass : PoolPass) : Option Replica :=
  match pass.outcome with
  | .delivered r => some r
  | _ => none

variable {provisioner : Provisioner} {history : List String} {lastCause : Option ClusterError}
  {slots slots' : List BackupSlot} {asked : List String} {gone : List Abandonment}
  {r : Option Replica}

/-- **The algorithm is a pass**: with slots inside their limits and a provisioner that answers,
going through the pool does not panic, and it follows the rules. -/
theorem pass_of_tryEach
    (hanswers : ∀ history slot text, provisioner history slot ≠ .panicked text)
    (hbounded : ∀ slot ∈ slots, slot.Bounded) :
    (∀ text, (tryEach provisioner history lastCause slots).outcome ≠ .panicked text) ∧
      Pass provisioner history slots (tryEach provisioner history lastCause slots).slots
        (tryEach provisioner history lastCause slots).asked
        (tryEach provisioner history lastCause slots).abandoned
        (yield? (tryEach provisioner history lastCause slots)) := by
  induction slots generalizing history lastCause with
  | nil => exact ⟨fun text h ↦ PoolOutcome.noConfusion h, .done⟩
  | cons slot rest ih =>
    have hrest : ∀ slot ∈ rest, slot.Bounded :=
      fun slot hslot ↦ hbounded slot (List.mem_cons_of_mem _ hslot)
    rw [tryEach]
    dsimp only
    split
    · next hstate =>
      obtain ⟨hcalm, hpass⟩ := ih hrest
      exact ⟨hcalm, .skip hstate hpass⟩
    · next hstate =>
      have havailable : slot.state = .available := Decidable.not_not.1 hstate
      -- An available slot has attempts left, so counting one more does not overflow.
      rw [if_neg ((hbounded slot List.mem_cons_self).ne_last havailable)]
      split
      · next receiver lines hanswer =>
        exact ⟨fun text h ↦ PoolOutcome.noConfusion h, .deliver havailable hanswer⟩
      · next text hanswer => exact absurd hanswer (hanswers _ _ _)
      · next cause hanswer =>
        split
        · next hspent =>
          obtain ⟨hcalm, hpass⟩ := ih hrest
          exact ⟨hcalm, .abandon havailable hanswer hspent hpass⟩
        · next hleft =>
          obtain ⟨hcalm, hpass⟩ := ih hrest
          exact ⟨hcalm, .refuse havailable hanswer (by simpa using hleft) hpass⟩

namespace Pass

/-! ### What a pass keeps -/

/-- No slot changes its configuration. -/
theorem config_eq (h : Pass provisioner history slots slots' asked gone r) :
    slots'.map (·.config) = slots.map (·.config) := by
  induction h with
  | done | deliver => rfl
  | skip _ _ ih | refuse _ _ _ _ ih | abandon _ _ _ _ ih => exact congrArg (_ :: ·) ih

/-- The limits are kept. -/
theorem bounded (h : Pass provisioner history slots slots' asked gone r)
    (hbounded : ∀ slot ∈ slots, slot.Bounded) : ∀ slot ∈ slots', slot.Bounded := by
  induction h with
  | done => exact hbounded
  | skip _ _ ih =>
    obtain ⟨hslot, hrest⟩ := List.forall_mem_cons.1 hbounded
    exact List.forall_mem_cons.2 ⟨hslot, ih hrest⟩
  | deliver havailable =>
    obtain ⟨hslot, hrest⟩ := List.forall_mem_cons.1 hbounded
    exact List.forall_mem_cons.2 ⟨hslot.inUse havailable, hrest⟩
  | refuse havailable _ hleft _ ih =>
    obtain ⟨-, hrest⟩ := List.forall_mem_cons.1 hbounded
    have hcounted := BackupSlot.bounded_available hleft
    rw [← havailable] at hcounted
    exact List.forall_mem_cons.2 ⟨hcounted, ih hrest⟩
  | abandon havailable _ hspent _ ih =>
    obtain ⟨hslot, hrest⟩ := List.forall_mem_cons.1 hbounded
    have hle := (hslot.toNat_counted havailable).2
    exact List.forall_mem_cons.2 ⟨BackupSlot.bounded_abandoned hle hspent, ih hrest⟩

/-- Who was asked is a slot of the pool. -/
theorem mem_ids (h : Pass provisioner history slots slots' asked gone r) {id : String}
    (hid : id ∈ asked) : id ∈ slots.map (·.config.id) := by
  induction h with
  | done => cases hid
  | skip _ _ ih => exact List.mem_cons_of_mem _ (ih hid)
  | deliver =>
    rw [List.mem_singleton.1 hid]
    exact List.mem_cons_self
  | refuse _ _ _ _ ih | abandon _ _ _ _ ih =>
    rcases List.mem_cons.1 hid with rfl | hid
    · exact List.mem_cons_self
    · exact List.mem_cons_of_mem _ (ih hid)

/-- A slot that is not available, or that was not asked, stays as it is. -/
theorem untouched (h : Pass provisioner history slots slots' asked gone r) {i : Nat}
    {slot : BackupSlot} (hi : slots[i]? = some slot)
    (hslot : slot.state ≠ .available ∨ slot.config.id ∉ asked) : slots'[i]? = some slot := by
  induction h generalizing i with
  | done => exact hi
  | skip _ _ ih =>
    cases i with
    | zero => exact hi
    | succ i => exact ih hi hslot
  | deliver havailable =>
    cases i with
    | zero =>
      -- the slot in front was available and asked
      obtain rfl := Option.some.inj hi
      rcases hslot with hstate | hasked
      · exact absurd havailable hstate
      · exact absurd List.mem_cons_self hasked
    | succ i => exact hi
  | refuse havailable _ _ _ ih | abandon havailable _ _ _ ih =>
    cases i with
    | zero =>
      obtain rfl := Option.some.inj hi
      rcases hslot with hstate | hasked
      · exact absurd havailable hstate
      · exact absurd List.mem_cons_self hasked
    | succ i => exact ih hi (hslot.imp_right fun hasked hmem ↦ hasked (List.mem_cons_of_mem _ hmem))

/-- A pass keeps the slots that are not available. -/
theorem mem_of_ne (h : Pass provisioner history slots slots' asked gone r) {slot : BackupSlot}
    (hslot : slot ∈ slots) (hstate : slot.state ≠ .available) : slot ∈ slots' := by
  obtain ⟨i, hi⟩ := List.mem_iff_getElem?.1 hslot
  exact List.mem_of_getElem? (h.untouched hi (.inl hstate))

/-- **Attempts are counted**: a slot has as many more of them as it was asked. -/
theorem attempts_eq (h : Pass provisioner history slots slots' asked gone r)
    (hbounded : ∀ slot ∈ slots, slot.Bounded) (hdistinct : (slots.map (·.config.id)).Nodup)
    {slot' : BackupSlot} (hslot' : slot' ∈ slots') :
    ∃ slot ∈ slots, slot.config = slot'.config ∧
      slot'.attempts.toNat = slot.attempts.toNat + asked.count slot.config.id := by
  induction h with
  | done => cases hslot'
  | @skip history head rest rest' asked gone r hstate hpass ih =>
    obtain ⟨hnew, hrest⟩ := List.nodup_cons.1 hdistinct
    rcases List.mem_cons.1 hslot' with rfl | hmem
    · -- the ids are distinct, so nobody behind the head was asked under its id
      refine ⟨slot', List.mem_cons_self, rfl, ?_⟩
      rw [List.count_eq_zero.2 fun hasked ↦ hnew (hpass.mem_ids hasked)]
      rfl
    · obtain ⟨slot, hslot, heq⟩ := ih (List.forall_mem_cons.1 hbounded).2 hrest hmem
      exact ⟨slot, List.mem_cons_of_mem _ hslot, heq⟩
  | @deliver history head rest r lines havailable =>
    obtain ⟨hnew, -⟩ := List.nodup_cons.1 hdistinct
    obtain ⟨hhead, -⟩ := List.forall_mem_cons.1 hbounded
    rcases List.mem_cons.1 hslot' with rfl | hmem
    · refine ⟨head, List.mem_cons_self, rfl, ?_⟩
      rw [List.count_singleton_self]
      exact (hhead.toNat_counted havailable).1
    · have hne : slot'.config.id ≠ head.config.id :=
        fun heq ↦ hnew (List.mem_map.2 ⟨slot', hmem, heq⟩)
      refine ⟨slot', List.mem_cons_of_mem _ hmem, rfl, ?_⟩
      rw [List.count_eq_zero.2 fun hasked ↦ hne (List.mem_singleton.1 hasked)]
      rfl
  | @refuse history head rest rest' asked gone r cause havailable _ _ hpass ih
  | @abandon history head rest rest' asked gone r cause havailable _ _ hpass ih =>
    obtain ⟨hnew, hrest⟩ := List.nodup_cons.1 hdistinct
    obtain ⟨hhead, htail⟩ := List.forall_mem_cons.1 hbounded
    rcases List.mem_cons.1 hslot' with rfl | hmem
    · refine ⟨head, List.mem_cons_self, rfl, ?_⟩
      rw [List.count_cons_self, List.count_eq_zero.2 fun hasked ↦ hnew (hpass.mem_ids hasked)]
      exact (hhead.toNat_counted havailable).1
    · obtain ⟨slot, hslot, hconfig, hattempts⟩ := ih htail hrest hmem
      have hne : head.config.id ≠ slot.config.id :=
        fun heq ↦ hnew (List.mem_map.2 ⟨slot, hslot, heq.symm⟩)
      refine ⟨slot, List.mem_cons_of_mem _ hslot, hconfig, ?_⟩
      rw [List.count_cons_of_ne hne, hattempts]

/-- The slots that are abandoned afterwards are those from before and those that were given up. -/
theorem abandonments (h : Pass provisioner history slots slots' asked gone r) :
    (slots'.filterMap BackupSlot.abandonment?).Perm
      (slots.filterMap BackupSlot.abandonment? ++ gone) := by
  have hnone : ∀ {slot : BackupSlot}, slot.state = .available → slot.abandonment? = none :=
    fun havailable ↦ BackupSlot.abandonment?_of_ne (by rw [havailable]; exact SlotState.noConfusion)
  induction h with
  | done => exact .refl _
  | @skip history slot rest rest' asked gone r hstate hpass ih =>
    rw [List.filterMap_cons, List.filterMap_cons]
    cases slot.abandonment? with
    | none => exact ih
    | some a => exact ih.cons a
  | @deliver history slot rest r lines havailable =>
    rw [List.filterMap_cons_none (hnone havailable), List.append_nil,
      List.filterMap_cons_none rfl]
  | @refuse history slot rest rest' asked gone r cause havailable _ _ _ ih =>
    have hcounted : slot.counted.abandonment? = none := hnone havailable
    rw [List.filterMap_cons_none hcounted, List.filterMap_cons_none (hnone havailable)]
    exact ih
  | @abandon history slot rest rest' asked gone r cause havailable _ _ _ ih =>
    have hgone : ({ slot.counted with state := .abandoned } : BackupSlot).abandonment? =
        some ⟨slot.config.id, slot.counted.attempts⟩ := rfl
    rw [List.filterMap_cons_none (hnone havailable), List.filterMap_cons_some hgone]
    -- It was given up at its place, and is told of at the end.
    exact (ih.cons _).trans List.perm_middle.symm

/-! ### The order of a pass -/

/-- Who is asked is available, in the order of the pool and from the first one on; nobody is left
out unless somebody yielded a receiver. -/
theorem asked_available (h : Pass provisioner history slots slots' asked gone r) :
    asked <+: available slots ∧ (r = none → asked = available slots) := by
  induction h with
  | done => exact ⟨List.prefix_rfl, fun _ ↦ rfl⟩
  | skip hstate _ ih => rwa [available_cons_of_ne hstate]
  | deliver havailable =>
    rw [available_cons_of_eq havailable]
    exact ⟨List.prefix_append [_] _, fun hnone ↦ by cases hnone⟩
  | refuse havailable _ _ _ ih | abandon havailable _ _ _ ih =>
    rw [available_cons_of_eq havailable]
    exact ⟨(List.prefix_cons_inj _).2 ih.1, fun hnone ↦ congrArg (_ :: ·) (ih.2 hnone)⟩

/-- Who was asked refused, except the one with whom the pass ended. -/
theorem refused_of_asked (h : Pass provisioner history slots slots' asked gone r)
    {before after : List String} {id : String} (hasked : asked = before ++ id :: after)
    (hmore : after ≠ [] ∨ r = none) :
    ∃ slot ∈ slots, slot.config.id = id ∧
      ∃ cause, provisioner (history ++ before) slot.config = .refused cause := by
  induction h generalizing before with
  | done => simp at hasked
  | skip _ _ ih =>
    obtain ⟨slot, hslot, hrest⟩ := ih hasked hmore
    exact ⟨slot, List.mem_cons_of_mem _ hslot, hrest⟩
  | deliver =>
    -- nobody was asked after it, and it did not refuse
    have hlength := congrArg List.length hasked
    simp only [List.length_append, List.length_cons, List.length_nil] at hlength
    have hafter : after = [] := List.eq_nil_of_length_eq_zero (by omega)
    rcases hmore with hne | hnone
    · exact absurd hafter hne
    · cases hnone
  | @refuse history head _ _ _ _ _ cause _ hanswer _ _ ih
  | @abandon history head _ _ _ _ _ cause _ hanswer _ _ ih =>
    cases before with
    | nil =>
      obtain ⟨rfl, -⟩ := List.cons.inj hasked
      exact ⟨head, List.mem_cons_self, rfl, cause, by rwa [List.append_nil]⟩
    | cons first before =>
      obtain ⟨rfl, hrest⟩ := List.cons.inj hasked
      obtain ⟨slot, hslot, hid, hrefused⟩ := ih hrest hmore
      refine ⟨slot, List.mem_cons_of_mem _ hslot, hid, ?_⟩
      rwa [List.append_assoc] at hrefused

/-- Who yields the receiver is the last to be asked, and its slot is in use. -/
theorem delivered_last {receiver : Replica}
    (h : Pass provisioner history slots slots' asked gone (some receiver)) :
    ∃ (before : List String) (slot : BackupSlot), slot ∈ slots ∧
      asked = before ++ [slot.config.id] ∧
      (∃ lines, provisioner (history ++ before) slot.config = .delivered receiver lines) ∧
      { slot.counted with state := .inUse } ∈ slots' := by
  -- The answer is made a variable, so that the induction sees that the pass delivered.
  generalize hr : some receiver = r at h
  induction h with
  | done => cases hr
  | skip _ _ ih =>
    obtain ⟨before, slot, hslot, hasked, hanswer, hin⟩ := ih hr
    exact ⟨before, slot, List.mem_cons_of_mem _ hslot, hasked, hanswer, List.mem_cons_of_mem _ hin⟩
  | @deliver history head _ _ lines _ hanswer =>
    obtain rfl := Option.some.inj hr
    refine ⟨[], head, List.mem_cons_self, rfl, ⟨lines, ?_⟩, List.mem_cons_self⟩
    rwa [List.append_nil]
  | @refuse _ head _ _ _ _ _ _ _ _ _ _ ih | @abandon _ head _ _ _ _ _ _ _ _ _ _ ih =>
    obtain ⟨before, slot, hslot, rfl, hanswer, hin⟩ := ih hr
    refine ⟨head.config.id :: before, slot, List.mem_cons_of_mem _ hslot, rfl, ?_,
      List.mem_cons_of_mem _ hin⟩
    rwa [List.append_assoc] at hanswer

/-- A pass makes no slot available, and one that yields a receiver has used a slot up. -/
theorem length_available (h : Pass provisioner history slots slots' asked gone r) :
    (available slots').length + (if r.isSome then 1 else 0) ≤ (available slots).length := by
  induction h with
  | done => exact Nat.le_refl _
  | skip hstate _ ih => rwa [available_cons_of_ne hstate, available_cons_of_ne hstate]
  | deliver havailable =>
    rw [available_cons_of_eq havailable, available_cons_of_ne SlotState.noConfusion]
    exact Nat.le_refl _
  | @refuse history slot _ _ _ _ _ _ havailable _ _ _ ih =>
    -- A slot that refuses with attempts left stays available.
    have hcounted : slot.counted.state = .available := havailable
    rw [available_cons_of_eq havailable, available_cons_of_eq hcounted, List.length_cons,
      List.length_cons]
    omega
  | abandon havailable _ _ _ ih =>
    rw [available_cons_of_eq havailable, available_cons_of_ne SlotState.noConfusion,
      List.length_cons]
    omega

end Pass

/-- **A pass in order**: who is asked, what it answers, and who is left alone. -/
structure InOrder (provisioner : Provisioner) (history : List String) (slots : List BackupSlot)
    (pass : PoolPass) : Prop where
  /-- Available slots are asked, in the order of the pool and from the first one on. -/
  asked : pass.asked <+: available slots
  once : pass.asked.Nodup
  /-- Whoever is asked refuses, except the one that ends the pass with a receiver. -/
  refused : ∀ before id after, pass.asked = before ++ id :: after →
    after ≠ [] ∨ (∃ cause, pass.outcome = .failed cause) →
    ∃ slot ∈ slots, slot.config.id = id ∧
      ∃ cause, provisioner (history ++ before) slot.config = .refused cause
  /-- The pass fails when nobody is left to be asked, or it ends with who yields a receiver. -/
  ended : (∃ cause, pass.outcome = .failed cause ∧ pass.asked = available slots) ∨
    ∃ receiver, pass.outcome = .delivered receiver ∧
      ∃ (before : List String) (slot : BackupSlot), slot ∈ slots ∧
        pass.asked = before ++ [slot.config.id] ∧
        (∃ lines, provisioner (history ++ before) slot.config = .delivered receiver lines) ∧
        { slot.counted with state := .inUse } ∈ pass.slots
  /-- Who is not asked stays as it is. -/
  untouched : ∀ (i : Nat) (slot : BackupSlot), slots[i]? = some slot →
    slot.config.id ∉ pass.asked → pass.slots[i]? = some slot

/-- Going through a pool is a pass in order. -/
theorem tryEach_inOrder
    (hanswers : ∀ history slot text, provisioner history slot ≠ .panicked text)
    (hbounded : ∀ slot ∈ slots, slot.Bounded) (hdistinct : (slots.map (·.config.id)).Nodup) :
    InOrder provisioner history slots (tryEach provisioner history lastCause slots) := by
  obtain ⟨hcalm, hpass⟩ := pass_of_tryEach hanswers hbounded
  set pass := tryEach provisioner history lastCause slots
  have hfailed : ∀ {cause}, pass.outcome = .failed cause → yield? pass = none := by
    intro cause houtcome
    rw [yield?, houtcome]
  obtain ⟨hfront, hall⟩ := hpass.asked_available
  have hids : (available slots).Sublist (slots.map (·.config.id)) := List.filter_sublist.map _
  refine ⟨hfront, hdistinct.sublist (hfront.sublist.trans hids), ?_, ?_, ?_⟩
  · intro before id after hasked hmore
    exact hpass.refused_of_asked hasked (hmore.imp_right fun ⟨_, houtcome⟩ ↦ hfailed houtcome)
  · cases houtcome : pass.outcome with
    | failed cause => exact .inl ⟨cause, rfl, hall (hfailed houtcome)⟩
    | delivered receiver =>
      have hyield : yield? pass = some receiver := by rw [yield?, houtcome]
      rw [hyield] at hpass
      exact .inr ⟨receiver, rfl, hpass.delivered_last⟩
    | panicked text => exact absurd houtcome (hcalm text)
  · exact fun i slot hi hasked ↦ hpass.untouched hi (.inr hasked)

theorem perm_append_right_comm {α : Type} (xs ys zs : List α) :
    (xs ++ ys ++ zs).Perm (xs ++ zs ++ ys) := by
  rw [List.append_assoc, List.append_assoc]
  exact List.perm_append_comm.append_left xs

/-- Where a slot that is not given up makes way for another, that one is all there is to tell of. -/
theorem abandonments_replace {front back : List BackupSlot} {slot slot' : BackupSlot}
    {told : List Abandonment} (hslot : slot.abandonment? = none)
    (h : told.Perm ((front ++ slot :: back).filterMap BackupSlot.abandonment?)) :
    (told ++ slot'.abandonment?.toList).Perm
      ((front ++ slot' :: back).filterMap BackupSlot.abandonment?) := by
  rw [List.filterMap_append, List.filterMap_cons_none hslot] at h
  have hcons : (slot' :: back).filterMap BackupSlot.abandonment? =
      slot'.abandonment?.toList ++ back.filterMap BackupSlot.abandonment? := by
    rw [List.filterMap_cons]
    cases slot'.abandonment? <;> rfl
  rw [List.filterMap_append, hcons]
  refine (h.append_right _).trans ?_
  rw [← List.append_assoc]
  exact perm_append_right_comm ..

/-! ### Giving a slot back -/

/-- **A release in one line**: nothing happens, or a slot in use is available again, or its attempts
are used up and it is given up. -/
theorem release_spec (id : String) (slots : List BackupSlot) :
    release id slots = (slots, []) ∨
    ∃ front slot back, slots = front ++ slot :: back ∧ slot.state = .inUse ∧
      (slot.isExhausted = false ∧
        release id slots = (front ++ { slot with state := .available } :: back, []) ∨
      slot.isExhausted = true ∧
        release id slots = (front ++ { slot with state := .abandoned } :: back,
          [⟨slot.config.id, slot.attempts⟩])) := by
  induction slots with
  | nil => exact .inl rfl
  | cons head rest ih =>
    rw [release]
    split
    · next hhead =>
      refine .inr ⟨[], head, rest, rfl, hhead.2, ?_⟩
      split
      · next hspent => exact .inr ⟨hspent, rfl⟩
      · next hleft => exact .inl ⟨by simpa using hleft, rfl⟩
    · rcases ih with hnone | ⟨front, slot, back, rfl, hstate, hcase⟩
      · rw [hnone]
        exact .inl rfl
      · refine .inr ⟨head :: front, slot, back, rfl, hstate, ?_⟩
        rcases hcase with ⟨hleft, heq⟩ | ⟨hspent, heq⟩ <;> rw [heq]
        · exact .inl ⟨hleft, rfl⟩
        · exact .inr ⟨hspent, rfl⟩

/-- A release keeps the limits. -/
theorem bounded_release (id : String) {slots : List BackupSlot}
    (hbounded : ∀ slot ∈ slots, slot.Bounded) :
    ∀ slot ∈ (release id slots).1, slot.Bounded := by
  rcases release_spec id slots with
    heq | ⟨front, slot, back, rfl, -, ⟨hleft, heq⟩ | ⟨hspent, heq⟩⟩ <;> rw [heq]
  · exact hbounded
  · rw [List.forall_mem_append, List.forall_mem_cons] at hbounded ⊢
    exact ⟨hbounded.1, BackupSlot.bounded_available hleft, hbounded.2.2⟩
  · rw [List.forall_mem_append, List.forall_mem_cons] at hbounded ⊢
    exact ⟨hbounded.1, BackupSlot.bounded_abandoned hbounded.2.1.le_max hspent, hbounded.2.2⟩

/-- The slots of other ids are left alone. -/
theorem mem_release {id : String} {slot : BackupSlot} (hid : slot.config.id ≠ id)
    {slots : List BackupSlot} (hslot : slot ∈ slots) : slot ∈ (release id slots).1 := by
  induction slots with
  | nil => exact hslot
  | cons head rest ih =>
    rw [release]
    rcases List.mem_cons.1 hslot with rfl | hrest
    · rw [if_neg fun h ↦ hid h.1]
      exact List.mem_cons_self
    · split
      · split <;> exact List.mem_cons_of_mem _ hrest
      · exact List.mem_cons_of_mem _ (ih hrest)

end BackupPool

end SensorCluster
