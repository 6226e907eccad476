import SensorCluster.Proofs.SlotLife

/-!
# Passes that end in a panic

A provisioner may have a bug. When a call of it panics, the pass over the pool ends there, and
whoever made the pass catches the panic and goes on. The attempt was counted before the call, but
the slot is still available, and the list of the slots that the pass gave up is gone with the stack.

## What is left

* The calls that return, with a receiver or a refusal, are within the limit of their slot. The calls
  that panic are not: an available slot is asked again, whatever its limit (`BackupSlot.Within`).
* What was given up is told of, except by the passes that ended in a panic.

## The book

A pool is followed by its `Book`: all calls, each with the place of its slot, and all slots that
were given up, told of or not. A pass is a sequence of `Turn`s, one slot each, however it ends
(`BackupPool.tryEach_turns`), and a release is one turn at most; so what a turn keeps (`Turn.kept`)
is kept by every move. Slots are told apart by their places, so two of them may share an id.
-/

namespace SensorCluster

/-- One call of the provisioner. -/
structure Call where
  /-- The place of the slot in the pool. -/
  place : Nat
  slot : SlotConfig
  answer : Provisioning

/-- Did the call return, with a receiver or a refusal? If not, it panicked. -/
def Call.returned (call : Call) : Bool :=
  match call.answer with
  | .panicked _ => false
  | _ => true

namespace BackupSlot

variable {s : BackupSlot} {calls : List Call}

/-- The slot after it was asked and answered so. -/
def answered (s : BackupSlot) : Provisioning → BackupSlot
  | .delivered _ _ => { s.counted with state := .inUse }
  | .refused _ => if s.counted.isExhausted then { s.counted with state := .abandoned }
    else s.counted
  | .panicked _ => s.counted

/-- The slot after its receiver was given back. -/
def givenBack (s : BackupSlot) : BackupSlot :=
  { s with state := if s.isExhausted then .abandoned else .available }

/-- What the calls for a slot come to, whatever became of them. -/
structure Within (s : BackupSlot) (calls : List Call) : Prop where
  /-- Every call is counted. -/
  counted : s.attempts.toNat = calls.length
  /-- Those that return are within the limit. -/
  returned : calls.countP Call.returned ≤ s.config.maxAttempts.toNat
  available : s.state = .available → calls.countP Call.returned < s.config.maxAttempts.toNat
  abandoned : s.state = .abandoned → s.config.maxAttempts ≤ s.attempts

theorem answered_config (s : BackupSlot) (answer : Provisioning) :
    (s.answered answer).config = s.config := by
  cases answer with
  | refused cause =>
    rw [answered]
    split <;> rfl
  | delivered | panicked => rfl

/-- Every call is counted, even one that panics: the attempt is counted before the provisioner is
asked. -/
theorem answered_attempts (s : BackupSlot) (answer : Provisioning) :
    (s.answered answer).attempts = s.attempts + 1 := by
  cases answer with
  | refused cause =>
    rw [answered]
    split <;> rfl
  | delivered | panicked => rfl

theorem answered_of_spent (h : s.counted.isExhausted = true) (cause : ClusterError) :
    s.answered (.refused cause) = { s.counted with state := .abandoned } := if_pos h

theorem answered_of_left (h : s.counted.isExhausted = false) (cause : ClusterError) :
    s.answered (.refused cause) = s.counted := if_neg (ne_true_of_eq_false h)

theorem givenBack_of_spent (h : s.isExhausted = true) :
    s.givenBack = { s with state := .abandoned } := by
  rw [givenBack, if_pos h]

theorem givenBack_of_left (h : s.isExhausted = false) :
    s.givenBack = { s with state := .available } := by
  rw [givenBack, if_neg (ne_true_of_eq_false h)]

/-- Short of the last word the attempts are counted. -/
theorem toNat_succ_of_ne (h : s.attempts ≠ UInt32.ofNat (UInt32.size - 1)) :
    (s.attempts + 1).toNat = s.attempts.toNat + 1 := by
  have hlast : s.attempts.toNat ≠ UInt32.size - 1 := by
    intro heq
    refine h (UInt32.toNat_inj.1 (heq.trans ?_))
    decide
  have hlt := s.attempts.toNat_lt_size
  rw [UInt32.toNat_add]
  exact Nat.mod_eq_of_lt (by
    show s.attempts.toNat + 1 < UInt32.size
    omega)

/-- For a slot that has at least one attempt nothing was asked yet, and it may be. -/
theorem within_fresh {config : SlotConfig} (h : 1 ≤ config.maxAttempts) :
    (fresh config).Within [] where
  counted := rfl
  returned := Nat.zero_le _
  available _ := UInt32.le_iff_toNat_le.1 h
  abandoned habandoned := by cases habandoned

/-- A slot with attempts left has had fewer calls than its limit. -/
theorem length_lt_of_left (hcounted : s.attempts.toNat = calls.length) (h : s.isExhausted = false) :
    calls.length < s.config.maxAttempts.toNat := by
  have hlt : s.attempts < s.config.maxAttempts := by
    rw [← UInt32.not_le]
    exact fun hle ↦ by simp [isExhausted_iff.2 hle] at h
  rw [← hcounted]
  exact UInt32.lt_iff_toNat_lt.1 hlt

/-- A slot that is available after it was asked has attempts left, or its call panicked. -/
theorem left_or_panicked {answer : Provisioning} (h : (s.answered answer).state = .available) :
    s.counted.isExhausted = false ∨ ∃ text, answer = .panicked text := by
  cases answer with
  | delivered r lines => cases h
  | panicked text => exact .inr ⟨text, rfl⟩
  | refused cause =>
    cases hspent : s.counted.isExhausted with
    | true =>
      rw [answered_of_spent hspent] at h
      cases h
    | false => exact .inl rfl

/-- A slot that is given up when it was asked has no attempts left. -/
theorem spent_of_answered {answer : Provisioning} (havailable : s.state = .available)
    (h : (s.answered answer).state = .abandoned) : s.counted.isExhausted = true := by
  have hcounted : s.counted.state ≠ .abandoned := havailable.trans_ne SlotState.noConfusion
  cases answer with
  | delivered r lines => cases h
  | panicked text => exact absurd h hcounted
  | refused cause =>
    cases hspent : s.counted.isExhausted with
    | true => rfl
    | false =>
      rw [answered_of_left hspent] at h
      exact absurd h hcounted

/-- **One call more.** A call that returns either leaves attempts, or it is the last one; a call
that panics is counted and leaves the slot available. -/
theorem Within.ask (h : s.Within calls) (havailable : s.state = .available)
    (hword : s.attempts ≠ UInt32.ofNat (UInt32.size - 1)) (call : Call) :
    (s.answered call.answer).Within (calls ++ [call]) := by
  have hroom := h.available havailable
  have hcounted : s.counted.attempts.toNat = (calls ++ [call]).length := by
    show (s.attempts + 1).toNat = _
    rw [toNat_succ_of_ne hword, h.counted, List.length_append]
    rfl
  have hreturned : (calls ++ [call]).countP Call.returned =
      calls.countP Call.returned + if call.returned then 1 else 0 := by
    rw [List.countP_append, List.countP_singleton]
  refine ⟨?_, ?_, fun hstate ↦ ?_, fun hstate ↦ ?_⟩
  · rw [answered_attempts]
    exact hcounted
  · rw [answered_config, hreturned]
    split <;> omega
  · rw [answered_config]
    -- A slot that is still available after a call had attempts left, or the call panicked and does
    -- not count among those that returned.
    rcases left_or_panicked hstate with hleft | ⟨text, hanswer⟩
    · exact Nat.lt_of_le_of_lt List.countP_le_length
        (length_lt_of_left (s := s.counted) hcounted hleft)
    · have hpanicked : call.returned = false := by rw [Call.returned, hanswer]
      rw [hreturned, hpanicked]
      exact hroom
  · rw [answered_config, answered_attempts]
    exact isExhausted_iff.1 (spent_of_answered havailable hstate)

/-- A slot that is given back has attempts left, or is given up. -/
theorem Within.giveBack (h : s.Within calls) : s.givenBack.Within calls := by
  refine ⟨h.counted, h.returned, fun hstate ↦ ?_, fun hstate ↦ ?_⟩
  · cases hspent : s.isExhausted with
    | true =>
      rw [givenBack_of_spent hspent] at hstate
      cases hstate
    | false => exact Nat.lt_of_le_of_lt List.countP_le_length (length_lt_of_left h.counted hspent)
  · cases hspent : s.isExhausted with
    | true => exact isExhausted_iff.1 hspent
    | false =>
      rw [givenBack_of_left hspent] at hstate
      cases hstate

end BackupSlot

namespace BackupPool

/-! ### Turns -/

/-- The pool with all calls of the provisioner, oldest first, and all that were given up, told of or
not. -/
structure Book where
  slots : List BackupSlot
  calls : List Call
  gone : List Abandonment

variable {provisioner : Provisioner} {b b' : Book} {front back slots : List BackupSlot}
  {slot : BackupSlot} {calls : List Call} {gone : List Abandonment} {i : Nat}

/-- What can happen to one slot. -/
inductive Turn (provisioner : Provisioner) : Book → Book → Prop
  /-- An available slot is asked, and answers whatever it does. -/
  | ask {front back : List BackupSlot} {slot : BackupSlot} {calls : List Call}
      {gone : List Abandonment} {answer : Provisioning} (h : slot.state = .available)
      (hword : slot.attempts ≠ UInt32.ofNat (UInt32.size - 1))
      (hanswer : provisioner (calls.map (·.slot.id)) slot.config = answer) :
      Turn provisioner ⟨front ++ slot :: back, calls, gone⟩
        ⟨front ++ slot.answered answer :: back, calls ++ [⟨front.length, slot.config, answer⟩],
          gone ++ (slot.answered answer).abandonment?.toList⟩
  /-- The receiver of a slot in use is given back. -/
  | giveBack {front back : List BackupSlot} {slot : BackupSlot} {calls : List Call}
      {gone : List Abandonment} (h : slot.state = .inUse) :
      Turn provisioner ⟨front ++ slot :: back, calls, gone⟩
        ⟨front ++ slot.givenBack :: back, calls, gone ++ slot.givenBack.abandonment?.toList⟩

/-- Turns, one after the other. -/
abbrev Turns (provisioner : Provisioner) : Book → Book → Prop :=
  Relation.ReflTransGen (Turn provisioner)

/-- What takes the place of one slot leaves the others where they are. -/
theorem getElem?_replace (front back : List BackupSlot) (slot slot' : BackupSlot) (i : Nat) :
    (front ++ slot' :: back)[i]? =
      if i = front.length then some slot' else (front ++ slot :: back)[i]? := by
  rcases Nat.lt_trichotomy i front.length with hlt | rfl | hgt
  · rw [if_neg (Nat.ne_of_lt hlt), List.getElem?_append_left hlt, List.getElem?_append_left hlt]
  · rw [if_pos rfl, List.getElem?_append_right (Nat.le_refl _), Nat.sub_self]
    rfl
  · obtain ⟨n, rfl⟩ := Nat.exists_eq_add_of_lt hgt
    rw [if_neg (by omega), List.getElem?_append_right (by omega),
      List.getElem?_append_right (by omega)]
    have hpast : front.length + n + 1 - front.length = n + 1 := by omega
    rw [hpast]
    rfl

/-- A pool later on: its slots keep their places and configurations, and who was given up is left
alone. -/
structure Onward (slots slots' : List BackupSlot) : Prop where
  config_eq : slots'.map (·.config) = slots.map (·.config)
  abandoned : ∀ (i : Nat) (slot : BackupSlot), slots[i]? = some slot → slot.state = .abandoned →
    slots'[i]? = some slot

theorem Onward.refl (slots : List BackupSlot) : Onward slots slots := ⟨rfl, fun _ _ hi _ ↦ hi⟩

/-- What was given up stays given up, however many steps follow. -/
theorem Onward.trans {slots slots' slots'' : List BackupSlot} (h : Onward slots slots')
    (h' : Onward slots' slots'') : Onward slots slots'' :=
  ⟨h'.config_eq.trans h.config_eq,
    fun i slot hi hslot ↦ h'.abandoned i slot (h.abandoned i slot hi hslot) hslot⟩

/-- One slot makes way for another of the same configuration. -/
theorem onward_replace {slot slot' : BackupSlot} (front back : List BackupSlot)
    (hconfig : slot'.config = slot.config) (hlive : slot.state ≠ .abandoned) :
    Onward (front ++ slot :: back) (front ++ slot' :: back) where
  config_eq := by rw [List.map_append, List.map_append, List.map_cons, List.map_cons, hconfig]
  abandoned i other hi hother := by
    refine Core.getElem?_append_cons_of_ne hi ?_
    rintro rfl
    exact hlive hother

/-- A turn replaces one slot, which was not given up before. -/
theorem Turn.onward (h : Turn provisioner b b') : Onward b.slots b'.slots := by
  cases h with
  | @ask front back slot _ _ answer h =>
    exact onward_replace front back (slot.answered_config answer) (h.trans_ne SlotState.noConfusion)
  | @giveBack front back slot _ _ h =>
    exact onward_replace front back rfl (h.trans_ne SlotState.noConfusion)

theorem Turns.onward (h : Turns provisioner b b') : Onward b.slots b'.slots := by
  induction h with
  | refl => exact .refl _
  | tail _ hturn ih => exact ih.trans hturn.onward

/-- What is true of a book at all times. -/
structure Kept (provisioner : Provisioner) (b : Book) : Prop where
  /-- Every call was answered by the provisioner, who knows the calls before it. -/
  answers : ∀ before call after, b.calls = before ++ call :: after →
    call.answer = provisioner (before.map (·.slot.id)) call.slot
  /-- Every call was for a slot of the pool. -/
  places : ∀ call ∈ b.calls, ∃ slot, b.slots[call.place]? = some slot ∧ slot.config = call.slot
  within : ∀ (i : Nat) (slot : BackupSlot), b.slots[i]? = some slot →
    slot.Within (b.calls.filter (·.place = i))
  gone : b.gone.Perm (b.slots.filterMap BackupSlot.abandonment?)

/-- A slot that was not given up makes way for one of the same configuration, with the calls that
were made for it meanwhile. -/
theorem Kept.replace (hb : Kept provisioner ⟨front ++ slot :: back, calls, gone⟩)
    (slot' : BackupSlot) (made : List Call) (hconfig : slot'.config = slot.config)
    (hlive : slot.state ≠ .abandoned)
    (hmade : ∀ call ∈ made, call.place = front.length ∧ call.slot = slot.config)
    (hanswers : ∀ before call after, calls ++ made = before ++ call :: after →
      call.answer = provisioner (before.map (·.slot.id)) call.slot)
    (hwithin : slot'.Within (calls.filter (·.place = front.length) ++ made)) :
    Kept provisioner ⟨front ++ slot' :: back, calls ++ made,
      gone ++ slot'.abandonment?.toList⟩ where
  answers := hanswers
  places := by
    intro call hcall
    show ∃ other, (front ++ slot' :: back)[call.place]? = some other ∧ other.config = call.slot
    rw [getElem?_replace front back slot slot']
    split
    · next hplace =>
      refine ⟨slot', rfl, hconfig.trans ?_⟩
      rcases List.mem_append.1 hcall with hcall | hcall
      · obtain ⟨other, hother, heq⟩ := hb.places call hcall
        rw [hplace, List.getElem?_append_right (Nat.le_refl _), Nat.sub_self] at hother
        rw [← heq, ← Option.some.inj hother]
      · exact (hmade call hcall).2.symm
    · next hplace =>
      rcases List.mem_append.1 hcall with hcall | hcall
      · exact hb.places call hcall
      · exact absurd (hmade call hcall).1 hplace
  within := by
    intro i other hi
    rw [getElem?_replace front back slot slot'] at hi
    rw [List.filter_append]
    -- The new calls are for this place: here they are all to be counted, and elsewhere none.
    split at hi
    · next heq =>
      subst heq
      have hall : made.filter (·.place = front.length) = made :=
        List.filter_eq_self.2 fun call hcall ↦ by simp [(hmade call hcall).1]
      rw [← Option.some.inj hi, hall]
      exact hwithin
    · next hne =>
      have hnone : made.filter (·.place = i) = [] :=
        List.filter_eq_nil_iff.2 fun call hcall ↦ by simp [(hmade call hcall).1, Ne.symm hne]
      rw [hnone, List.append_nil]
      exact hb.within i other hi
  gone := abandonments_replace (BackupSlot.abandonment?_of_ne hlive) hb.gone

/-- What a book says of its places it says of the slot in the middle, with the calls for that place.
-/
theorem Kept.within_middle (hb : Kept provisioner ⟨front ++ slot :: back, calls, gone⟩) :
    slot.Within (calls.filter (·.place = front.length)) := by
  refine hb.within front.length slot ?_
  show (front ++ slot :: back)[front.length]? = some slot
  rw [List.getElem?_append_right (Nat.le_refl _), Nat.sub_self]
  rfl

/-- **A turn keeps the book.** -/
theorem Turn.kept (h : Turn provisioner b b') (hb : Kept provisioner b) : Kept provisioner b' := by
  cases h with
  | @ask front back slot calls gone answer h hword hanswer =>
    refine hb.replace _ _ (slot.answered_config answer) (h.trans_ne SlotState.noConfusion)
      (fun call hcall ↦ ?_) (fun before call after heq ↦ ?_)
      (hb.within_middle.ask h hword ⟨front.length, slot.config, answer⟩)
    · rw [List.mem_singleton.1 hcall]
      exact ⟨rfl, rfl⟩
    -- The call in question is the last one, which was answered just now, or an earlier one.
    · rcases List.eq_nil_or_concat after with rfl | ⟨after, last, rfl⟩
      · obtain ⟨rfl, hlast⟩ := List.append_inj' heq rfl
        rw [← List.singleton_inj.1 hlast]
        exact hanswer.symm
      · rw [List.concat_eq_append, ← List.cons_append, ← List.append_assoc] at heq
        exact hb.answers before call after (List.append_inj' heq rfl).1
  | @giveBack front back slot calls gone h =>
    have hreplaced := hb.replace slot.givenBack [] rfl (h.trans_ne SlotState.noConfusion)
      (fun _ hcall ↦ absurd hcall List.not_mem_nil) (by simpa using hb.answers)
      (by simpa using hb.within_middle.giveBack)
    simpa using hreplaced

/-- The book is kept in all turns, by induction on them. -/
theorem Turns.kept (h : Turns provisioner b b') (hb : Kept provisioner b) :
    Kept provisioner b' := by
  induction h with
  | refl => exact hb
  | tail _ hturn ih => exact hturn.kept ih

/-- A turn of one slot, and then turns of those behind it. -/
theorem Turn.then {slot' : BackupSlot} {rest rest' : List BackupSlot} {call : Call}
    {made : List Call} {told more : List Abandonment}
    (h : Turn provisioner ⟨front ++ slot :: rest, calls, gone⟩
      ⟨front ++ slot' :: rest, calls ++ [call], gone ++ told⟩)
    (hrest : Turns provisioner ⟨front ++ [slot'] ++ rest, calls ++ [call], gone ++ told⟩
      ⟨front ++ [slot'] ++ rest', calls ++ [call] ++ made, gone ++ told ++ more⟩) :
    Turns provisioner ⟨front ++ slot :: rest, calls, gone⟩
      ⟨front ++ slot' :: rest', calls ++ call :: made, gone ++ (told ++ more)⟩ := by
  rw [← List.append_cons, ← List.append_cons, ← List.append_cons, List.append_assoc gone] at hrest
  exact hrest.head h

/-! ### Passes and releases -/

/-- Where a pass with such calls left off, if it ended in a panic: at a slot that is available
still, whose call panicked or whose attempts cannot be counted any further. -/
def LeavesOff (made : List Call) (pass : PoolPass) : Prop :=
  ∀ text, pass.outcome = .panicked text →
    ∃ slot ∈ pass.slots, slot.state = .available ∧
      ((∃ call ∈ made, call.returned = false) ∨ slot.attempts = UInt32.ofNat (UInt32.size - 1))

/-- One more slot was asked, and refused, before the rest of the pass. -/
theorem LeavesOff.cons {made : List Call} {pass pass' : PoolPass} (h : LeavesOff made pass)
    (call : Call) (hslots : pass'.slots = slot :: pass.slots)
    (houtcome : pass'.outcome = pass.outcome) :
    LeavesOff (call :: made) pass' := by
  intro text htext
  obtain ⟨left, hleft, havailable, hcause⟩ := h text (houtcome.symm.trans htext)
  rw [hslots]
  exact ⟨left, List.mem_cons_of_mem _ hleft, havailable,
    hcause.imp_left List.exists_mem_cons_of_exists⟩

/-- **A pass is a sequence of turns, however it ends.** -/
theorem tryEach_turns (provisioner : Provisioner) (front rest : List BackupSlot) (calls : List Call)
    (gone : List Abandonment) (lastCause : Option ClusterError) {history : List String}
    (hhistory : history = calls.map (·.slot.id)) :
    ∃ made : List Call,
      made.map (·.slot.id) = (tryEach provisioner history lastCause rest).asked ∧
      Turns provisioner ⟨front ++ rest, calls, gone⟩
        ⟨front ++ (tryEach provisioner history lastCause rest).slots, calls ++ made,
          gone ++ (tryEach provisioner history lastCause rest).abandoned⟩ ∧
      LeavesOff made (tryEach provisioner history lastCause rest) := by
  induction rest generalizing front calls gone lastCause history with
  | nil =>
    refine ⟨[], rfl, ?_, fun text h ↦ PoolOutcome.noConfusion h⟩
    show Turns provisioner ⟨front ++ [], calls, gone⟩ ⟨front ++ [], calls ++ [], gone ++ []⟩
    rw [List.append_nil calls, List.append_nil gone]
  | cons slot rest ih =>
    -- the pass goes by a slot, stops at an attempt it cannot count, or asks; only a refusal lets it
    -- go on
    rw [tryEach]
    dsimp only
    split
    · next hstate =>
      obtain ⟨made, hasked, hturns, hended⟩ := ih (front ++ [slot]) calls gone lastCause hhistory
      rw [← List.append_cons, ← List.append_cons] at hturns
      exact ⟨made, hasked, hturns,
        fun text htext ↦ List.exists_mem_cons_of_exists (hended text htext)⟩
    · next hstate =>
      have havailable : slot.state = .available := Decidable.not_not.1 hstate
      split
      · next hword =>
        refine ⟨[], rfl, ?_, fun _ _ ↦ ⟨slot, List.mem_cons_self, havailable, .inr hword⟩⟩
        show Turns provisioner _ ⟨front ++ slot :: rest, calls ++ [], gone ++ []⟩
        rw [List.append_nil calls, List.append_nil gone]
      · next hword =>
        have hturn : Turn provisioner ⟨front ++ slot :: rest, calls, gone⟩ _ :=
          .ask havailable hword (congrArg (provisioner · slot.config) hhistory.symm)
        have hcounted : slot.counted.abandonment? = none :=
          BackupSlot.abandonment?_of_ne (havailable.trans_ne SlotState.noConfusion)
        split
        · next receiver lines hanswer =>
          rw [show provisioner history slot.config = _ from hanswer] at hturn
          exact ⟨[_], rfl, .single hturn, fun _ h ↦ PoolOutcome.noConfusion h⟩
        · next text hanswer =>
          rw [show provisioner history slot.config = _ from hanswer,
            show (slot.answered (.panicked text)).abandonment? = none from hcounted] at hturn
          exact ⟨[_], rfl, .single hturn, fun _ _ ↦
            ⟨slot.counted, List.mem_cons_self, havailable, .inl ⟨_, List.mem_cons_self, rfl⟩⟩⟩
        · next cause hanswer =>
          rw [show provisioner history slot.config = _ from hanswer] at hturn
          set call : Call := ⟨front.length, slot.config, .refused cause⟩
          have hhistory' : history ++ [slot.config.id] = (calls ++ [call]).map (·.slot.id) := by
            rw [hhistory, List.map_append]
            rfl
          split
          · next hspent =>
            rw [BackupSlot.answered_of_spent hspent] at hturn
            obtain ⟨made, hasked, hturns, hended⟩ := ih (front ++ [_]) (calls ++ [call])
              (gone ++ [_]) (some (.recoveryExhausted slot.config.id slot.counted.attempts))
              hhistory'
            exact ⟨call :: made, congrArg (_ :: ·) hasked, hturn.then hturns,
              hended.cons call rfl rfl⟩
          · next hleft =>
            rw [BackupSlot.answered_of_left (by simpa using hleft), hcounted] at hturn
            obtain ⟨made, hasked, hturns, hended⟩ := ih (front ++ [_]) (calls ++ [call])
              (gone ++ []) (some cause) hhistory'
            exact ⟨call :: made, congrArg (_ :: ·) hasked, hturn.then hturns,
              hended.cons call rfl rfl⟩

/-- **A release is a turn, or nothing.** -/
theorem release_turns (provisioner : Provisioner) (id : String) (slots : List BackupSlot)
    (calls : List Call) (gone : List Abandonment) :
    Turns provisioner ⟨slots, calls, gone⟩
      ⟨(release id slots).1, calls, gone ++ (release id slots).2⟩ := by
  rcases release_spec id slots with
    heq | ⟨front, slot, back, rfl, hstate, ⟨hleft, heq⟩ | ⟨hspent, heq⟩⟩ <;> rw [heq]
  · rw [List.append_nil]
  · have hturn : Turn provisioner ⟨front ++ slot :: back, calls, gone⟩ _ := .giveBack hstate
    rw [BackupSlot.givenBack_of_left hleft] at hturn
    exact .single hturn
  · have hturn : Turn provisioner ⟨front ++ slot :: back, calls, gone⟩ _ := .giveBack hstate
    rw [BackupSlot.givenBack_of_spent hspent] at hturn
    exact .single hturn

/-- What is given up may be noted in any order. -/
theorem Kept.congr {gone' : List Abandonment} (h : Kept provisioner ⟨slots, calls, gone⟩)
    (hgone : gone'.Perm gone) : Kept provisioner ⟨slots, calls, gone'⟩ :=
  ⟨h.answers, h.places, h.within, hgone.trans h.gone⟩

/-- An available slot whose attempts cannot be counted any further had a call that panicked. -/
theorem Kept.exists_panicked (h : Kept provisioner b) (hslot : slot ∈ b.slots)
    (havailable : slot.state = .available)
    (hword : slot.attempts = UInt32.ofNat (UInt32.size - 1)) :
    ∃ call ∈ b.calls, call.returned = false := by
  obtain ⟨i, hi⟩ := List.mem_iff_getElem?.1 hslot
  have hwithin := h.within i slot hi
  have hroom := hwithin.available havailable
  have hmax := slot.config.maxAttempts.toNat_lt_size
  have hcounted := hwithin.counted
  rw [hword, show (UInt32.ofNat (UInt32.size - 1)).toNat = UInt32.size - 1 by decide] at hcounted
  by_contra hnone
  have hall : ∀ call ∈ b.calls.filter (·.place = i), call.returned = true := by
    intro call hcall
    by_contra hpanicked
    exact hnone ⟨call, (List.mem_filter.1 hcall).1, Bool.eq_false_iff.2 hpanicked⟩
  have hlength := List.countP_eq_length.2 hall
  omega

end BackupPool

namespace Core

open BackupPool (Kept Onward perm_append_right_comm)

variable {joins : Replica → Prop} {arrives : Message → Prop} {start k k' : Core} {calls : List Call}
  {broken : List PoolPass} {pass : PoolPass}

/-- A pass, made on the way from one core to another, that ended in a panic and left a slot
available. -/
structure Broke (joins : Replica → Prop) (arrives : Message → Prop) (start k : Core)
    (pass : PoolPass) : Prop where
  made : ∃ k₁, Moves joins arrives start k₁ ∧ Moves joins arrives k₁.tryPool k ∧ pass = k₁.nextPass
  panicked : ∃ text, pass.outcome = .panicked text
  available : ∃ slot ∈ pass.slots, slot.state = .available

/-- A pass that broke on the way to some core did so on the way to all later ones. -/
theorem Broke.move (h : Broke joins arrives start k pass) (hmove : Move joins arrives k k') :
    Broke joins arrives start k' pass where
  made := by
    obtain ⟨k₁, hbefore, hafter, heq⟩ := h.made
    exact ⟨k₁, hbefore, hafter.tail hmove, heq⟩
  panicked := h.panicked
  available := h.available

/-- The book of a core: the calls of the provisioner since the start, and the passes that ended in a
panic. What was given up was told of, except by those passes. -/
structure Booked (joins : Replica → Prop) (arrives : Message → Prop) (start k : Core)
    (calls : List Call) (broken : List PoolPass) : Prop where
  reached : Moves joins arrives start k
  kept : Kept k.provisioner ⟨k.slots, calls, k.exhaustions ++ broken.flatMap (·.abandoned)⟩
  asked : k.asked = calls.map (·.slot.id)
  counter : k.exhaustedSlots = UInt64.ofNat k.exhaustions.length
  broke : ∀ pass ∈ broken, Broke joins arrives start k pass
  cause : broken ≠ [] → ∃ call ∈ calls, call.returned = false

/-- **A pass keeps the book**, and is noted in it when it ends in a panic. -/
theorem Booked.tryPool (h : Booked joins arrives start k calls broken) :
    (∃ calls' broken', Booked joins arrives start k.tryPool calls' broken') ∧
      Onward k.slots k.tryPool.slots := by
  obtain ⟨made, hasked, hturns, hended⟩ := BackupPool.tryEach_turns k.provisioner [] k.slots calls
    (k.exhaustions ++ broken.flatMap (·.abandoned)) none h.asked
  have hkept := hturns.kept h.kept
  have hreached := h.reached.tail (.tryPool k)
  have hasked' : k.asked ++ k.nextPass.asked = (calls ++ made).map (·.slot.id) := by
    rw [List.map_append, ← h.asked, hasked]
    rfl
  have hcounter := counter_report h.counter k.nextPass.told
  have hbroke : ∀ pass ∈ broken, Broke joins arrives start k.tryPool pass :=
    fun pass hpass ↦ (h.broke pass hpass).move (.tryPool k)
  refine ⟨?_, hturns.onward⟩
  by_cases hcalm : ∀ text, k.nextPass.outcome ≠ .panicked text
  · refine ⟨calls ++ made, broken, hreached, hkept.congr ?_, hasked', hcounter, hbroke,
      fun hne ↦ ?_⟩
    · show ((k.exhaustions ++ k.nextPass.told) ++ broken.flatMap (·.abandoned)).Perm
        ((k.exhaustions ++ broken.flatMap (·.abandoned)) ++ k.nextPass.abandoned)
      rw [PoolPass.told_of_ended hcalm]
      exact perm_append_right_comm ..
    · obtain ⟨call, hcall, hreturned⟩ := h.cause hne
      exact ⟨call, List.mem_append_left _ hcall, hreturned⟩
  · -- the list of the given up is lost with the stack
    obtain ⟨text, houtcome⟩ : ∃ text, k.nextPass.outcome = .panicked text := by
      simpa [Classical.not_forall] using hcalm
    obtain ⟨slot, hslot, havailable, hcause⟩ := hended text houtcome
    refine ⟨calls ++ made, broken ++ [k.nextPass], hreached, hkept.congr ?_, hasked', hcounter,
      ?_, fun _ ↦ ?_⟩
    · show
        ((k.exhaustions ++ k.nextPass.told) ++ (broken ++ [k.nextPass]).flatMap (·.abandoned)).Perm
        ((k.exhaustions ++ broken.flatMap (·.abandoned)) ++ k.nextPass.abandoned)
      rw [PoolPass.told_of_panicked houtcome, List.append_nil, List.flatMap_append,
        List.flatMap_singleton, List.append_assoc]
    · intro pass hpass
      rcases List.mem_append.1 hpass with hpass | hpass
      · exact hbroke pass hpass
      · rw [List.mem_singleton.1 hpass]
        exact ⟨⟨k, h.reached, .refl, rfl⟩, ⟨text, houtcome⟩, ⟨slot, hslot, havailable⟩⟩
    · rcases hcause with ⟨call, hcall, hreturned⟩ | hword
      · exact ⟨call, List.mem_append_right _ hcall, hreturned⟩
      · exact hkept.exists_panicked hslot havailable hword

/-- **A release keeps the book.** -/
theorem Booked.release (h : Booked joins arrives start k calls broken) (id : String) :
    Booked joins arrives start (k.release id) calls broken ∧
      Onward k.slots (k.release id).slots := by
  have hturns := BackupPool.release_turns k.provisioner id k.slots calls
    (k.exhaustions ++ broken.flatMap (·.abandoned))
  exact ⟨⟨h.reached.tail (.release k id), (hturns.kept h.kept).congr (perm_append_right_comm ..),
    h.asked, counter_report h.counter _,
    fun pass hpass ↦ (h.broke pass hpass).move (.release k id), h.cause⟩,
    hturns.onward⟩

/-- **Every move keeps the book.** -/
theorem Booked.move (h : Booked joins arrives start k calls broken)
    (hmove : Move joins arrives k k') :
    (∃ calls' broken', Booked joins arrives start k' calls' broken') ∧
      Onward k.slots k'.slots := by
  have hreached := h.reached.tail hmove
  have hbroke : ∀ pass ∈ broken, Broke joins arrives start k' pass :=
    fun pass hpass ↦ (h.broke pass hpass).move hmove
  cases hmove with
  | tryPool => exact h.tryPool
  | release id => exact ⟨⟨calls, broken, (h.release id).1⟩, (h.release id).2⟩
  | change | create | join | leave | mark | unmark =>
    exact ⟨⟨calls, broken, hreached, h.kept, h.asked, h.counter, hbroke, h.cause⟩, .refl _⟩

/-- The book can be continued along any run, by induction on its moves. -/
theorem Booked.moves (h : Booked joins arrives start k calls broken)
    (hmoves : Moves joins arrives k k') :
    (∃ calls' broken', Booked joins arrives start k' calls' broken') ∧
      Onward k.slots k'.slots := by
  induction hmoves with
  | refl => exact ⟨⟨calls, broken, h⟩, .refl _⟩
  | tail _ hmove ih =>
    obtain ⟨⟨calls', broken', hbooked⟩, honward⟩ := ih
    exact ⟨(hbooked.move hmove).1, honward.trans (hbooked.move hmove).2⟩

end Core

namespace Cluster

variable {joins : Replica → Prop} {arrives : Message → Prop}

/-- A new cluster has asked for nothing. -/
theorem new_booked (config : Config) (sink : SnapshotSink) (provisioner : Provisioner)
    (now : WallTime) (hmax : ∀ slot ∈ config.faultTolerance.backupPool, 1 ≤ slot.maxAttempts) :
    Core.Booked joins arrives (new config sink provisioner now).core
      (new config sink provisioner now).core
      [] [] where
  reached := .refl
  kept := {
    answers := fun before call after heq ↦ by simp at heq
    places := fun _ hcall ↦ absurd hcall List.not_mem_nil
    within := by
      intro i slot hi
      obtain ⟨slotConfig, hmem, rfl⟩ := List.mem_map.1 (List.mem_of_getElem? hi)
      exact BackupSlot.within_fresh (hmax slotConfig hmem)
    gone := by
      show List.Perm [] ((config.faultTolerance.backupPool.map BackupSlot.fresh).filterMap
        BackupSlot.abandonment?)
      rw [abandonments_fresh] }
  asked := rfl
  counter := rfl
  broke := fun _ hpass ↦ absurd hpass List.not_mem_nil
  cause := fun hne ↦ absurd rfl hne

/-- **The slots under panics.** Let every slot of the pool have at least one attempt, and let each
call of the provisioner deliver, refuse or panic. Then after any run there are the calls that were
made and the passes that ended in a panic, such that:

* the calls are those the provisioner noted, in order, with its answers, each for a slot of the
  pool;
* a slot was attempted as often as it was asked, and the calls for it that returned are within its
  limit, with room for another while it is available;
* an abandoned slot has no attempts left, and is the same after any further run;
* the abandoned slots are those that were told of, in one event each, and those that the broken
  passes had given up; the counter of the exhausted slots is the number of the events;
* a broken pass was made on the way and left a slot available, and there are none without a call
  that panicked. -/
theorem slots_under_panics (config : Config) (sink : SnapshotSink) (provisioner : Provisioner)
    (now : WallTime) (ops : List Operation)
    (hmax : ∀ slot ∈ config.faultTolerance.backupPool, 1 ≤ slot.maxAttempts) :
    let start := new config sink provisioner now
    let c := start.run ops
    let abandoned := c.healing.slots.filter (·.state = .abandoned)
    let told := c.bus.published.toList.filterMap Event.exhaustion?
    c.healing.slots.map (·.config) = config.faultTolerance.backupPool ∧
    ∃ (calls : List Call) (broken : List PoolPass),
      calls.map (·.slot.id) = c.healing.asked ∧
      (∀ before call after, calls = before ++ call :: after →
        call.answer = provisioner (before.map (·.slot.id)) call.slot) ∧
      (∀ call ∈ calls, config.faultTolerance.backupPool[call.place]? = some call.slot) ∧
      (∀ (i : Nat) (slot : BackupSlot), c.healing.slots[i]? = some slot →
        slot.attempts.toNat = (calls.filter (·.place = i)).length ∧
        (calls.filter (·.place = i)).countP Call.returned ≤ slot.config.maxAttempts.toNat ∧
        (slot.state = .available →
          (calls.filter (·.place = i)).countP Call.returned < slot.config.maxAttempts.toNat) ∧
        (slot.state = .abandoned → slot.config.maxAttempts ≤ slot.attempts ∧
          ∀ more, (c.run more).healing.slots[i]? = some slot)) ∧
      (told ++ broken.flatMap (·.abandoned)).Perm
        (abandoned.map fun slot ↦ ⟨slot.config.id, slot.attempts⟩) ∧
      c.healing.counters.exhaustedSlots = UInt64.ofNat told.length ∧
      (∀ pass ∈ broken, Core.Broke (fun _ ↦ True) (fun _ ↦ True) start.core c.core pass) ∧
      ((∀ call ∈ calls, call.returned = true) → broken = []) := by
  intro start c abandoned told
  have hnew : start.core.Sound fun _ ↦ True := new_sound fun _ _ _ _ _ ↦ trivial
  have hmoves := run_reaches (c := start) ops hnew
  obtain ⟨⟨calls, broken, hbooked⟩, honward⟩ :=
    (new_booked config sink provisioner now hmax).moves hmoves
  have hprovisioner : c.core.provisioner = provisioner := hmoves.fixed.1
  have hconfigs : c.healing.slots.map (·.config) = config.faultTolerance.backupPool := by
    refine honward.config_eq.trans ?_
    show (config.faultTolerance.backupPool.map BackupSlot.fresh).map (·.config) = _
    rw [List.map_map]
    exact List.map_id _
  refine ⟨hconfigs, calls, broken, hbooked.asked.symm, ?_, ?_, ?_, ?_, hbooked.counter,
    hbooked.broke, ?_⟩
  · intro before call after heq
    rw [← hprovisioner]
    exact hbooked.kept.answers before call after heq
  · intro call hcall
    obtain ⟨slot, hslot, hconfig⟩ := hbooked.kept.places call hcall
    rw [← hconfigs, List.getElem?_map,
      show c.healing.slots[call.place]? = some slot from hslot, ← hconfig]
    rfl
  · intro i slot hi
    have hwithin := hbooked.kept.within i slot hi
    refine ⟨hwithin.counted, hwithin.returned, hwithin.available,
      fun hslot ↦ ⟨hwithin.abandoned hslot, ?_⟩⟩
    -- The run goes on from a state that was reached by moves, so the same book goes on with it.
    intro more
    exact (hbooked.moves (run_reaches more (hnew.moves hmoves))).2.abandoned i slot hi hslot
  · rw [← abandonments_eq]
    exact hbooked.kept.gone
  · intro hreturned
    by_contra hne
    obtain ⟨call, hcall, hpanicked⟩ := hbooked.cause hne
    rw [hreturned call hcall] at hpanicked
    cases hpanicked

/-- A provisioner that has no place for the first slot, and a bug at the second. -/
def panicSecond : Provisioner := fun _ slot ↦
  if slot.id = "first" then .refused (.provisionFailed slot.id "") else .panicked "provisioner bug"

/-- After two provisionings the second slot, which may be tried once, was asked twice and is
available still; the first was given up, and nobody was told. -/
theorem slots_overrun_by_panics :
    ((new twoSlots .discard panicSecond default).run [.provision, .provision]).healing.asked =
      ["first", "second", "second"] ∧
    ((new twoSlots .discard panicSecond default).run [.provision, .provision]).healing.slots.map
      (fun slot ↦ (slot.config.maxAttempts, slot.attempts, slot.state)) =
        [(1, 1, .abandoned), (1, 2, .available)] ∧
    ((new twoSlots .discard panicSecond default).run
      [.provision, .provision]).bus.published.toList.filterMap Event.exhaustion? = [] ∧
    ((new twoSlots .discard panicSecond default).run
      [.provision, .provision]).healing.counters.exhaustedSlots = 0 := by
  decide +kernel

/-- There is a broken pass that gave the first slot up, untold. -/
theorem slots_under_panics_twoSlots :
    (∀ slot ∈ twoSlots.faultTolerance.backupPool, 1 ≤ slot.maxAttempts) ∧
    ∃ broken : List PoolPass, (broken.flatMap (·.abandoned)).Perm [⟨"first", 1⟩] ∧
      ∀ pass ∈ broken, ∃ text, pass.outcome = .panicked text := by
  have hmax : ∀ slot ∈ twoSlots.faultTolerance.backupPool, 1 ≤ slot.maxAttempts := by decide
  obtain ⟨-, calls, broken, -, -, -, -, hgone, -, hbroke, -⟩ :=
    slots_under_panics twoSlots .discard panicSecond default [.provision, .provision] hmax
  have htold : ((new twoSlots .discard panicSecond default).run
      [.provision, .provision]).bus.published.toList.filterMap Event.exhaustion? = [] := by
    decide +kernel
  have habandoned : (((new twoSlots .discard panicSecond default).run
      [.provision, .provision]).healing.slots.filter (·.state = .abandoned)).map
        (fun slot ↦ (⟨slot.config.id, slot.attempts⟩ : Abandonment)) = [⟨"first", 1⟩] := by
    decide +kernel
  rw [htold, List.nil_append, habandoned] at hgone
  exact ⟨hmax, broken, hgone, fun pass hpass ↦ (hbroke pass hpass).panicked⟩

end Cluster

end SensorCluster
