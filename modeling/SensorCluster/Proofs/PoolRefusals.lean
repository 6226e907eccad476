import SensorCluster.Proofs.Histories
import SensorCluster.Proofs.RunningFloor

/-!
# What a refusal of the backup pool says

A provisioning asks the available slots one after the other and, when none yields a receiver,
answers with the cause of the last refusal. A fatal cause is to tell an operator that nothing will
come of the next try either. **A pool that is spent is always told of by a fatal cause, but a fatal
cause does not mean that the pool is spent** (`provision_refusal`). The cause is that of one slot,
the last one available: it is fatal when that slot was given up just now, whatever is left of the
others. With the slots in another order the same refusals would have ended with a cause that is not
fatal (`fatal_with_slot_left`).

## What it rests on

* `tryEach_failed` finds the slot that the cause comes from, by induction on the pool, where the
  cause so far is what the induction carries along.
* `Pass.available_of_none` says what a pass without a receiver leaves: the available slots that had
  more than one attempt.
* Whatever happens to a cluster, its slots stay within their limits (`Chronicle.Answering.entries`),
  so no attempt overflows.
-/

namespace SensorCluster

namespace BackupPool

variable {provisioner : Provisioner} {history : List String} {slots slots' : List BackupSlot}
  {asked : List String} {gone : List Abandonment}

/-- The slots that outlast one more attempt. -/
def lasting (slots : List BackupSlot) : List BackupSlot :=
  slots.filter fun slot ↦ !slot.counted.isExhausted

theorem lasting_cons_of_eq {slot : BackupSlot} (h : slot.counted.isExhausted = false)
    (rest : List BackupSlot) : lasting (slot :: rest) = slot :: lasting rest :=
  List.filter_cons_of_pos (by simpa using h)

theorem lasting_cons_of_ne {slot : BackupSlot} (h : slot.counted.isExhausted = true)
    (rest : List BackupSlot) : lasting (slot :: rest) = lasting rest :=
  List.filter_cons_of_neg (by simpa using h)

/-- **What is left after a pass without a receiver**: the slots that were available before and had
more than one attempt. -/
theorem Pass.available_of_none (h : Pass provisioner history slots slots' asked gone none) :
    available slots' = available (lasting slots) := by
  generalize hr : none = r at h
  induction h with
  | done => rfl
  | @skip _ slot rest _ _ _ _ hstate _ ih =>
    rw [available_cons_of_ne hstate, ih hr]
    cases hspent : slot.counted.isExhausted with
    | false => rw [lasting_cons_of_eq hspent, available_cons_of_ne hstate]
    | true => rw [lasting_cons_of_ne hspent]
  | deliver => cases hr
  | @refuse _ slot _ _ _ _ _ _ hstate _ hleft _ ih =>
    have hcounted : slot.counted.state = .available := hstate
    rw [available_cons_of_eq hcounted, lasting_cons_of_eq hleft, available_cons_of_eq hstate, ih hr]
    rfl
  | abandon _ _ hspent _ ih =>
    rw [available_cons_of_ne SlotState.noConfusion, lasting_cons_of_ne hspent, ih hr]

/-- **Where the cause comes from** that a pass fails with: from the last available slot, which was
given up or has refused. Without an available slot it is the cause so far. -/
theorem tryEach_failed {lastCause : Option ClusterError} {cause : ClusterError}
    (h : (tryEach provisioner history lastCause slots).outcome = .failed cause) :
    (available slots = [] ∧ cause = lastCause.getD .backupPoolEmpty) ∨
    ∃ front slot back answer, slots = front ++ slot :: back ∧ slot.state = .available ∧
      available back = [] ∧
      provisioner (history ++ available front) slot.config = .refused answer ∧
      cause = if slot.counted.isExhausted then
        .recoveryExhausted slot.config.id slot.counted.attempts else answer := by
  induction slots generalizing history lastCause with
  | nil => exact .inl ⟨rfl, (PoolOutcome.failed.inj h).symm⟩
  | cons slot rest ih =>
    rw [tryEach] at h
    dsimp only at h
    split at h
    · next hstate =>
      rcases ih h with ⟨hnone, hcause⟩ |
        ⟨front, last, back, answer, rfl, hlast, hback, hanswer, hcause⟩
      · exact .inl ⟨(available_cons_of_ne hstate).trans hnone, hcause⟩
      · refine .inr ⟨slot :: front, last, back, answer, rfl, hlast, hback, ?_, hcause⟩
        rwa [available_cons_of_ne hstate]
    · next hstate =>
      have havailable : slot.state = .available := Decidable.not_not.1 hstate
      split at h
      · cases h
      · split at h
        · cases h
        · cases h
        · next answer hanswer =>
          -- this slot refused, so a cause is known from here on
          set refusal : ClusterError := if slot.counted.isExhausted then
            .recoveryExhausted slot.config.id slot.counted.attempts else answer with hrefusal
          have hrest : (tryEach provisioner (history ++ [slot.config.id]) (some refusal)
              rest).outcome = .failed cause := by
            rw [hrefusal]
            split at h
            · next hspent => rwa [if_pos hspent]
            · next hleft => rwa [if_neg hleft]
          rcases ih hrest with
            ⟨hnone, hcause⟩ | ⟨front, last, back, answer', rfl, hlast, hback, hanswer', hcause⟩
          · refine .inr ⟨[], slot, rest, answer, rfl, havailable, hnone, ?_, hcause⟩
            rwa [available, List.filter_nil, List.map_nil, List.append_nil]
          · refine .inr ⟨slot :: front, last, back, answer', rfl, hlast, hback, ?_, hcause⟩
            rwa [available_cons_of_eq havailable, ← List.singleton_append, ← List.append_assoc]

end BackupPool

namespace Chronicle

/-- The provisioner answers, and the slots are within their limits. -/
structure Answering (k : Chronicle) : Prop where
  answers : ∀ history slot text, k.provisioner history slot ≠ .panicked text
  bounded : ∀ slot ∈ k.slots, slot.Bounded

variable {k k' : Chronicle}

theorem Answering.entry (h : k.Answering) (hentry : Entry k k') : k'.Answering := by
  cases hentry with
  | @enter e _ => cases e <;> exact ⟨h.answers, h.bounded⟩
  | tryPool =>
    exact ⟨h.answers, (BackupPool.pass_of_tryEach h.answers h.bounded).2.bounded h.bounded⟩
  | release id => exact ⟨h.answers, BackupPool.bounded_release id h.bounded⟩

theorem Answering.entries (h : k.Answering) (hentries : Entries k k') : k'.Answering := by
  induction hentries with
  | refl => exact h
  | tail _ hentry ih => exact ih.entry hentry

end Chronicle

namespace Cluster

variable {c : Cluster}

/-- No slot is available when the ids of the available slots are none. -/
theorem not_hasAvailableSlot_iff :
    ¬c.HasAvailableSlot ↔ BackupPool.available c.healing.slots = [] := by
  rw [BackupPool.available_eq_nil_iff, HasAvailableSlot]
  simp only [not_exists, not_and, ne_eq]

/-- A new cluster answers as its provisioner does, with slots within their limits. -/
theorem new_answering {config : Config} {sink : SnapshotSink} {provisioner : Provisioner}
    {now : WallTime} (hmax : ∀ slot ∈ config.faultTolerance.backupPool, 1 ≤ slot.maxAttempts)
    (hanswers : ∀ history slot text, provisioner history slot ≠ .panicked text) :
    (new config sink provisioner now).chronicle.Answering where
  answers := hanswers
  bounded slot hslot := by
    obtain ⟨slotConfig, hmem, rfl⟩ := List.mem_map.1 hslot
    exact BackupSlot.bounded_fresh (hmax slotConfig hmem)

/-- **What a refusal of the pool says.** Let every slot of the pool have at least one attempt, and
let the provisioner answer in whatever way but without a panic. After any history, when a
provisioning is refused,

* the slots that are available afterwards are those that were before and had more than one attempt;
* if none is, the cause is fatal;
* the cause is that the pool is empty when no slot was available, and otherwise that of the last
  available slot. It is fatal exactly when this slot was given up for it, or when the provisioner's
  own answer was. -/
theorem provision_refusal (config : Config) (sink : SnapshotSink) (provisioner : Provisioner)
    (now : WallTime) (history : List Happening) {cause : ClusterError} {c' : Cluster}
    (hmax : ∀ slot ∈ config.faultTolerance.backupPool, 1 ≤ slot.maxAttempts)
    (hanswers : ∀ history slot text, provisioner history slot ≠ .panicked text) :
    let c := (new config sink provisioner now).undergoAll history
    let slots := c.healing.slots
    c.provision = (.error (.refused cause), c') →
    BackupPool.available c'.healing.slots = BackupPool.available (BackupPool.lasting slots) ∧
    (¬c'.HasAvailableSlot → cause.isFatal = true) ∧
    (BackupPool.available slots = [] ∧ cause = .backupPoolEmpty ∨
      ∃ front slot back answer, slots = front ++ slot :: back ∧ slot.state = .available ∧
        BackupPool.available back = [] ∧
        c.healing.provisioner (c.healing.asked ++ BackupPool.available front) slot.config =
          .refused answer ∧
        (cause = if slot.counted.isExhausted then
          .recoveryExhausted slot.config.id slot.counted.attempts else answer) ∧
        (cause.isFatal = true ↔ slot.counted.isExhausted = true ∨ answer.isFatal = true)) := by
  intro c slots h
  have hanswering : c.chronicle.Answering := by
    have hnone : (new config sink provisioner now).Holding := fun _ h ↦ absurd h List.not_mem_nil
    exact (new_answering hmax hanswers).entries (undergoAll_told history hnone).2
  obtain ⟨-, hpass⟩ : (∀ text, c.core.nextPass.outcome ≠ .panicked text) ∧
      BackupPool.Pass c.healing.provisioner c.healing.asked slots c.core.nextPass.slots
        c.core.nextPass.asked c.core.nextPass.abandoned (BackupPool.yield? c.core.nextPass) :=
    BackupPool.pass_of_tryEach hanswering.answers hanswering.bounded
  have hfailed : c.core.nextPass.outcome = .failed cause := by
    rcases Cluster.provision_spec c with ⟨_, _, hanswer, _⟩ | ⟨cause', houtcome, hanswer, _⟩ |
      ⟨_, _, hanswer, _⟩ <;> rw [h] at hanswer
    · cases hanswer
    · cases hanswer
      exact houtcome
    · cases hanswer
  have hslots : c'.healing.slots = c.core.nextPass.slots := by
    have hafter := (provision_slots c).1
    rwa [h] at hafter
  have hnone : BackupPool.yield? c.core.nextPass = none := by rw [BackupPool.yield?, hfailed]
  rw [hnone] at hpass
  have havailable : BackupPool.available c'.healing.slots =
      BackupPool.available (BackupPool.lasting slots) := by
    rw [hslots]
    exact hpass.available_of_none
  have hcases := BackupPool.tryEach_failed hfailed
  refine ⟨havailable, fun hspent ↦ ?_, ?_⟩
  · rcases hcases with ⟨-, rfl⟩ | ⟨front, slot, back, answer, hbefore, hstate, -, -, rfl⟩
    · rfl
    · -- the last available slot is not available any more, so it was given up
      have hexhausted : slot.counted.isExhausted = true := by
        by_contra hleft
        have hslot : slot ∈ slots := by
          show slot ∈ c.core.slots
          rw [hbefore]
          exact List.mem_append_right _ List.mem_cons_self
        rw [not_hasAvailableSlot_iff, havailable, BackupPool.available_eq_nil_iff] at hspent
        exact hspent slot (List.mem_filter.2 ⟨hslot, by simpa using hleft⟩) hstate
      rw [if_pos hexhausted]
      rfl
  · rcases hcases with ⟨hempty, hcause⟩ |
      ⟨front, slot, back, answer, hbefore, hstate, hback, hanswer, rfl⟩
    · exact .inl ⟨hempty, hcause⟩
    · refine .inr ⟨front, slot, back, answer, hbefore, hstate, hback, hanswer, rfl, ?_⟩
      cases slot.counted.isExhausted with
      | true => simp [ClusterError.isFatal]
      | false => simp

/-- A configuration with two slots, of which the last may be tried only once. -/
def secondOnce : Config :=
  { Config.default with
    faultTolerance := { FaultToleranceConfig.default with
      backupPool := [⟨"first", "", 3⟩, ⟨"second", "", 1⟩] } }

/-- The same slots in the other order. -/
def firstOnce : Config :=
  { Config.default with
    faultTolerance := { FaultToleranceConfig.default with
      backupPool := [⟨"second", "", 1⟩, ⟨"first", "", 3⟩] } }

/-- A provisioner that has no place for anybody. -/
def refuseAll : Provisioner := fun _ slot ↦ .refused (.provisionFailed slot.id "no capacity")

/-- The second slot is given up and makes the cause a fatal one. The first slot has attempts
left. -/
theorem provision_refusal_secondOnce :
    let c := new secondOnce .discard refuseAll default
    c.provision.1 = .error (.refused (.recoveryExhausted "second" 1)) ∧
      BackupPool.available c.provision.2.healing.slots =
        BackupPool.available (BackupPool.lasting c.healing.slots) ∧
      BackupPool.available (BackupPool.lasting c.healing.slots) = ["first"] := by
  intro c
  have hanswer : c.provision.1 = .error (.refused (.recoveryExhausted "second" 1)) := by
    decide +kernel
  have hrefused : c.provision =
      (.error (.refused (.recoveryExhausted "second" 1)), c.provision.2) := by rw [← hanswer]
  have hrefusal := provision_refusal secondOnce .discard refuseAll default [] (by decide)
    (fun _ _ _ heq ↦ by cases heq) hrefused
  exact ⟨hanswer, hrefusal.1, by decide +kernel⟩

/-- **A fatal cause with a slot left.** Both slots refuse, and the cause is fatal though the first
one is still available. In the other order the slots refuse in the same way and end up in the same
states, and the cause is not fatal. -/
theorem fatal_with_slot_left :
    let c := (new secondOnce .discard refuseAll default).provision
    let c' := (new firstOnce .discard refuseAll default).provision
    (c.1 = .error (.refused (.recoveryExhausted "second" 1)) ∧
      (ClusterError.recoveryExhausted "second" 1).isFatal = true ∧ c.2.HasAvailableSlot) ∧
    c'.1 = .error (.refused (.provisionFailed "first" "no capacity")) ∧
      (ClusterError.provisionFailed "first" "no capacity").isFatal = false ∧
      c'.2.healing.slots = c.2.healing.slots.reverse := by
  decide +kernel

end Cluster

end SensorCluster
