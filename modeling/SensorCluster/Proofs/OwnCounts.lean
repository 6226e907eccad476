import SensorCluster.Proofs.ArrivalOrder
import SensorCluster.Proofs.ReplicaLife

/-!
# What a receiver has counted

A receiver that is never restored owes all its data to the messages that it accepted itself. It
counts them, it counts the readings among them that it discarded, it raises its own entry for those
that it stored, and it keeps the largest counter for every other node. **So its counters and its
vector can be read off the messages that it accepted and its answers** (`accounts_exact`), whatever
calls to its life and deletions of records came in between. Of the readings neither counter alone
tells the number: how many of them are discarded depends on the records that are there, and a
deletion makes room for older ones.

## What it rests on

* `Accounts` compares a receiver with the list of its acceptances. A message that is accepted adds
  to both (`Accounts.process`), and no other call than a restore changes anything that is compared
  (`Accounts.after`).
* The own entry stops at the largest word, and the counters wrap. The sum is exact as long as the
  messages fit into a word, and none of them has a counter for the receiver.
-/

namespace SensorCluster

namespace Replica

/-- Was the message a reading that was discarded? -/
def ProcessOutcome.isDiscarded (o : ProcessOutcome) : Bool := o.resolution.any Resolution.isConflict

/-- A message that was accepted, with the answer. -/
structure Acceptance where
  message : Message
  outcome : ProcessOutcome

/-- What a call hands over, if the receiver accepts it. -/
def accepts? (r : Replica) : Call → Option Acceptance
  | .process m => match r.process m with
    | .ok (outcome, _) => some ⟨m, outcome⟩
    | .error _ => none
  | _ => none

/-- All that the receiver accepts in the course of the calls. -/
def acceptances (r : Replica) : List Call → List Acceptance
  | [] => []
  | call :: rest => (r.accepts? call).toList ++ (r.after call).acceptances rest

variable {r r' : Replica} {m : Message} {outcome : ProcessOutcome} {log : List Acceptance}
  {call : Call} {calls : List Call}

/-- A reading is stored or discarded, and nothing else is. -/
theorem isDiscarded_of_process (h : r.process m = .ok (outcome, r')) :
    outcome.isDiscarded = (decide (m.kind = .data) && !outcome.isStored) := by
  rw [process] at h
  split at h
  · cases h
  · split at h
    · next hdata =>
      obtain ⟨rfl, -⟩ := Prod.mk.inj (Except.ok.inj h)
      rw [decide_eq_true hdata, Bool.true_and]
      exact (Bool.not_not _).symm
    · next hother =>
      obtain ⟨rfl, -⟩ := Prod.mk.inj (Except.ok.inj h)
      rw [decide_eq_false hother]
      rfl

theorem conflicts_of_isDiscarded (h : r.process m = .ok (outcome, r')) :
    r'.conflicts = if outcome.isDiscarded then r.conflicts.increment else r.conflicts := by
  rw [(conflicts_of_process h).2, isDiscarded_of_process h]
  simp

/-- **What the receiver has counted** is what it accepted. -/
structure Accounts (log : List Acceptance) (r : Replica) : Prop where
  total_eq : r.total = UInt64.ofNat log.length
  conflicts_eq : r.conflicts = UInt64.ofNat (log.countP (·.outcome.isDiscarded))
  entry_eq : ∀ node, node ≠ r.id →
    r.vector.get node = (log.map (·.message.vector.get node)).foldl max 0
  /-- An entry that holds zero is an entry, too. -/
  holds_iff : ∀ node, node ≠ r.id → ((r.vector.counters.get? node).isSome = true ↔
    ∃ a ∈ log, (a.message.vector.counters.get? node).isSome = true)
  /-- Short of a word of messages, none of which has a counter for the receiver. -/
  decided_eq : (∀ a ∈ log, a.message.vector.get r.id = 0) → log.length < UInt64.size →
    r.decided = log.countP (·.message.kind = .data)

namespace Accounts

theorem new (id address : String) : (new id address).Accounts [] where
  total_eq := rfl
  conflicts_eq := rfl
  entry_eq _ _ := rfl
  holds_iff _ _ := by simp [Replica.new, VersionVector.empty]
  decided_eq _ _ := rfl

/-- Neither the life nor the records of a receiver are compared. -/
theorem congr (h : r.Accounts log) (hid : r'.id = r.id) (hvector : r'.vector = r.vector)
    (htotal : r'.total = r.total) (hconflicts : r'.conflicts = r.conflicts) : r'.Accounts log where
  total_eq := htotal.trans h.total_eq
  conflicts_eq := hconflicts.trans h.conflicts_eq
  entry_eq := by
    rw [hid, hvector]
    exact h.entry_eq
  holds_iff := by
    rw [hid, hvector]
    exact h.holds_iff
  decided_eq := by
    rw [decided, hid, hvector, hconflicts]
    exact h.decided_eq

/-- **One message** that is accepted. -/
theorem process (h : r.Accounts log) (hprocess : r.process m = .ok (outcome, r')) :
    r'.Accounts (log ++ [⟨m, outcome⟩]) := by
  have hafter := After.single hprocess
  have hid : r'.id = r.id := hafter.id_eq
  refine ⟨?_, ?_, fun node hnode ↦ ?_, fun node hnode ↦ ?_, fun hforeign hfew ↦ ?_⟩
  · rw [hafter.total_eq, h.total_eq, List.length_append, UInt64.ofNat_add]
    rfl
  · rw [conflicts_of_isDiscarded hprocess, List.countP_append, List.countP_singleton,
      UInt64.ofNat_add, ← h.conflicts_eq]
    split
    · rfl
    · exact (UInt64.add_zero _).symm
  · rw [hid] at hnode
    have hmerged : r'.vector.get node = max (r.vector.get node) (m.vector.get node) := by
      rw [← VersionVector.get_merge, (vector_of_process hprocess).2.2]
      split
      · rw [VersionVector.get_increment, if_neg hnode]
      · rfl
    rw [hmerged, h.entry_eq node hnode, List.map_append, List.foldl_append]
    rfl
  · rw [hid] at hnode
    have hheld : (r'.vector.counters.get? node).isSome = true ↔
        (r.vector.counters.get? node).isSome = true ∨
          (m.vector.counters.get? node).isSome = true := by
      have hentry : r'.vector.counters.get? node =
          KeyMap.combined max (r.vector.counters.get? node) (m.vector.counters.get? node) :=
        hafter.entry_eq node hnode
      rw [hentry]
      cases r.vector.counters.get? node <;> cases m.vector.counters.get? node <;>
        simp [KeyMap.combined]
    rw [hheld, h.holds_iff node hnode]
    simp [or_and_right, exists_or]
  · rw [hid] at hforeign
    rw [List.length_append, List.length_singleton] at hfew
    obtain ⟨hforeign, hown⟩ := List.forall_mem_append.1 hforeign
    have hbefore := h.decided_eq hforeign (by omega)
    have hreadings : log.countP (·.message.kind = .data) ≤ log.length := List.countP_le_length
    have hone := hafter.decided_eq
      (fun m' hm' ↦ List.mem_singleton.1 hm' ▸ hown _ List.mem_cons_self)
      (by rw [hbefore, List.length_singleton]; omega)
    rw [hone, hbefore, List.countP_append, List.countP_singleton, List.countP_singleton]

/-- **One call**, other than a restore. -/
theorem after (h : r.Accounts log) (hcall : ∀ s, call ≠ .restore s) :
    (r.after call).Accounts (log ++ (r.accepts? call).toList) := by
  have hidle : ∀ {r' : Replica}, r'.id = r.id → r'.vector = r.vector → r'.total = r.total →
      r'.conflicts = r.conflicts → r'.Accounts (log ++ []) := by
    rw [List.append_nil]
    exact h.congr
  have hlife : ∀ call : Call, call.isLifecycle = true → (r.after call).Accounts (log ++ []) := by
    intro call hcall
    obtain ⟨state, inbound, heq⟩ := after_of_isLifecycle (r := r) hcall
    rw [heq]
    exact hidle rfl rfl rfl rfl
  cases call with
  | process m =>
    rw [Replica.after, accepts?]
    cases hprocess : r.process m with
    | ok answer => exact h.process hprocess
    | error cause => exact hidle rfl rfl rfl rfl
  | removeRecord | backup => exact hidle rfl rfl rfl rfl
  | restore s => exact absurd rfl (hcall s)
  | start | stop | fail | detach | recover | retire => exact hlife _ rfl

/-- **Any calls**, without a restore. -/
theorem afterAll (h : r.Accounts log) (hcalls : ∀ s, Call.restore s ∉ calls) :
    (r.afterAll calls).Accounts (log ++ r.acceptances calls) := by
  induction calls generalizing r log with
  | nil =>
    rw [acceptances, List.append_nil]
    exact h
  | cons call rest ih =>
    have hfirst := h.after fun s heq ↦ hcalls s (heq ▸ List.mem_cons_self)
    rw [acceptances, ← List.append_assoc]
    exact ih hfirst fun s hs ↦ hcalls s (List.mem_cons_of_mem _ hs)

end Accounts

/-- **A receiver that is never restored** has counted exactly what it accepted, from its creation
and through any calls to its life, deletions and messages. When the accepted messages fit into a
word and none of them has a counter for the receiver,

* its count is the number of messages that it accepted, its conflicts the number of discarded
  readings, and its conflicts and its own entry add up to the readings that it accepted;
* at every other node its counter is the largest that an accepted message had, zero when there was
  none, and it holds an entry there when one of them did;
* a message is accepted if and only if the receiver is running. Then the answer is its vector
  afterwards; otherwise the receiver is unavailable and stays as it is. -/
theorem accounts_exact (id address : String) (calls : List Call)
    (hcalls : ∀ s, Call.restore s ∉ calls)
    (hforeign : ∀ a ∈ (new id address).acceptances calls, a.message.vector.get id = 0)
    (hfew : ((new id address).acceptances calls).length < UInt64.size) :
    let r := (new id address).afterAll calls
    let log := (new id address).acceptances calls
    r.total.toNat = log.length ∧
    r.conflicts.toNat = log.countP (·.outcome.isDiscarded) ∧
    r.conflicts.toNat + (r.vector.get id).toNat = log.countP (·.message.kind = .data) ∧
    (∀ node, node ≠ id → r.vector.get node = (log.map (·.message.vector.get node)).foldl max 0 ∧
      ((r.vector.counters.get? node).isSome = true ↔
        ∃ a ∈ log, (a.message.vector.counters.get? node).isSome = true)) ∧
    (∀ m, r.isRunning = true → ∃ outcome r', r.process m = .ok (outcome, r') ∧
      r.after (.process m) = r' ∧ outcome.vector = r'.vector) ∧
    ∀ m, r.isRunning = false → r.process m = .error (.receiverUnavailable id) ∧
      r.after (.process m) = r := by
  intro r log
  have hid : r.id = id := (new id address).afterAll_id calls
  have haccounts : r.Accounts log := (Accounts.new id address).afterAll hcalls
  obtain ⟨htotal, hconflicts, hentry, hheld, hdecided⟩ := haccounts
  rw [hid] at hentry hheld hdecided
  have hdiscarded : log.countP (·.outcome.isDiscarded) ≤ log.length := List.countP_le_length
  refine ⟨?_, ?_, ?_, fun node hnode ↦ ⟨hentry node hnode, hheld node hnode⟩, fun m hrunning ↦ ?_,
    fun m hidle ↦ ?_⟩
  · rw [htotal, UInt64.toNat_ofNat_of_lt' hfew]
  · rw [hconflicts, UInt64.toNat_ofNat_of_lt' (hdiscarded.trans_lt hfew)]
  · rw [← hdecided hforeign hfew, decided, hid]
  · obtain ⟨outcome, r', hprocess⟩ := exists_process hrunning m
    refine ⟨outcome, r', hprocess, ?_, (vector_of_process hprocess).1⟩
    rw [after, hprocess]
  · have hrefused := process_of_not_isRunning hidle m
    rw [hid] at hrefused
    refine ⟨hrefused, ?_⟩
    rw [after, hrefused]

/-- A reading, an older one and a sign of life arrive. Another reading comes while the receiver is
stopped. Then the record is deleted, and a reading arrives that is older still. -/
def deletedBetween : List Call :=
  [.start, .process (.data "k" "s" "t" 0.0 7 1), .process (.data "l" "s" "t" 0.0 6 2),
    .process (.heartbeat "m" "s" "t" 8), .stop, .process (.data "n" "s" "t" 0.0 9 3), .recover,
    .removeRecord "s", .process (.data "o" "s" "t" 0.0 5 4)]

/-- Four messages were accepted. Of the three readings one was discarded, and the last one found its
place free. The clock of the message that was refused is not among the counters. -/
theorem accounts_exact_deletedBetween :
    let r := (new "a" "x:1").afterAll deletedBetween
    r.total.toNat = 4 ∧ r.conflicts.toNat = 1 ∧ r.conflicts.toNat + (r.vector.get "a").toNat = 3 ∧
      r.vector.get "s" = 4 := by
  intro r
  obtain ⟨htotal, hconflicts, hsum, hentries, -⟩ :=
    accounts_exact "a" "x:1" deletedBetween (by simp [deletedBetween]) (by decide +kernel)
      (by decide +kernel)
  refine ⟨htotal.trans ?_, hconflicts.trans ?_, hsum.trans ?_,
    (hentries "s" (by decide)).1.trans ?_⟩ <;>
    decide +kernel

end Replica

end SensorCluster
