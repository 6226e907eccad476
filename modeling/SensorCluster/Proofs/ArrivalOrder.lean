import SensorCluster.Proofs.Dominance
import SensorCluster.Proofs.Inheritance
import Mathlib.Data.Prod.Lex
import Mathlib.Order.WithBot

/-!
# The order of arrival

Messages reach the receivers of a cluster in any order, and a receiver decides about each one as it
comes. **What it holds in the end does not depend on the order**: the same messages leave the same
records, the same count and the same vector, all but the receiver's own entry (`order_of_arrival`).
That entry counts the readings that were stored when they came, and the conflicts those that came
too late; which reading is one or the other depends on the order, and how many there are of both
together does not.

## What it rests on

* The record of a sensor is the latest candidate, by timestamp and then by clock (`rank`). Two
  candidates can be offered in either order, unless they tie and are not the same (`apply_comm`).
  What is stored already may tie with both: it stays in either order.
* Merging is a maximum, entry by entry.
* `Replica.After` says what several messages make of a receiver, as folds over the messages. So an
  order of arrival is an order of folding, and folds of steps that commute are the same for all
  permutations.
-/

namespace SensorCluster

/-! ### The latest candidate -/

namespace RecordIndex

variable {stored : Option SensorRecord} {a b candidate : SensorRecord}

/-- The place of a record in the order of writing: below all others when there is no record. -/
def rank : Option SensorRecord → WithBot (ℕ ×ₗ ℕ)
  | none => ⊥
  | some r => ((toLex (r.timestamp.toNat, r.clock.toNat) : ℕ ×ₗ ℕ) : WithBot (ℕ ×ₗ ℕ))

/-- Candidates of one rank have the same timestamp and the same clock. -/
theorem eq_of_rank_eq (h : rank (some a) = rank (some b)) :
    a.timestamp = b.timestamp ∧ a.clock = b.clock := by
  obtain ⟨htimestamp, hclock⟩ := Prod.mk.inj (toLex_inj.1 (WithBot.coe_inj.1 h))
  exact ⟨UInt64.toNat_inj.1 htimestamp, UInt64.toNat_inj.1 hclock⟩

/-- A candidate is stored when it ranks above the stored record. -/
theorem isStored_resolve_iff :
    (resolve stored candidate).isStored = true ↔ rank stored < rank (some candidate) := by
  cases stored with
  | none => exact ⟨fun _ ↦ WithBot.bot_lt_coe _, fun _ ↦ rfl⟩
  | some r =>
    rw [rank, rank, WithBot.coe_lt_coe, Prod.Lex.toLex_lt_toLex, resolve]
    simp only [UInt64.lt_iff_toNat_lt]
    split
    · next hlater => simp [Resolution.isStored, Resolution.isConflict, hlater]
    · split
      · next hearlier =>
        simp [Resolution.isStored, Resolution.isConflict]
        omega
      · split
        · next hclock =>
          simp [Resolution.isStored, Resolution.isConflict]
          omega
        · next hclock =>
          simp [Resolution.isStored, Resolution.isConflict]
          omega

/-- The later one of the stored record and a candidate. -/
def latest (stored : Option SensorRecord) (candidate : SensorRecord) : Option SensorRecord :=
  if rank stored < rank (some candidate) then some candidate else stored

theorem latest_of_lt (h : rank stored < rank (some candidate)) :
    latest stored candidate = some candidate := if_pos h

theorem latest_of_not_lt (h : ¬rank stored < rank (some candidate)) :
    latest stored candidate = stored := if_neg h

theorem get?_apply_eq_latest (i : RecordIndex) (candidate : SensorRecord) (sensor : String) :
    (i.apply candidate).2.get? sensor =
      if sensor = candidate.sensor then latest (i.get? sensor) candidate else i.get? sensor := by
  rw [get?_apply, latest]
  by_cases hsensor : sensor = candidate.sensor
  · subst hsensor
    simp only [isStored_resolve_iff, true_and, if_true]
  · simp [hsensor]

/-- Of two candidates that are different at one rank the first one would stay, so they are
excluded. -/
theorem latest_comm (h : rank (some a) = rank (some b) → a = b) :
    latest (latest stored a) b = latest (latest stored b) a := by
  by_cases ha : rank stored < rank (some a)
  · by_cases hb : rank stored < rank (some b)
    · rw [latest_of_lt ha, latest_of_lt hb]
      rcases lt_trichotomy (rank (some a)) (rank (some b)) with hlt | heq | hgt
      · rw [latest_of_lt hlt, latest_of_not_lt hlt.not_gt]
      · rw [h heq]
      · rw [latest_of_not_lt hgt.not_gt, latest_of_lt hgt]
    · -- what does not rank above the stored record does not rank above the first candidate
      rw [latest_of_not_lt hb, latest_of_lt ha]
      exact latest_of_not_lt fun hlt ↦ hb (ha.trans hlt)
  · by_cases hb : rank stored < rank (some b)
    · rw [latest_of_not_lt ha, latest_of_lt hb]
      exact (latest_of_not_lt fun hlt ↦ ha (hb.trans hlt)).symm
    · rw [latest_of_not_lt ha, latest_of_not_lt hb, latest_of_not_lt ha]

/-- **Two candidates in either order** leave the same records, unless they tie and are not the
same. -/
theorem apply_comm (i : RecordIndex)
    (h : a.sensor = b.sensor → a.timestamp = b.timestamp → a.clock = b.clock → a = b) :
    ((i.apply a).2.apply b).2 = ((i.apply b).2.apply a).2 := by
  have hget : ∀ sensor, ((i.apply a).2.apply b).2.get? sensor =
      ((i.apply b).2.apply a).2.get? sensor := by
    intro sensor
    simp only [get?_apply_eq_latest]
    by_cases ha : sensor = a.sensor
    · by_cases hb : sensor = b.sensor
      · simp only [if_pos ha, if_pos hb]
        refine latest_comm fun hrank ↦ ?_
        obtain ⟨htimestamp, hclock⟩ := eq_of_rank_eq hrank
        exact h (ha.symm.trans hb) htimestamp hclock
      · simp only [if_pos ha, if_neg hb]
    · simp only [if_neg ha]
  exact congrArg RecordIndex.mk (KeyMap.ext_get? hget)

/-- The index after a message: a reading is offered to it. -/
def read (i : RecordIndex) (m : Message) : RecordIndex :=
  if m.kind = .data then (i.apply (.ofMessage m)).2 else i

end RecordIndex

/-! ### Several messages -/

/-- Maxima can be taken in either order, entry by entry. -/
theorem VersionVector.combined_max_comm (entry a b : Option UInt64) :
    KeyMap.combined max (KeyMap.combined max entry a) b =
      KeyMap.combined max (KeyMap.combined max entry b) a := by
  rw [KeyMap.combined_assoc word_max_assoc, KeyMap.combined_comm word_max_comm a,
    KeyMap.combined_assoc word_max_assoc]

namespace Replica

variable {r r' r'' : Replica} {m : Message} {messages messages' : List Message}
  {outcome : ProcessOutcome}

/-- Processes messages, one after the other, up to the first that is refused. -/
def processAll (r : Replica) : List Message → Except ClusterError Replica
  | [] => .ok r
  | m :: rest =>
    match r.process m with
    | .ok (_, r') => r'.processAll rest
    | .error cause => .error cause

/-- The readings that a receiver has decided about: those in conflict, and those that its own entry
counts. -/
def decided (r : Replica) : Nat := r.conflicts.toNat + (r.vector.get r.id).toNat

/-- What several messages make of a receiver. -/
structure After (r : Replica) (messages : List Message) (r' : Replica) : Prop where
  id_eq : r'.id = r.id
  state_eq : r'.state = r.state
  index_eq : r'.index = messages.foldl RecordIndex.read r.index
  entry_eq : ∀ node, node ≠ r.id → r'.vector.counters.get? node =
    messages.foldl (fun entry m ↦ KeyMap.combined max entry (m.vector.counters.get? node))
      (r.vector.counters.get? node)
  total_eq : r'.total = r.total + UInt64.ofNat messages.length
  /-- Short of a word of messages, none of which has a counter for the receiver. -/
  decided_eq : (∀ m ∈ messages, m.vector.get r.id = 0) →
    r.decided + messages.length < UInt64.size →
    r'.decided = r.decided + messages.countP (·.kind = .data)

theorem After.refl (r : Replica) : r.After [] r where
  id_eq := rfl
  state_eq := rfl
  index_eq := rfl
  entry_eq _ _ := rfl
  total_eq := (UInt64.add_zero _).symm
  decided_eq _ _ := rfl

theorem After.trans (h : r.After messages r') (h' : r'.After messages' r'') :
    r.After (messages ++ messages') r'' where
  id_eq := h'.id_eq.trans h.id_eq
  state_eq := h'.state_eq.trans h.state_eq
  index_eq := by rw [h'.index_eq, h.index_eq, List.foldl_append]
  entry_eq node hnode := by
    rw [h'.entry_eq node (by rwa [h.id_eq]), h.entry_eq node hnode, List.foldl_append]
  total_eq := by
    rw [h'.total_eq, h.total_eq, UInt64.add_assoc, ← UInt64.ofNat_add, List.length_append]
  decided_eq hforeign hshort := by
    rw [List.length_append] at hshort
    have hfirst := h.decided_eq (fun m hm ↦ hforeign m (List.mem_append_left _ hm)) (by omega)
    have hfew : messages.countP (·.kind = .data) ≤ messages.length := List.countP_le_length
    have hsecond := h'.decided_eq
      (fun m hm ↦ by rw [h.id_eq]; exact hforeign m (List.mem_append_right _ hm)) (by omega)
    rw [hsecond, hfirst, List.countP_append, Nat.add_assoc]

/-- An offer keeps the state, and a discarded one counts as a conflict. -/
theorem offer_conflicts (r : Replica) (candidate : SensorRecord) :
    (r.offer candidate).2.state = r.state ∧
      (r.offer candidate).2.conflicts =
        if (r.offer candidate).1.isStored then r.conflicts else r.conflicts.increment := by
  simp only [offer]
  split
  · next h => exact ⟨rfl, by simp [Resolution.isStored, h]⟩
  · next h => exact ⟨rfl, by simp [Resolution.isStored, h]⟩

/-- **What a message does to the conflicts**: a reading that is not stored is one more, and nothing
else is. The state stays. -/
theorem conflicts_of_process (h : r.process m = .ok (outcome, r')) :
    r'.state = r.state ∧ r'.conflicts =
      if m.kind = .data ∧ outcome.isStored = false then r.conflicts.increment else r.conflicts := by
  have hstored := isStored_of_process h
  rw [process] at h
  split at h
  · cases h
  · split at h
    · next hdata =>
      obtain ⟨hstate, hconflicts⟩ := (r.absorb m).offer_conflicts (.ofMessage m)
      obtain ⟨-, hr'⟩ := Prod.mk.inj (Except.ok.inj h)
      rw [decide_eq_true hdata, Bool.true_and] at hstored
      rw [offer_fst, show (r.absorb m).index = r.index from rfl, ← hstored] at hconflicts
      rw [← hr']
      refine ⟨hstate, hconflicts.trans ?_⟩
      cases outcome.isStored
      · exact (if_pos ⟨hdata, rfl⟩).symm
      · exact (if_neg fun hdiscarded ↦ Bool.noConfusion hdiscarded.2).symm
    · next hother =>
      obtain ⟨-, rfl⟩ := Prod.mk.inj (Except.ok.inj h)
      exact ⟨rfl, (if_neg fun hdata ↦ hother hdata.1).symm⟩

/-- **One message** makes of a receiver what the messages in a list of one make of it. -/
theorem After.single (h : r.process m = .ok (outcome, r')) : r.After [m] r' := by
  obtain ⟨-, hid, hindex⟩ := process_eq_ok h
  obtain ⟨-, htotal, hvector⟩ := vector_of_process h
  obtain ⟨hstate, hconflicts⟩ := conflicts_of_process h
  refine ⟨hid, hstate, hindex, fun node hnode ↦ ?_, htotal, fun hforeign hshort ↦ ?_⟩
  · have hmerged : r'.vector.counters.get? node = (r.vector.merge m.vector).counters.get? node := by
      rw [hvector]
      split
      · exact KeyMap.get?_insert_of_ne _ _ hnode
      · rfl
    exact hmerged.trans (KeyMap.get?_mergeWith ..)
  · have hmerged : (r.vector.merge m.vector).get r.id = r.vector.get r.id := by
      rw [VersionVector.get_merge, hforeign m (List.mem_singleton.2 rfl), ← UInt64.toNat_inj,
        UInt64.toNat_max]
      exact Nat.max_zero _
    rw [decided, List.length_singleton] at hshort
    rw [decided, decided, hid, hvector, hconflicts]
    cases hstored : outcome.isStored with
    | true =>
      have hdata : m.kind = .data := by
        rw [isStored_of_process h, Bool.and_eq_true, decide_eq_true_eq] at hstored
        exact hstored.1
      have hone : [m].countP (·.kind = .data) = 1 := by simp [hdata]
      rw [hone, if_neg (by simp), if_pos rfl, VersionVector.get_increment, if_pos rfl, hmerged,
        VersionVector.toNat_bump (by omega), Nat.add_assoc]
    | false =>
      rw [if_neg Bool.false_ne_true, hmerged]
      by_cases hkind : m.kind = .data
      · have hone : [m].countP (·.kind = .data) = 1 := by simp [hkind]
        rw [hone, if_pos ⟨hkind, rfl⟩, Counter.toNat_increment (by omega)]
        omega
      · have hnone : [m].countP (·.kind = .data) = 0 := by simp [hkind]
        rw [hnone, if_neg fun hconflict ↦ hkind hconflict.1, Nat.add_zero]

/-- **A running receiver processes any messages.** -/
theorem processAll_after (h : r.isRunning = true) (messages : List Message) :
    ∃ r', r.processAll messages = .ok r' ∧ r.After messages r' := by
  induction messages generalizing r with
  | nil => exact ⟨r, rfl, .refl r⟩
  | cons m rest ih =>
    obtain ⟨outcome, r', hprocess⟩ := exists_process h m
    have hfirst := After.single hprocess
    have hrunning : r'.isRunning = true := by rw [isRunning, hfirst.state_eq]; exact h
    obtain ⟨r'', hrest, hafter⟩ := ih hrunning
    exact ⟨r'', by rw [processAll, hprocess]; exact hrest, hfirst.trans hafter⟩

/-- Messages that tie are the same reading. -/
def TiesAgree (messages : List Message) : Prop :=
  ∀ m ∈ messages, ∀ m' ∈ messages, m.kind = .data → m'.kind = .data → m.sensor = m'.sensor →
    m.timestamp = m'.timestamp → m.clock = m'.clock →
    SensorRecord.ofMessage m = SensorRecord.ofMessage m'

/-- Where no two messages are of one sensor, time and clock, none tie. -/
theorem tiesAgree_of_nodup (h : (messages.map fun m ↦ (m.sensor, m.timestamp, m.clock)).Nodup) :
    TiesAgree messages := by
  intro m hm m' hm' _ _ hsensor htimestamp hclock
  have hsame : (m.sensor, m.timestamp, m.clock) = (m'.sensor, m'.timestamp, m'.clock) := by
    rw [hsensor, htimestamp, hclock]
  rw [List.inj_on_of_nodup_map h hm hm' hsame]

/-- Readings may be read in any order. -/
theorem foldl_read_perm (hties : TiesAgree messages) (hperm : messages.Perm messages')
    (i : RecordIndex) : messages.foldl RecordIndex.read i = messages'.foldl RecordIndex.read i := by
  refine hperm.foldl_eq' (fun m hm m' hm' i ↦ ?_) i
  simp only [RecordIndex.read]
  by_cases hdata : m.kind = .data
  · by_cases hdata' : m'.kind = .data
    · simp only [if_pos hdata, if_pos hdata']
      exact RecordIndex.apply_comm i (hties m hm m' hm' hdata hdata')
    · simp only [if_neg hdata']
  · simp only [if_neg hdata]

/-- **The order of arrival does not matter.** Two running receivers of one id that begin without
data process the same messages, each in an order of its own, where messages that tie are the same
reading. None of them is refused. In the end both have the same records and the same count, and the
same entry in their vectors at every node but their own id. When no message has a counter for their
id, and the messages fit into a word, the conflicts of each and its own entry add up to the number
of readings. -/
theorem order_of_arrival {s : Replica} (hr : r.isRunning = true) (hs : s.isRunning = true)
    (hid : s.id = r.id) (hunused : r.IsUnused) (hunused' : s.IsUnused)
    (hperm : messages.Perm messages') (hties : TiesAgree messages) :
    ∃ r' s', r.processAll messages = .ok r' ∧ s.processAll messages' = .ok s' ∧
      r'.index = s'.index ∧ r'.total = s'.total ∧
      (∀ node, node ≠ r.id →
        r'.vector.counters.get? node = s'.vector.counters.get? node) ∧
      ((∀ m ∈ messages, m.vector.get r.id = 0) → messages.length < UInt64.size →
        r'.conflicts.toNat + (r'.vector.get r.id).toNat = messages.countP (·.kind = .data) ∧
          s'.conflicts.toNat + (s'.vector.get r.id).toNat = messages.countP (·.kind = .data)) := by
  obtain ⟨r', hr', hafter⟩ := processAll_after hr messages
  obtain ⟨s', hs', hafter'⟩ := processAll_after hs messages'
  refine ⟨r', s', hr', hs', ?_, ?_, fun node hnode ↦ ?_, fun hforeign hshort ↦ ?_⟩
  · rw [hafter.index_eq, hafter'.index_eq, hunused.index, hunused'.index,
      foldl_read_perm hties hperm]
  · rw [hafter.total_eq, hafter'.total_eq, hunused.total, hunused'.total, hperm.length_eq]
  · rw [hafter.entry_eq node hnode, hafter'.entry_eq node (by rwa [hid]), hunused.vector,
      hunused'.vector]
    exact hperm.foldl_eq' (fun m _ m' _ entry ↦ VersionVector.combined_max_comm entry ..) _
  · have hnone : ∀ {t : Replica}, t.IsUnused → t.decided = 0 := by
      intro t ht
      rw [decided, ht.conflicts, ht.vector]
      rfl
    have hdecided := hafter.decided_eq hforeign (by rw [hnone hunused]; omega)
    have hdecided' := hafter'.decided_eq
      (fun m hm ↦ by rw [hid]; exact hforeign m (hperm.mem_iff.2 hm))
      (by rw [hnone hunused', ← hperm.length_eq]; omega)
    rw [hnone hunused, decided, hafter.id_eq, Nat.zero_add] at hdecided
    rw [hnone hunused', decided, hafter'.id_eq, hid, Nat.zero_add, ← hperm.countP_eq] at hdecided'
    exact ⟨hdecided, hdecided'⟩

/-- Two readings of one sensor at one time, a later one of it, and a sign of life. -/
def risingReadings : List Message :=
  [.data "k" "s" "t" 0.0 7 1, .data "l" "s" "t" 0.0 7 2, .data "m" "s" "t" 0.0 8 1,
    .heartbeat "n" "s" "t" 8]

/-- In their order all three readings are stored. Backwards only the latest one is, and the others
are conflicts. Both receivers have decided about three. -/
theorem order_of_arrival_backwards :
    let r := { new "a" "x:1" with state := .running, inbound := true }
    let s := { new "a" "y:2" with state := .running, inbound := true }
    ∃ r' s', r.processAll risingReadings = .ok r' ∧ s.processAll risingReadings.reverse = .ok s' ∧
      r'.index = s'.index ∧ r'.conflicts.toNat + (r'.vector.get "a").toNat = 3 ∧
      s'.conflicts.toNat + (s'.vector.get "a").toNat = 3 := by
  intro r s
  have hties : TiesAgree risingReadings := tiesAgree_of_nodup (by decide +kernel)
  obtain ⟨r', s', hr', hs', hindex, -, -, hsum⟩ :=
    order_of_arrival (r := r) (s := s) rfl rfl rfl ⟨rfl, rfl, rfl, rfl⟩ ⟨rfl, rfl, rfl, rfl⟩
      (List.reverse_perm risingReadings).symm hties
  obtain ⟨hsum, hsum'⟩ := hsum (by decide +kernel) (by decide)
  exact ⟨r', s', hr', hs', hindex, hsum, hsum'⟩

end Replica

end SensorCluster
