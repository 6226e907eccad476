import SensorCluster.Proofs.Bench
import SensorCluster.Proofs.Vectors

/-!
# The stamps of stored readings

A receiver that stores a reading raises the entry of its own id in its vector, and answers with the
vector. So what it answers at its own id is the stamp of the reading, one more than before: the pair
of the id and the stamp would name one reading for good if the entry never fell.

**A restore replaces the vector.** It is only made when the snapshot has seen more messages, and
those need not be the ones that the receiver has stored: a peer that never heard of them sets it
back, and the next reading gets a stamp that an earlier one has had (`stamps_repeat`). As long as no
call sets a receiver back its stamps increase, and no pair names two readings (`stamps_increase`).

## What it rests on

* Messages, lifecycles and deletions never lower the own entry, since a message is merged in. Where
  it falls the message count rises (`ownEntry_step`), as it does by a restore alone.
* A stamp is the own entry after its call and above the own entry before it (`ownEntry_of_stamp`).
  So all that is stamped later is stamped higher.
-/

namespace SensorCluster

namespace Replica

variable {r r' r'' : Replica} {m : Message} {outcome : ProcessOutcome}

/-- What the vector of a receiver holds for the receiver itself. -/
def ownEntry (r : Replica) : UInt64 := r.vector.get r.id

/-- The same receiver at a later time, when it has accepted no message in between. -/
structure Advances (r r' : Replica) : Prop where
  id_eq : r'.id = r.id
  total_le : r.total ≤ r'.total
  /-- The own entry only falls when the count rises. -/
  ownEntry_le_or : r.ownEntry ≤ r'.ownEntry ∨ r.total < r'.total

theorem Advances.refl (r : Replica) : r.Advances r :=
  ⟨rfl, UInt64.le_refl _, .inl (UInt64.le_refl _)⟩

theorem Advances.trans (h : r.Advances r') (h' : r'.Advances r'') : r.Advances r'' := by
  refine ⟨h'.id_eq.trans h.id_eq, UInt64.le_trans h.total_le h'.total_le, ?_⟩
  rcases h.ownEntry_le_or with hown | hlt
  · rcases h'.ownEntry_le_or with hown' | hlt'
    · exact .inl (UInt64.le_trans hown hown')
    · exact .inr (UInt64.lt_of_le_of_lt h.total_le hlt')
  · exact .inr (UInt64.lt_of_lt_of_le hlt h'.total_le)

/-- A restore puts a larger count in place, or nothing. -/
theorem advances_restore (r : Replica) (s : Snapshot) : r.Advances (r.restore s).2 := by
  rw [restore]
  split
  · next hlt => exact ⟨rfl, UInt64.le_of_lt hlt, .inr hlt⟩
  · exact .refl r

/-- A message does not lower the own entry. -/
theorem ownEntry_le_of_process (h : r.process m = .ok (outcome, r')) :
    r.ownEntry ≤ r'.ownEntry := by
  have hmerged := VersionVector.get_le_get_merge_left r.vector m.vector r.id
  rw [ownEntry, ownEntry, (process_eq_ok h).2.1, (vector_of_process h).2.2]
  split
  · exact UInt64.le_trans hmerged (VersionVector.get_le_get_increment ..)
  · exact hmerged

/-- A reading that is stored raises the own entry, unless that is the largest word. -/
theorem ownEntry_lt_of_stored (h : r.process m = .ok (outcome, r'))
    (hstored : outcome.isStored = true) (hlast : r'.ownEntry ≠ UInt64.ofNat (UInt64.size - 1)) :
    r.ownEntry < r'.ownEntry := by
  have hmerged := VersionVector.get_le_get_merge_left r.vector m.vector r.id
  have hown : r'.ownEntry = VersionVector.bump ((r.vector.merge m.vector).get r.id) := by
    rw [ownEntry, (process_eq_ok h).2.1, (vector_of_process h).2.2, if_pos hstored,
      VersionVector.get_increment, if_pos rfl]
  rw [hown] at hlast ⊢
  rcases VersionVector.bump_eq_or ((r.vector.merge m.vector).get r.id) with
    ⟨heq, hsame⟩ | hraised
  · exact absurd (hsame.trans heq) hlast
  · rw [UInt64.le_iff_toNat_le] at hmerged
    rw [UInt64.lt_iff_toNat_lt, hraised]
    exact Nat.lt_succ_of_le hmerged

end Replica

theorem Fleet.Becomes.advances {f : Fleet} {ref : ReplicaRef} {r : Replica} (h : f.Becomes ref r) :
    (f.get ref).Advances r := by
  cases h with
  | lifecycle | conflict => exact ⟨rfl, UInt64.le_refl _, .inl (UInt64.le_refl _)⟩
  | restore source now => exact Replica.advances_restore ..

theorem Fleet.Steps.advances {f f' : Fleet} (h : f.Steps f') (ref : ReplicaRef) :
    (f.get ref).Advances (f'.get ref) :=
  h.relates .refl .trans Fleet.Becomes.advances ref

namespace Bench

variable {b : Bench} {ref : ReplicaRef} {call : Call} {stamp : UInt64}

/-! ### One call -/

/-- The stamp of the reading that a receiver stores in the course of a call, if there is one. -/
def stamp? (b : Bench) (ref : ReplicaRef) (call : Call) : Option UInt64 :=
  (b.accepts? call).bind fun a ↦
    if a.ref = ref ∧ a.outcome.isStored = true then
      some (a.outcome.vector.get (b.cluster.replica ref).id)
    else none

/-- A receiver comes out of a call with more messages and a lower own entry. -/
def SetsBack (b : Bench) (ref : ReplicaRef) (call : Call) : Prop :=
  (b.cluster.replica ref).total < ((b.step call).cluster.replica ref).total ∧
    ((b.step call).cluster.replica ref).ownEntry < (b.cluster.replica ref).ownEntry

instance (b : Bench) (ref : ReplicaRef) (call : Call) : Decidable (b.SetsBack ref call) :=
  inferInstanceAs (Decidable (_ ∧ _))

/-- **One call** lowers nobody's own entry, unless it raises the message count. -/
theorem ownEntry_step (b : Bench) (ref : ReplicaRef) (call : Call) :
    (b.cluster.replica ref).ownEntry ≤ ((b.step call).cluster.replica ref).ownEntry ∨
      (b.cluster.replica ref).total < ((b.step call).cluster.replica ref).total := by
  have hput : ∀ {changed : ReplicaRef} {r : Replica},
      (b.step call).cluster.fleet = b.cluster.fleet.set changed r →
      (b.cluster.replica changed).ownEntry ≤ r.ownEntry ∨
        (b.cluster.replica changed).total < r.total →
      (b.cluster.replica ref).ownEntry ≤ ((b.step call).cluster.replica ref).ownEntry ∨
        (b.cluster.replica ref).total < ((b.step call).cluster.replica ref).total := by
    intro changed r hfleet hr
    rw [Cluster.replica, Cluster.replica, hfleet]
    rcases b.cluster.fleet.get_set_cases changed ref r with hsame | ⟨rfl, hnew⟩
    · rw [hsame]
      exact .inl (UInt64.le_refl _)
    · rw [hnew]
      exact hr
  have heffect := b.step_effect call
  generalize b.accepts? call = acceptance at heffect
  cases heffect with
  | quiet hfleet => exact (hfleet.advances ref).ownEntry_le_or
  | create id address hfleet =>
    rw [Cluster.replica, Cluster.replica, hfleet]
    refine .inl ?_
    by_cases hholds : b.cluster.fleet.Holds ref
    · rw [Fleet.get_add_of_holds hholds]
      exact UInt64.le_refl _
    · -- a number of nobody has no entries
      rw [Fleet.get_of_not_holds hholds]
      exact UInt64.zero_le
  | process h hfleet => exact hput hfleet (.inl (Replica.ownEntry_le_of_process h))
  | forget changed sensor hfleet => exact hput hfleet (.inl (UInt64.le_refl _))
  | backup source hfleet =>
    rw [Cluster.replica, Cluster.replica, hfleet]
    exact .inl (UInt64.le_refl _)
  | restore changed hs hfleet => exact hput hfleet (Replica.advances_restore ..).ownEntry_le_or

theorem ownEntry_le_of_not_setsBack (h : ¬b.SetsBack ref call) :
    (b.cluster.replica ref).ownEntry ≤ ((b.step call).cluster.replica ref).ownEntry := by
  rcases b.ownEntry_step ref call with hown | htotal
  · exact hown
  · exact UInt64.not_lt.1 fun hlt ↦ h ⟨htotal, hlt⟩

/-- **A stamp** is the own entry after the call, and above the own entry before it. -/
theorem ownEntry_of_stamp (h : b.stamp? ref call = some stamp)
    (hlast : stamp ≠ UInt64.ofNat (UInt64.size - 1)) :
    ((b.step call).cluster.replica ref).ownEntry = stamp ∧
      (b.cluster.replica ref).ownEntry < stamp := by
  rw [stamp?] at h
  have heffect := b.step_effect call
  generalize b.accepts? call = acceptance at h heffect
  cases heffect with
  | quiet | create | forget | backup | restore => cases h
  | @process changed m outcome r hprocess hfleet =>
    rw [Option.bind_some] at h
    split at h
    · next hstored =>
      obtain ⟨rfl, hstored⟩ := hstored
      obtain ⟨hrunning, hid, -⟩ := Replica.process_eq_ok hprocess
      have hafter : (b.step call).cluster.replica changed = r := by
        rw [Cluster.replica, hfleet, Fleet.get_set (Fleet.holds_of_isRunning hrunning), if_pos rfl]
      have hown : r.ownEntry = stamp := by
        rw [Replica.ownEntry, hid, ← (Replica.vector_of_process hprocess).1]
        exact Option.some.inj h
      rw [hafter]
      refine ⟨hown, hown ▸ Replica.ownEntry_lt_of_stored hprocess hstored (hown ▸ hlast)⟩
    · cases h

/-! ### Several calls -/

/-- The stamps of the readings that a receiver stores in the course of the calls, oldest first. -/
def stamps (b : Bench) (ref : ReplicaRef) : List Call → List UInt64
  | [] => []
  | call :: rest => (b.stamp? ref call).toList ++ (b.step call).stamps ref rest

/-- None of the calls sets the receiver back. -/
def NeverSetsBack (b : Bench) (ref : ReplicaRef) : List Call → Prop
  | [] => True
  | call :: rest => ¬b.SetsBack ref call ∧ (b.step call).NeverSetsBack ref rest

instance decidableNeverSetsBack (ref : ReplicaRef) :
    (calls : List Call) → (b : Bench) → Decidable (b.NeverSetsBack ref calls)
  | [], _ => .isTrue trivial
  | call :: rest, b =>
    have := decidableNeverSetsBack ref rest (b.step call)
    inferInstanceAs (Decidable (_ ∧ _))

/-- **Stamps increase.** From any bench on, what a receiver answers at its own id for the readings
that it stores is strictly increasing, as long as no call sets it back and no answer is the largest
word. So among them the id and the stamp name one reading. -/
theorem stamps_increase (b : Bench) (ref : ReplicaRef) (calls : List Call)
    (hback : b.NeverSetsBack ref calls)
    (hlast : UInt64.ofNat (UInt64.size - 1) ∉ b.stamps ref calls) :
    (b.stamps ref calls).Pairwise (· < ·) ∧
      ∀ stamp ∈ b.stamps ref calls, (b.cluster.replica ref).ownEntry < stamp := by
  induction calls generalizing b with
  | nil => exact ⟨.nil, fun _ h ↦ absurd h List.not_mem_nil⟩
  | cons call rest ih =>
    obtain ⟨hrest, habove⟩ := ih (b.step call) hback.2 fun h ↦ hlast (List.mem_append_right _ h)
    have hown := ownEntry_le_of_not_setsBack hback.1
    rw [stamps] at hlast ⊢
    cases hstamp : b.stamp? ref call with
    | none =>
      exact ⟨hrest, fun stamp h ↦ UInt64.lt_of_le_of_lt hown (habove stamp h)⟩
    | some first =>
      rw [hstamp] at hlast
      obtain ⟨hafter, hfirst⟩ :=
        ownEntry_of_stamp hstamp fun heq ↦ hlast (heq ▸ List.mem_cons_self)
      rw [hafter] at habove
      refine ⟨List.pairwise_cons.2 ⟨habove, hrest⟩, fun stamp h ↦ ?_⟩
      rcases List.mem_cons.1 h with rfl | h
      · exact hfirst
      · exact UInt64.lt_trans hfirst (habove stamp h)

/-- One receiver overwrites the other, stores a reading on top of its data, and is overwritten in
turn. -/
def backAndForth : List Call :=
  [.create "a" "", .start 0, .create "b" "", .start 1,
    .process 0 (.data "k" "s" "t" 0.0 1 1), .syncPair 0 1,
    .process 1 (.data "l" "s" "t" 0.0 2 2), .syncPair 0 1,
    .process 0 (.data "m" "s" "t" 0.0 3 3)]

/-- What the first receiver gets back covers what it gave, so its stamps go on. -/
theorem stamps_increase_backAndForth :
    (new .default .discard .inMemory default).stamps 0 backAndForth = [1, 2] ∧
      ((new .default .discard .inMemory default).stamps 0 backAndForth).Pairwise (· < ·) :=
  ⟨by decide +kernel,
    (stamps_increase (new .default .discard .inMemory default) 0 backAndForth (by decide +kernel)
      (by decide +kernel)).1⟩

/-- A receiver stores a reading, and is overwritten by one that has seen two others. -/
def setBack : List Call :=
  [.create "a" "", .start 0, .create "b" "", .start 1,
    .process 0 (.data "k" "s" "t" 0.0 1 1),
    .process 1 (.data "l" "u" "t" 0.0 1 1), .process 1 (.data "m" "u" "t" 0.0 2 2),
    .syncPair 0 1, .process 0 (.data "n" "s" "t" 0.0 2 2)]

/-- Its next reading gets the stamp of the first, although no message has a counter for a receiver
and all counters are small. -/
theorem stamps_repeat :
    let start := new .default .discard .inMemory default
    start.stamps 0 setBack = [1, 1] ∧
      ((start.accepted setBack).map fun a ↦ (a.ref, a.message.id)) =
        [(0, "k"), (1, "l"), (1, "m"), (0, "n")] ∧
      (∀ a ∈ start.accepted setBack, a.outcome.isStored = true ∧
        a.message.vector.get "a" = 0 ∧ a.message.vector.get "b" = 0 ∧
        a.outcome.vector.maxCounter ≤ 2) := by
  decide +kernel

end Bench

end SensorCluster
