import SensorCluster.Placement
import SensorCluster.Proofs.Rosters
import Mathlib.Data.List.Count
import Mathlib.Data.List.Rotate

/-!
# The rotation is fair

A rotation remembers nothing but its position, and that may be anything when a stretch of choices
begins: the choices before it were made while others were running. **From wherever it starts, `m`
choices among `n` running receivers fall on each of them `m / n` times, rounded down or up, and on
nobody else** (`selections_fair`). Where on the roster those stand that are not running does not
matter.

## What it rests on

* As long as nobody starts or stops, choices come in rounds: a round is the list of the running
  receivers, turned so that it begins where the rotation stands (`selections_partial`), and after a
  whole round the next one is the same (`selections_rounds`). The position is a word, so this holds
  up to where it wraps.
* A round is a permutation of the running receivers and what is left over is the beginning of a
  round, which settles every count at once (`count_selections`).

A roster may list a receiver twice. Then it has two turns in a round, and the counts are twice as
large.
-/

namespace SensorCluster

namespace Placement

variable {fleet : Fleet} {roster : Roster} {p : Placement} {m n rounds : Nat}

/-- Chooses one of the listed receivers so many times; the answer is all choices in order. -/
def selections (fleet : Fleet) (roster : Roster) :
    Nat → Placement → List (Option ReplicaRef) × Placement
  | 0, p => ([], p)
  | m + 1, p =>
    let (choice, p) := p.select fleet roster
    let (choices, p) := selections fleet roster m p
    (choice :: choices, p)

/-- The placement with its rotation moved on by so many choices. -/
def movedOn (p : Placement) (m : Nat) : Placement :=
  { p with rotation := ⟨p.rotation.position + UInt64.ofNat m⟩ }

/-- The running receivers in the order in which their turns come. -/
def round (fleet : Fleet) (roster : Roster) (p : Placement) : Roster :=
  (fleet.running roster).rotate p.rotation.position.toNat

theorem movedOn_zero (p : Placement) : p.movedOn 0 = p := by
  rw [movedOn]
  simp

theorem movedOn_add (p : Placement) (m n : Nat) : (p.movedOn m).movedOn n = p.movedOn (m + n) := by
  rw [movedOn, movedOn, movedOn, UInt64.ofNat_add, UInt64.add_assoc]

theorem toNat_movedOn (h : p.rotation.position.toNat + m < UInt64.size) :
    (p.movedOn m).rotation.position.toNat = p.rotation.position.toNat + m := by
  show (p.rotation.position + UInt64.ofNat m).toNat = _
  rw [UInt64.toNat_add, UInt64.toNat_ofNat_of_lt' (by omega)]
  exact Nat.mod_eq_of_lt h

/-- **One choice** takes whoever stands at the position, and moves on. -/
theorem select_eq (hpin : p.pin = none) (hrunning : fleet.running roster ≠ []) :
    p.select fleet roster = ((p.round fleet roster)[0]?, p.movedOn 1) := by
  have hpos : 0 < (fleet.running roster).length := List.length_pos_iff.2 hrunning
  have hchoose : p.rotation.choose (fleet.running roster) =
      ((fleet.running roster)[p.rotation.position.toNat % (fleet.running roster).length]?,
        ⟨p.rotation.position + 1⟩) := by
    rw [Rotation.choose, if_neg]
    simpa using hrunning
  rw [select, hpin]
  dsimp only
  rw [hchoose, round, List.getElem?_rotate hpos, Nat.zero_add, movedOn, hpin]
  rfl

/-- At its beginning the rotation goes along the roster. -/
theorem round_start (fleet : Fleet) (roster : Roster) :
    start.round fleet roster = fleet.running roster := List.rotate_zero _

/-- While somebody is running, one of those is chosen. -/
theorem exists_select (hpin : p.pin = none) (hrunning : fleet.running roster ≠ []) :
    ∃ ref ∈ fleet.running roster, (p.round fleet roster).head? = some ref ∧
      p.select fleet roster = (some ref, p.movedOn 1) := by
  have hround : p.round fleet roster ≠ [] := by
    rwa [round, Ne, List.rotate_eq_nil_iff]
  obtain ⟨ref, rest, heq⟩ := List.exists_cons_of_ne_nil hround
  have href : ref ∈ p.round fleet roster := heq ▸ List.mem_cons_self
  rw [select_eq hpin hrunning, heq]
  exact ⟨ref, List.mem_rotate.1 href, rfl, rfl⟩

/-- While nobody is running there is no choice, and the rotation stays where it is. -/
theorem select_of_none (hpin : p.pin = none) (hnone : fleet.running roster = []) :
    p.select fleet roster = (none, p) := by
  rw [select, hpin]
  dsimp only
  rw [Rotation.choose, if_pos (by simp [hnone]), ← hpin]

theorem length_selections (m : Nat) (p : Placement) :
    (selections fleet roster m p).1.length = m := by
  induction m generalizing p with
  | zero => rfl
  | succ m ih => exact congrArg (· + 1) (ih _)

theorem selections_add (m n : Nat) (p : Placement) :
    selections fleet roster (m + n) p =
      ((selections fleet roster m p).1 ++
        (selections fleet roster n (selections fleet roster m p).2).1,
        (selections fleet roster n (selections fleet roster m p).2).2) := by
  induction m generalizing p with
  | zero => rw [Nat.zero_add]; rfl
  | succ m ih =>
    rw [Nat.add_right_comm, selections, selections]
    dsimp only
    rw [ih]
    rfl

/-- **Within a round** the choices go along it. -/
theorem selections_partial (hpin : p.pin = none) (hrunning : fleet.running roster ≠ [])
    (hm : m ≤ (fleet.running roster).length)
    (hword : p.rotation.position.toNat + m < UInt64.size) :
    selections fleet roster m p = (((p.round fleet roster).take m).map some, p.movedOn m) := by
  induction m with
  | zero => rw [movedOn_zero]; rfl
  | succ m ih =>
    have hpos : 0 < (fleet.running roster).length := List.length_pos_iff.2 hrunning
    -- the choice after `m` of them is the next one in the round
    have hnext : ((p.movedOn m).round fleet roster)[0]? = (p.round fleet roster)[m]? := by
      rw [round, round, toNat_movedOn (by omega), List.getElem?_rotate hpos,
        List.getElem?_rotate hm, Nat.zero_add, Nat.add_comm]
    have hlast : selections fleet roster 1 (p.movedOn m) =
        ([(p.round fleet roster)[m]?], (p.movedOn m).movedOn 1) := by
      rw [selections, select_eq (p := p.movedOn m) hpin hrunning, hnext]
      rfl
    have hin : m < (p.round fleet roster).length := by
      rw [round, List.length_rotate]
      exact hm
    rw [selections_add, ih (by omega) (by omega), hlast, movedOn_add, List.take_add_one,
      List.getElem?_eq_getElem hin, List.map_append]
    rfl

/-- **After whole rounds** the next one is the same again. -/
theorem selections_next (hpin : p.pin = none) (hrunning : fleet.running roster ≠ [])
    (hm : m ≤ (fleet.running roster).length)
    (hword : p.rotation.position.toNat + ((fleet.running roster).length * rounds + m) <
      UInt64.size) :
    selections fleet roster m (p.movedOn ((fleet.running roster).length * rounds)) =
      (((p.round fleet roster).take m).map some,
        p.movedOn ((fleet.running roster).length * rounds + m)) := by
  have hposition := toNat_movedOn (p := p) (m := (fleet.running roster).length * rounds) (by omega)
  have hround : (p.movedOn ((fleet.running roster).length * rounds)).round fleet roster =
      p.round fleet roster := by
    rw [round, hposition, ← List.rotate_mod, Nat.add_mul_mod_self_left, List.rotate_mod]
    rfl
  rw [selections_partial (p := p.movedOn _) hpin hrunning hm (by omega), hround, movedOn_add]

/-- So many rounds, one after the other. -/
theorem selections_rounds (hpin : p.pin = none) (hrunning : fleet.running roster ≠ [])
    (hword : p.rotation.position.toNat + (fleet.running roster).length * rounds < UInt64.size) :
    selections fleet roster ((fleet.running roster).length * rounds) p =
      ((List.replicate rounds (p.round fleet roster)).flatten.map some,
        p.movedOn ((fleet.running roster).length * rounds)) := by
  induction rounds with
  | zero => rw [Nat.mul_zero, movedOn_zero]; rfl
  | succ rounds ih =>
    have hwhole : (p.round fleet roster).take (fleet.running roster).length =
        p.round fleet roster := by
      refine List.take_of_length_le ?_
      rw [round, List.length_rotate]
    rw [Nat.mul_succ] at hword ⊢
    rw [selections_add, ih (by omega), selections_next hpin hrunning (Nat.le_refl _) hword, hwhole,
      List.replicate_succ', List.flatten_concat, List.map_append]

/-- All choices are so many rounds and the beginning of one more. -/
theorem selections_eq (hpin : p.pin = none) (hrunning : fleet.running roster ≠ [])
    (hword : p.rotation.position.toNat + m < UInt64.size) :
    (selections fleet roster m p).1 =
      ((List.replicate (m / (fleet.running roster).length) (p.round fleet roster)).flatten ++
        (p.round fleet roster).take (m % (fleet.running roster).length)).map some := by
  have hpos : 0 < (fleet.running roster).length := List.length_pos_iff.2 hrunning
  have hle : m % (fleet.running roster).length ≤ (fleet.running roster).length :=
    Nat.le_of_lt (Nat.mod_lt m hpos)
  have hm := Nat.div_add_mod m (fleet.running roster).length
  conv_lhs => rw [← hm]
  rw [← hm] at hword
  rw [selections_add, selections_rounds hpin hrunning (by omega),
    selections_next hpin hrunning hle hword, List.map_append]

theorem count_round (ref : ReplicaRef) :
    (p.round fleet roster).count ref = (fleet.running roster).count ref :=
  (List.rotate_perm _ _).count_eq ref

/-- **The turns of a receiver**: as many in each whole round as it has places on the roster, and
those at the beginning of the last one. -/
theorem count_selections (hpin : p.pin = none) (hrunning : fleet.running roster ≠ [])
    (hword : p.rotation.position.toNat + m < UInt64.size) (ref : ReplicaRef) :
    (selections fleet roster m p).1.count (some ref) =
      (fleet.running roster).count ref * (m / (fleet.running roster).length) +
        ((p.round fleet roster).take (m % (fleet.running roster).length)).count ref := by
  rw [selections_eq hpin hrunning hword,
    List.count_map_of_injective _ _ (fun _ _ ↦ Option.some.inj), List.count_append,
    List.count_flatten, List.map_replicate, List.sum_replicate_nat, count_round, Nat.mul_comm]

/-- Whoever is chosen is listed and running. -/
theorem running_of_mem_selections (hpin : p.pin = none) (hrunning : fleet.running roster ≠ [])
    (hword : p.rotation.position.toNat + m < UInt64.size) {choice : Option ReplicaRef}
    (h : choice ∈ (selections fleet roster m p).1) :
    ∃ ref ∈ fleet.running roster, choice = some ref := by
  rw [selections_eq hpin hrunning hword] at h
  obtain ⟨ref, href, rfl⟩ := List.mem_map.1 h
  have hin : ref ∈ p.round fleet roster := by
    rcases List.mem_append.1 href with hwhole | hbegun
    · obtain ⟨round, hround, hin⟩ := List.mem_flatten.1 hwhole
      rwa [← List.eq_of_mem_replicate hround]
    · exact List.mem_of_mem_take hbegun
  exact ⟨ref, List.mem_rotate.1 hin, rfl⟩

/-- A share that does not come out even is rounded up to one more. -/
theorem roundUp_eq (hn : 0 < n) (m : Nat) :
    (m + n - 1) / n = m / n + if m % n = 0 then 0 else 1 := by
  have hm := Nat.div_add_mod m n
  have hlt := Nat.mod_lt m hn
  have hsum : m + n - 1 = n * (m / n) + (m % n + n - 1) := by omega
  rw [hsum, Nat.mul_add_div hn]
  congr 1
  split
  · next hzero => rw [hzero, Nat.zero_add, Nat.div_eq_of_lt (by omega)]
  · next hsome =>
    have hup : m % n + n - 1 = n * 1 + (m % n - 1) := by omega
    rw [hup, Nat.mul_add_div hn, Nat.div_eq_of_lt (by omega)]

theorem roundUp_le (hn : 0 < n) (m : Nat) : (m + n - 1) / n ≤ m / n + 1 := by
  rw [roundUp_eq hn]
  split <;> omega

/-- **The share of a receiver** is that of its places, rounded down or up for each of them. -/
theorem share_selections (hpin : p.pin = none) (hrunning : fleet.running roster ≠ [])
    (hword : p.rotation.position.toNat + m < UInt64.size) (ref : ReplicaRef) :
    (fleet.running roster).count ref * (m / (fleet.running roster).length) ≤
        (selections fleet roster m p).1.count (some ref) ∧
      (selections fleet roster m p).1.count (some ref) ≤ (fleet.running roster).count ref *
        ((m + (fleet.running roster).length - 1) / (fleet.running roster).length) := by
  have hbegun : ((p.round fleet roster).take (m % (fleet.running roster).length)).count ref ≤
      (fleet.running roster).count ref := by
    rw [← count_round (p := p) ref]
    exact (List.take_sublist _ _).count_le ref
  rw [count_selections hpin hrunning hword, roundUp_eq (List.length_pos_iff.2 hrunning),
    Nat.mul_add]
  refine ⟨Nat.le_add_right _ _, Nat.add_le_add_left ?_ _⟩
  split
  · next hzero =>
    rw [hzero]
    exact Nat.zero_le _
  · rwa [Nat.mul_one]

/-- **The rotation is fair.** Let at least one of the listed receivers be running, and let the
rotation stand anywhere, so long as it does not wrap within `m` choices. Then of `m` choices in a
row, while nobody starts or stops and nothing is pinned,

* each is a listed receiver that is running;
* a running receiver that is listed once gets `m / n` of them, rounded down or up, where `n`
  receivers are running;
* in a whole number of rounds each receiver gets as many as there are rounds, times the places that
  it has on the roster;
* of any number of choices each receiver gets its share, rounded down or up for each place. -/
theorem selections_fair (fleet : Fleet) (roster : Roster) (rotation : Rotation) (m : Nat)
    (hrunning : 1 ≤ (fleet.running roster).length)
    (hword : rotation.position.toNat + m < UInt64.size) :
    let n := (fleet.running roster).length
    let choices := (selections fleet roster m ⟨rotation, none⟩).1
    let places (ref : ReplicaRef) := (fleet.running roster).count ref
    choices.length = m ∧
    (∀ choice ∈ choices, ∃ ref ∈ roster, (fleet.get ref).isRunning = true ∧ choice = some ref) ∧
    (∀ ref, places ref = 1 →
      choices.count (some ref) = m / n ∨ choices.count (some ref) = (m + n - 1) / n) ∧
    (∀ ref k, m = k * n → choices.count (some ref) = k * places ref) ∧
    ∀ ref, places ref * (m / n) ≤ choices.count (some ref) ∧
      choices.count (some ref) ≤ places ref * ((m + n - 1) / n) := by
  intro n choices places
  set p : Placement := ⟨rotation, none⟩
  have hpin : p.pin = none := rfl
  have hne : fleet.running roster ≠ [] := List.ne_nil_of_length_pos hrunning
  have hshare : ∀ ref, places ref * (m / n) ≤ choices.count (some ref) ∧
      choices.count (some ref) ≤ places ref * ((m + n - 1) / n) :=
    fun ref ↦ share_selections hpin hne hword ref
  refine ⟨length_selections m p, fun choice hchoice ↦ ?_, fun ref hplaces ↦ ?_,
    fun ref k hm ↦ ?_, hshare⟩
  · obtain ⟨ref, href, rfl⟩ := running_of_mem_selections hpin hne hword hchoice
    obtain ⟨hlisted, hup⟩ := Fleet.mem_running.1 href
    exact ⟨ref, hlisted, hup, rfl⟩
  · obtain ⟨hle, hge⟩ := hshare ref
    rw [hplaces, Nat.one_mul] at hle hge
    have hone : (m + n - 1) / n ≤ m / n + 1 := roundUp_le hrunning m
    omega
  · have hdiv : m / n = k := by rw [hm, Nat.mul_div_cancel _ hrunning]
    have hmod : m % n = 0 := by rw [hm, Nat.mul_mod_left]
    have hcount : choices.count (some ref) =
        places ref * (m / n) + ((p.round fleet roster).take (m % n)).count ref :=
      count_selections hpin hne hword ref
    rw [hcount, hdiv, hmod, List.take_zero, List.count_nil, Nat.add_zero, Nat.mul_comm]

/-- Three receivers, of which the second is not running. -/
def secondDown : Fleet :=
  ⟨[{ Replica.new "r1" "" with state := .running, inbound := true }, Replica.new "r2" "",
    { Replica.new "r3" "" with state := .running, inbound := true }]⟩

/-- Five choices from an odd position: the third receiver gets three of them, the second none. -/
theorem selections_fair_secondDown :
    let choices := (selections secondDown [0, 1, 2] 5 ⟨⟨7⟩, none⟩).1
    choices.length = 5 ∧ choices.count (some 2) = 3 ∧ choices.count (some 1) = 0 := by
  intro choices
  obtain ⟨hlength, -, hturns, -, hshare⟩ :=
    selections_fair secondDown [0, 1, 2] ⟨7⟩ 5 (by decide) (by decide)
  refine ⟨hlength, ?_, Nat.le_zero.1 (hshare 1).2⟩
  rcases hturns 2 (by decide) with hdown | hup
  · exact absurd hdown (by decide)
  · exact hup

end Placement

end SensorCluster
