import SensorCluster.Proofs.BestPeer
import Mathlib.Data.List.Sort

/-!
# Restoring a series of snapshots

Several snapshots are put back into a receiver, one after the other. Each of them takes the place of
all data or of none, by a comparison of two counts. **So of the whole series one snapshot is left,
or none**: the earliest of those that have seen the most messages, if that is more than the receiver
had seen (`restoreAll_earliest`). What else one expects of restores is read off from that. They lose
no messages, a snapshot that was put back is not put back again, and the order matters only among
snapshots that tie.

## What it rests on

* The receiver's own data come first in the comparison, as if its own backup headed the series
  (`exists_mostComplete`). They win a tie like any earlier snapshot.
* `List.argmax` chooses the first of several that tie (`find?_of_argmax`). So a series may be
  rearranged as long as the snapshots of each total stay in order (`argmax_eq_of_filter_eq`), and at
  will when no two of them have one total.
-/

namespace SensorCluster

/-! ### The first of the largest -/

section FirstLargest

universe u

variable {α : Type u} {f : α → ℕ} {l l' : List α} {m : α}

/-- The first of the largest is the first that is as large as it. -/
theorem find?_of_argmax (h : l.argmax f = some m) : l.find? (fun a ↦ f a = f m) = some m := by
  induction l using List.reverseRecOn generalizing m with
  | nil => cases h
  | append_singleton l a ih =>
    rw [List.argmax_concat] at h
    cases hl : l.argmax f with
    | none =>
      rw [hl] at h
      obtain rfl := Option.some.inj h
      simp [List.argmax_eq_none.1 hl]
    | some b =>
      rw [hl] at h
      dsimp only at h
      rw [List.find?_append]
      split at h
      · next hlt =>
        obtain rfl := Option.some.inj h
        have hbelow : l.find? (fun c ↦ f c = f a) = none := by
          refine List.find?_eq_none.2 fun c hc ↦ ?_
          have hle : f c ≤ f b := List.le_of_mem_argmax hc hl
          simp only [decide_eq_true_eq]
          omega
        simp [hbelow]
      · obtain rfl := Option.some.inj h
        rw [ih hl]
        rfl

/-- The first of the largest is the same when the elements of each size are the same, in the same
order. -/
theorem argmax_eq_of_filter_eq (h : ∀ n, l'.filter (f · = n) = l.filter (f · = n)) :
    l'.argmax f = l.argmax f := by
  have hlevel : ∀ l : List α, ∀ a, a ∈ l ↔ a ∈ l.filter (f · = f a) := by simp
  have hmem : ∀ a, a ∈ l' ↔ a ∈ l := fun a ↦ by rw [hlevel l', h, ← hlevel l]
  cases hl : l.argmax f with
  | none =>
    have hnone : l = [] := List.argmax_eq_none.1 hl
    exact List.argmax_eq_none.2 (List.eq_nil_iff_forall_not_mem.2 fun a ha ↦
      List.not_mem_nil (hnone ▸ (hmem a).1 ha))
  | some m =>
    have hm : m ∈ l' := (hmem m).2 (List.argmax_mem hl)
    obtain ⟨m', hl'⟩ : ∃ m', l'.argmax f = some m' :=
      Option.ne_none_iff_exists'.1 fun hnone ↦ List.ne_nil_of_mem hm (List.argmax_eq_none.1 hnone)
    have hsize : f m' = f m :=
      le_antisymm (List.le_of_mem_argmax ((hmem m').1 (List.argmax_mem hl')) hl)
        (List.le_of_mem_argmax hm hl')
    have hfirst := find?_of_argmax hl'
    rw [hsize, ← List.head?_filter, h, List.head?_filter, find?_of_argmax hl] at hfirst
    rw [hl', hfirst]

/-- Where no two elements are of one size, the order does not matter. -/
theorem filter_eq_of_perm (hperm : l'.Perm l) (hdistinct : (l.map f).Nodup) (n : ℕ) :
    l'.filter (f · = n) = l.filter (f · = n) := by
  have hsize : ∀ {l : List α}, ∀ a ∈ l.filter (f · = n), f a = n := by simp
  have hapart : ∀ {l : List α}, (l.map f).Nodup →
      (l.filter (f · = n)).Pairwise fun a b ↦ f a ≠ f b :=
    fun hdistinct ↦ (List.pairwise_map.1 hdistinct).filter _
  have hdistinct' : (l'.map f).Nodup := (hperm.map f).nodup_iff.2 hdistinct
  -- all that are left are of one size, so no two of them are apart and the relation is
  -- antisymmetric
  refine (hperm.filter _).eq_of_pairwise (fun a b ha hb hab _ ↦ ?_)
    (hapart hdistinct') (hapart hdistinct)
  exact absurd ((hsize a ha).trans (hsize b hb).symm) hab

end FirstLargest

/-! ### Snapshots put back -/

/-- The snapshot that has seen the most messages, the earliest where several tie. -/
def mostComplete? (snapshots : List Snapshot) : Option Snapshot :=
  snapshots.argmax fun s ↦ s.total.toNat

namespace Replica

variable {r r' : Replica} {s : Snapshot} {snapshots : List Snapshot}

/-- Puts snapshots back, one after the other; the answer says of each whether it was applied. -/
def restoreAll (r : Replica) : List Snapshot → List Bool × Replica
  | [] => ([], r)
  | s :: rest =>
    let (applied, r) := r.restore s
    let (answers, r) := r.restoreAll rest
    (applied :: answers, r)

theorem eq_of_shell_of_data (hshell : r'.shell = r.shell) (hdata : r'.data = r.data) : r' = r := by
  obtain ⟨hid, haddress, hstate, hinbound⟩ := Shell.mk.inj hshell
  obtain ⟨hindex, hvector, htotal, hconflicts⟩ := Data.mk.inj hdata
  cases r
  cases r'
  simp_all

theorem restoreAll_cons (r : Replica) (s : Snapshot) (rest : List Snapshot) :
    r.restoreAll (s :: rest) =
      ((r.restore s).1 :: ((r.restore s).2.restoreAll rest).1,
        ((r.restore s).2.restoreAll rest).2) := rfl

theorem restoreAll_append (r : Replica) (front back : List Snapshot) :
    r.restoreAll (front ++ back) =
      ((r.restoreAll front).1 ++ ((r.restoreAll front).2.restoreAll back).1,
        ((r.restoreAll front).2.restoreAll back).2) := by
  induction front generalizing r with
  | nil => rfl
  | cons s rest ih =>
    rw [List.cons_append, restoreAll_cons, restoreAll_cons, ih]
    rfl

/-- Each snapshot gets one answer. -/
theorem length_restoreAll (r : Replica) (snapshots : List Snapshot) :
    (r.restoreAll snapshots).1.length = snapshots.length := by
  induction snapshots generalizing r with
  | nil => rfl
  | cons s rest ih => exact congrArg (· + 1) (ih _)

/-- A series of snapshots replaces data, and never who the receiver is or whether it runs. -/
theorem restoreAll_shell (r : Replica) (snapshots : List Snapshot) :
    (r.restoreAll snapshots).2.shell = r.shell := by
  induction snapshots generalizing r with
  | nil => rfl
  | cons s rest ih => exact (ih _).trans (r.restore_shell s)

/-- **What is left of a series** are the data of its earliest most complete member, if the
receiver's own backup is put in front of it. -/
theorem exists_mostComplete (r : Replica) (now : WallTime) (snapshots : List Snapshot) :
    ∃ best, mostComplete? (r.snapshot now :: snapshots) = some best ∧
      (r.restoreAll snapshots).2.data = best.data := by
  induction snapshots using List.reverseRecOn with
  | nil => exact ⟨r.snapshot now, rfl, rfl⟩
  | append_singleton front s ih =>
    obtain ⟨best, hbest, hdata⟩ := ih
    have htotal : (r.restoreAll front).2.total = best.total := congrArg Data.total hdata
    have hlast : (r.restoreAll (front ++ [s])).2 = ((r.restoreAll front).2.restore s).2 :=
      congrArg Prod.snd (r.restoreAll_append front [s])
    rw [hlast, (restore_spec ..).2, htotal, hdata, ← List.cons_append, mostComplete?,
      List.argmax_concat, show List.argmax _ _ = some best from hbest]
    dsimp only
    simp only [← UInt64.lt_iff_toNat_lt]
    split
    · exact ⟨s, rfl, rfl⟩
    · exact ⟨best, rfl, rfl⟩

/-- A snapshot is ahead after a series when it is ahead of the receiver and of the whole series. -/
theorem total_restoreAll_lt_iff :
    (r.restoreAll snapshots).2.total < s.total ↔ r.total < s.total ∧
      ∀ t ∈ snapshots, t.total < s.total := by
  obtain ⟨best, hbest, hdata⟩ := r.exists_mostComplete default snapshots
  have htotal : (r.restoreAll snapshots).2.total = best.total := congrArg Data.total hdata
  have hle : ∀ t ∈ r.snapshot default :: snapshots, t.total ≤ best.total := fun t ht ↦
    UInt64.le_iff_toNat_le.2
      (List.le_of_mem_argmax (f := fun s : Snapshot ↦ s.total.toNat) ht hbest)
  have hall : best.total < s.total ↔ ∀ t ∈ r.snapshot default :: snapshots, t.total < s.total :=
    ⟨fun hlt t ht ↦ UInt64.lt_of_le_of_lt (hle t ht) hlt, fun h ↦ h best (List.argmax_mem hbest)⟩
  rw [htotal, hall, List.forall_mem_cons]
  rfl

/-- No series loses messages, neither the receiver's own nor those of a member. -/
theorem le_total_restoreAll (now : WallTime) (h : s ∈ r.snapshot now :: snapshots) :
    s.total ≤ (r.restoreAll snapshots).2.total := by
  by_contra hlt
  obtain ⟨hown, hmember⟩ := total_restoreAll_lt_iff.1 (UInt64.not_le.1 hlt)
  rcases List.mem_cons.1 h with rfl | hs
  · exact UInt64.lt_irrefl _ hown
  · exact UInt64.lt_irrefl _ (hmember s hs)

/-- **The data that are left** are those of the most complete snapshot, if it is ahead of the
receiver. -/
theorem restoreAll_data (h : mostComplete? snapshots = some s) :
    (r.restoreAll snapshots).2.data = if r.total < s.total then s.data else r.data := by
  obtain ⟨best, hbest, hdata⟩ := r.exists_mostComplete default snapshots
  rw [mostComplete?, List.argmax_cons, show List.argmax _ _ = some s from h] at hbest
  simp only [← UInt64.lt_iff_toNat_lt] at hbest
  refine hdata.trans ?_
  split at hbest
  · next hlt =>
    obtain rfl := Option.some.inj hbest
    exact (if_pos hlt).symm
  · next hlt =>
    obtain rfl := Option.some.inj hbest
    exact (if_neg hlt).symm

/-- A series in which nothing is ahead of the receiver changes nothing. -/
theorem restoreAll_of_le (h : ∀ s ∈ mostComplete? snapshots, s.total ≤ r.total) :
    (r.restoreAll snapshots).2 = r := by
  refine eq_of_shell_of_data (r.restoreAll_shell snapshots) ?_
  cases hbest : mostComplete? snapshots with
  | none =>
    rw [List.argmax_eq_none.1 hbest]
    rfl
  | some best => rw [restoreAll_data hbest, if_neg (UInt64.not_lt.2 (h best hbest))]

/-- Which snapshot of a series is the most complete decides what is left. -/
theorem restoreAll_congr {snapshots' : List Snapshot}
    (h : mostComplete? snapshots' = mostComplete? snapshots) :
    (r.restoreAll snapshots').2 = (r.restoreAll snapshots).2 := by
  refine eq_of_shell_of_data ((r.restoreAll_shell _).trans (r.restoreAll_shell _).symm) ?_
  cases hbest : mostComplete? snapshots with
  | none =>
    rw [List.argmax_eq_none.1 hbest, List.argmax_eq_none.1 (h.trans hbest)]
  | some best => rw [restoreAll_data hbest, restoreAll_data (h.trans hbest)]

/-- **A series of restores.** Any snapshots are put back into any receiver, one after the other.

* In the end its data are those of the earliest snapshot among the ones with the largest total, if
  that is ahead of the receiver, and otherwise nothing has changed. Its name and its life are not
  concerned.
* A snapshot is applied exactly when it is ahead of the receiver and of all earlier ones.
* Messages are never lost. Neither a backup of its own nor a snapshot of the series changes the
  receiver any more.
* The series may be rearranged as long as the snapshots of each total stay in order; so in any way
  when no two of them have one total. -/
theorem restoreAll_earliest (r : Replica) (snapshots : List Snapshot) :
    let answers := (r.restoreAll snapshots).1
    let r' := (r.restoreAll snapshots).2
    (∀ s ∈ mostComplete? snapshots, r.total < s.total → r'.data = s.data) ∧
    ((∀ s ∈ mostComplete? snapshots, s.total ≤ r.total) → r' = r) ∧
    r'.shell = r.shell ∧
    answers.length = snapshots.length ∧
    (∀ front s back, snapshots = front ++ s :: back →
      answers[front.length]? = some (decide (r.total < s.total ∧ ∀ t ∈ front, t.total < s.total))) ∧
    (∀ front, front <+: snapshots → (r.restoreAll front).2.total ≤ r'.total) ∧
    (∀ now, r'.restore (r'.snapshot now) = (false, r')) ∧
    (∀ s ∈ snapshots, r'.restore s = (false, r')) ∧
    (∀ snapshots' : List Snapshot,
      (∀ n, snapshots'.filter (·.total.toNat = n) = snapshots.filter (·.total.toNat = n)) →
        (r.restoreAll snapshots').2 = r') ∧
    ∀ snapshots' : List Snapshot, snapshots'.Perm snapshots → (snapshots.map (·.total)).Nodup →
      (r.restoreAll snapshots').2 = r' := by
  intro answers r'
  refine ⟨fun s hs hlt ↦ ?_, restoreAll_of_le, r.restoreAll_shell snapshots,
    r.length_restoreAll snapshots, ?_, ?_, fun now ↦ restore_of_le (UInt64.le_refl _),
    fun s hs ↦ restore_of_le (le_total_restoreAll default (List.mem_cons_of_mem _ hs)),
    fun snapshots' hsame ↦ restoreAll_congr (argmax_eq_of_filter_eq hsame),
    fun snapshots' hperm hdistinct ↦ ?_⟩
  · exact (restoreAll_data hs).trans (if_pos hlt)
  · rintro front s back rfl
    show (r.restoreAll (front ++ s :: back)).1[front.length]? = _
    rw [restoreAll_append, ← r.length_restoreAll front, List.getElem?_append_right (Nat.le_refl _),
      Nat.sub_self, restoreAll_cons, List.getElem?_cons_zero, (restore_spec ..).1]
    simp only [total_restoreAll_lt_iff]
  · rintro front ⟨back, rfl⟩
    show _ ≤ (r.restoreAll (front ++ back)).2.total
    rw [restoreAll_append]
    exact le_total_restoreAll (s := (r.restoreAll front).2.snapshot default) default
      List.mem_cons_self
  · have hnodup : (snapshots.map (·.total.toNat)).Nodup := by
      have hinj := hdistinct.map (f := UInt64.toNat) fun a b ↦ UInt64.toNat_inj.1
      rwa [List.map_map] at hinj
    exact restoreAll_congr (argmax_eq_of_filter_eq (filter_eq_of_perm hperm hnodup))

/-- Four snapshots without records. The first has seen one message, the third three, and the second
and the fourth tie at five; they differ in the conflicts. -/
def tiedSeries : List Snapshot :=
  [⟨"a", .empty, .empty, 1, 0, default⟩, ⟨"b", .empty, .empty, 5, 1, default⟩,
    ⟨"c", .empty, .empty, 3, 0, default⟩, ⟨"d", .empty, .empty, 5, 2, default⟩]

/-- A receiver that has seen two messages takes the data of the second one, and refuses the
others. -/
theorem restoreAll_earliest_tied :
    let r := { new "r" "" with total := 2 }
    (r.restoreAll tiedSeries).2.data = ⟨.empty, .empty, 5, 1⟩ ∧
      (r.restoreAll tiedSeries).1[1]? = some true ∧
      (r.restoreAll tiedSeries).1[3]? = some false := by
  intro r
  obtain ⟨hdata, -, -, -, hanswers, -⟩ := r.restoreAll_earliest tiedSeries
  exact ⟨hdata ⟨"b", .empty, .empty, 5, 1, default⟩ rfl (by decide),
    hanswers (tiedSeries.take 1) _ (tiedSeries.drop 2) rfl, hanswers (tiedSeries.take 3) _ [] rfl⟩

end Replica

end SensorCluster
