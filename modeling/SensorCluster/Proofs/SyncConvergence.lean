import SensorCluster.Cluster.Replication
import SensorCluster.Proofs.Rosters

/-!
# One sync cycle brings every running receiver level

A sync cycle rewrites receivers while it goes through their pairs, so a later pair sees what an
earlier one copied. One pass is enough all the same: when it is over, every running receiver holds
the data that some running receiver with the largest message count held at the start.

## What the convergence rests on

* `Fleet.level` is what a sync makes of two receivers and nothing else: no log, no counters.
  `syncPairs_fleet` says that a cycle does exactly that, pair by pair.
* `Levelled` is the invariant: nobody exceeds the peak of the start, whoever is at the peak holds
  data that stood there at the start, and the receivers that started at the peak are untouched.
  One pair preserves it (`Levelled.level`), so a list of pairs does.
* **The peak moves right.** After the row of the first receiver, that receiver is at the peak and so
  is one of those behind it (`peak_of_row`); the remaining pairs are those of a shorter list whose
  peak is the same. Ties cost nothing: two receivers with equal counts are skipped, and a receiver
  at the peak is never overwritten.
-/

namespace SensorCluster

/-- The records and the version vector of a receiver. -/
def Replica.contents (r : Replica) : RecordIndex × VersionVector := (r.index, r.vector)

/-- A receiver with the data of another in place of its own. When their vectors were concurrent,
the loss is counted as a conflict. -/
def Replica.overwritten (target source : Replica) (concurrent : Bool) : Replica :=
  { target with
    index := source.index
    vector := source.vector
    total := source.total
    conflicts := if concurrent then source.conflicts.increment else source.conflicts }

namespace Cluster

/-- Both members of a pair are of the list. -/
theorem mem_of_mem_pairs {α : Type} {l : List α} {p : α × α} (h : p ∈ pairs l) :
    p.1 ∈ l ∧ p.2 ∈ l := by
  induction l with
  | nil => cases h
  | cons a rest ih =>
    rcases List.mem_append.1 h with h | h
    · obtain ⟨b, hb, rfl⟩ := List.mem_map.1 h
      exact ⟨List.mem_cons_self, List.mem_cons_of_mem _ hb⟩
    · exact ⟨List.mem_cons_of_mem _ (ih h).1, List.mem_cons_of_mem _ (ih h).2⟩

end Cluster

namespace Fleet

variable {f f₀ : Fleet}

/-! ### One pair -/

/-- What a sync makes of two receivers: the one that has seen more messages overwrites the
other. -/
def level (f : Fleet) (a b : ReplicaRef) : Fleet :=
  let concurrent := (f.get a).vector.concurrentWith (f.get b).vector
  if (f.get b).total < (f.get a).total then
    f.set b ((f.get b).overwritten (f.get a) concurrent)
  else if (f.get a).total < (f.get b).total then
    f.set a ((f.get a).overwritten (f.get b) concurrent)
  else f

@[simp] theorem holds_level (a b ref : ReplicaRef) : (f.level a b).Holds ref ↔ f.Holds ref := by
  rw [level]
  split
  · exact holds_set ..
  · split
    · exact holds_set ..
    · exact Iff.rfl

/-- **A pair in one line**: a receiver stays as it is, or it is the member of the pair that has
seen fewer messages and takes the data of the other. -/
theorem get_level {a b : ReplicaRef} (ha : f.Holds a) (hb : f.Holds b) (ref : ReplicaRef) :
    (f.level a b).get ref = f.get ref ∨
      ∃ source concurrent, (ref = a ∧ source = b ∨ ref = b ∧ source = a) ∧
        (f.get ref).total < (f.get source).total ∧
        (f.level a b).get ref = (f.get ref).overwritten (f.get source) concurrent := by
  rw [level]
  split
  · next hlt =>
    rw [get_set hb]
    split
    · next heq => subst heq; exact .inr ⟨a, _, .inr ⟨rfl, rfl⟩, hlt, rfl⟩
    · exact .inl rfl
  · split
    · next hlt =>
      rw [get_set ha]
      split
      · next heq => subst heq; exact .inr ⟨b, _, .inl ⟨rfl, rfl⟩, hlt, rfl⟩
      · exact .inl rfl
    · exact .inl rfl

/-- After a sync both receivers have seen as many messages as the one that had seen more: the first,
-/
theorem total_level_left {a b : ReplicaRef} (ha : f.Holds a) (hb : f.Holds b) :
    ((f.level a b).get a).total.toNat = max (f.get a).total.toNat (f.get b).total.toNat := by
  rw [level]
  simp only [UInt64.lt_iff_toNat_lt]
  split
  · next hlt =>
    have hne : a ≠ b := by rintro rfl; exact Nat.lt_irrefl _ hlt
    rw [get_set hb, if_neg hne]
    omega
  · split
    · next hlt =>
      rw [get_set ha, if_pos rfl]
      show (f.get b).total.toNat = _
      omega
    · omega

/-- and the second. -/
theorem total_level_right {a b : ReplicaRef} (ha : f.Holds a) (hb : f.Holds b) :
    ((f.level a b).get b).total.toNat = max (f.get a).total.toNat (f.get b).total.toNat := by
  rw [level]
  simp only [UInt64.lt_iff_toNat_lt]
  split
  · next hlt =>
    rw [get_set hb, if_pos rfl]
    show (f.get a).total.toNat = _
    omega
  · split
    · next hlt =>
      have hne : b ≠ a := by rintro rfl; exact Nat.lt_irrefl _ hlt
      rw [get_set ha, if_neg hne]
      omega
    · omega

/-- Two receivers with equal counts leave each other alone. -/
theorem level_of_total_eq {a b : ReplicaRef} (h : (f.get a).total = (f.get b).total) :
    f.level a b = f := by
  simp [level, h, UInt64.lt_irrefl]

/-! ### A list of pairs -/

/-- Syncs one pair after the other. -/
def levelAll (f : Fleet) (pairs : List (ReplicaRef × ReplicaRef)) : Fleet :=
  pairs.foldl (fun f p ↦ f.level p.1 p.2) f

theorem levelAll_append (pairs more : List (ReplicaRef × ReplicaRef)) :
    f.levelAll (pairs ++ more) = (f.levelAll pairs).levelAll more :=
  List.foldl_append

/-- The largest message count among the listed receivers, zero when there is none. -/
def peak (f : Fleet) (roster : Roster) : Nat :=
  (roster.map fun ref ↦ (f.get ref).total.toNat).foldr max 0

/-- Nobody is above the peak, -/
theorem le_peak {roster : Roster} {ref : ReplicaRef} (h : ref ∈ roster) :
    (f.get ref).total.toNat ≤ f.peak roster := by
  induction roster with
  | nil => cases h
  | cons head rest ih =>
    have hcons : f.peak (head :: rest) = max (f.get head).total.toNat (f.peak rest) := rfl
    rcases List.mem_cons.1 h with rfl | h
    · omega
    · have := ih h
      omega

/-- and somebody is at it. -/
theorem exists_eq_peak {roster : Roster} (h : roster ≠ []) :
    ∃ ref ∈ roster, (f.get ref).total.toNat = f.peak roster := by
  induction roster with
  | nil => exact absurd rfl h
  | cons head rest ih =>
    have hcons : f.peak (head :: rest) = max (f.get head).total.toNat (f.peak rest) := rfl
    rcases Nat.lt_or_ge (f.get head).total.toNat (f.peak rest) with hlt | hge
    · have hne : rest ≠ [] := by rintro rfl; exact absurd hlt (Nat.not_lt_zero _)
      obtain ⟨ref, hmem, href⟩ := ih hne
      exact ⟨ref, List.mem_cons_of_mem _ hmem, by omega⟩
    · exact ⟨head, List.mem_cons_self, by omega⟩

/-! ### What every pair preserves -/

/-- The listed receivers exist, and none of them has seen more than `top` messages. -/
def Below (f : Fleet) (roster : Roster) (top : Nat) : Prop :=
  ∀ ref ∈ roster, f.Holds ref ∧ (f.get ref).total.toNat ≤ top

theorem Below.tail {a : ReplicaRef} {rest : Roster} {top : Nat} (h : f.Below (a :: rest) top) :
    f.Below rest top :=
  fun ref href ↦ h ref (List.mem_cons_of_mem _ href)

/-- A sync of two listed receivers leaves all of them below. -/
theorem Below.level {roster : Roster} {top : Nat} (h : f.Below roster top) {a b : ReplicaRef}
    (ha : a ∈ roster) (hb : b ∈ roster) : (f.level a b).Below roster top := by
  intro ref href
  refine ⟨(holds_level a b ref).2 (h ref href).1, ?_⟩
  rcases get_level (h a ha).1 (h b hb).1 ref with hsame | ⟨source, concurrent, hpos, -, hcopy⟩
  · rw [hsame]
    exact (h ref href).2
  · rw [hcopy]
    rcases hpos with ⟨-, rfl⟩ | ⟨-, rfl⟩
    · exact (h _ hb).2
    · exact (h _ ha).2

theorem Below.levelAll {roster : Roster} {top : Nat} {pairs : List (ReplicaRef × ReplicaRef)}
    (h : f.Below roster top) (hpairs : ∀ p ∈ pairs, p.1 ∈ roster ∧ p.2 ∈ roster) :
    (f.levelAll pairs).Below roster top := by
  induction pairs generalizing f with
  | nil => exact h
  | cons p rest ih =>
    obtain ⟨ha, hb⟩ := hpairs p List.mem_cons_self
    exact ih (h.level ha hb) fun q hq ↦ hpairs q (List.mem_cons_of_mem _ hq)

/-- How far a fleet `f` has come, on the way of the receivers of `roster` from a fleet `f₀` to the
message count `top`. -/
structure Levelled (f₀ : Fleet) (roster : Roster) (top : Nat) (f : Fleet) : Prop where
  below : f.Below roster top
  /-- Who is at `top` holds what somebody held there at the start. -/
  origin : ∀ ref ∈ roster, (f.get ref).total.toNat = top →
    ∃ source ∈ roster, (f₀.get source).total.toNat = top ∧
      (f.get ref).contents = (f₀.get source).contents
  /-- Who started at `top` is untouched. -/
  leader : ∀ ref ∈ roster, (f₀.get ref).total.toNat = top → f.get ref = f₀.get ref
  /-- Who is not of the roster is untouched. -/
  outside : ∀ ref ∉ roster, f.get ref = f₀.get ref
  /-- Nobody is started, stopped or detached. -/
  lifecycle : ∀ ref, (f.get ref).state = (f₀.get ref).state ∧
    (f.get ref).inbound = (f₀.get ref).inbound

theorem Levelled.refl {roster : Roster} {top : Nat} (h : f.Below roster top) :
    Levelled f roster top f where
  below := h
  origin ref hmem htotal := ⟨ref, hmem, htotal, rfl⟩
  leader _ _ _ := rfl
  outside _ _ := rfl
  lifecycle _ := ⟨rfl, rfl⟩

/-- **One pair** keeps the fleet on its way. -/
theorem Levelled.level {roster : Roster} {top : Nat} (h : Levelled f₀ roster top f)
    {a b : ReplicaRef} (ha : a ∈ roster) (hb : b ∈ roster) :
    Levelled f₀ roster top (f.level a b) := by
  have hpair := get_level (h.below a ha).1 (h.below b hb).1
  -- the source of a copy is of the roster, and so is its target
  have hmem : ∀ {ref source}, (ref = a ∧ source = b ∨ ref = b ∧ source = a) →
      ref ∈ roster ∧ source ∈ roster := by
    rintro ref source (⟨rfl, rfl⟩ | ⟨rfl, rfl⟩)
    · exact ⟨ha, hb⟩
    · exact ⟨hb, ha⟩
  refine ⟨h.below.level ha hb, ?_, ?_, ?_, ?_⟩
  · intro ref href htotal
    rcases hpair ref with hsame | ⟨source, concurrent, hpos, -, hcopy⟩
    · rw [hsame] at htotal ⊢
      exact h.origin ref href htotal
    · rw [hcopy] at htotal ⊢
      exact h.origin source (hmem hpos).2 htotal
  · intro ref href htop
    rcases hpair ref with hsame | ⟨source, concurrent, hpos, hlt, -⟩
    · rw [hsame]
      exact h.leader ref href htop
    · -- a receiver at the top is nobody's target
      have hbound := (h.below source (hmem hpos).2).2
      rw [UInt64.lt_iff_toNat_lt, h.leader ref href htop] at hlt
      omega
  · intro ref href
    rcases hpair ref with hsame | ⟨source, concurrent, hpos, -, -⟩
    · rw [hsame]
      exact h.outside ref href
    · exact absurd (hmem hpos).1 href
  · intro ref
    rcases hpair ref with hsame | ⟨source, concurrent, -, -, hcopy⟩
    · rw [hsame]
      exact h.lifecycle ref
    · rw [hcopy]
      exact h.lifecycle ref

/-- So do all pairs. -/
theorem Levelled.levelAll {roster : Roster} {top : Nat}
    {pairs : List (ReplicaRef × ReplicaRef)} (h : Levelled f₀ roster top f)
    (hpairs : ∀ p ∈ pairs, p.1 ∈ roster ∧ p.2 ∈ roster) :
    Levelled f₀ roster top (f.levelAll pairs) := by
  induction pairs generalizing f with
  | nil => exact h
  | cons p rest ih =>
    obtain ⟨ha, hb⟩ := hpairs p List.mem_cons_self
    exact ih (h.level ha hb) fun q hq ↦ hpairs q (List.mem_cons_of_mem _ hq)

/-! ### The peak moves right -/

variable {roster rest : Roster} {top : Nat} {a ref : ReplicaRef}

/-- Who is at the peak stays there. -/
theorem total_level_of_eq {b : ReplicaRef} (h : f.Below roster top) (ha : a ∈ roster)
    (hb : b ∈ roster) (href : (f.get ref).total.toNat = top) :
    ((f.level a b).get ref).total.toNat = top := by
  rcases get_level (h a ha).1 (h b hb).1 ref with hsame | ⟨source, concurrent, hpos, hlt, -⟩
  · rw [hsame, href]
  · -- a target has seen less than its source, and so less than `top`
    have hatop := (h a ha).2
    have hbtop := (h b hb).2
    rw [UInt64.lt_iff_toNat_lt] at hlt
    rcases hpos with ⟨rfl, rfl⟩ | ⟨rfl, rfl⟩ <;> omega

/-- Who is at the top stays there. -/
theorem total_levelAll_of_eq {pairs : List (ReplicaRef × ReplicaRef)} (h : f.Below roster top)
    (hpairs : ∀ p ∈ pairs, p.1 ∈ roster ∧ p.2 ∈ roster) (href : (f.get ref).total.toNat = top) :
    ((f.levelAll pairs).get ref).total.toNat = top := by
  induction pairs generalizing f with
  | nil => exact href
  | cons p rest ih =>
    obtain ⟨ha, hb⟩ := hpairs p List.mem_cons_self
    exact ih (h.level ha hb) (fun q hq ↦ hpairs q (List.mem_cons_of_mem _ hq))
      (total_level_of_eq h ha hb href)

/-- The pairs of the first receiver are of listed ones. -/
theorem mem_of_mem_row {p : ReplicaRef × ReplicaRef} (h : p ∈ rest.map fun b ↦ (a, b)) :
    p.1 ∈ a :: rest ∧ p.2 ∈ a :: rest := by
  obtain ⟨b, hb, rfl⟩ := List.mem_map.1 h
  exact ⟨List.mem_cons_self, List.mem_cons_of_mem _ hb⟩

/-- **One row.** Synced with everybody behind it, a receiver comes to the peak, and so does one of
those behind it: the last one meets a first receiver that has met all the others. -/
theorem peak_of_row (h : f.Below (a :: rest) top)
    (hpeak : ∃ ref ∈ a :: rest, (f.get ref).total.toNat = top) :
    ((f.levelAll (rest.map fun b ↦ (a, b))).get a).total.toNat = top ∧
      (rest ≠ [] →
        ∃ ref ∈ rest, ((f.levelAll (rest.map fun b ↦ (a, b))).get ref).total.toNat = top) := by
  induction rest generalizing f with
  | nil =>
    obtain ⟨ref, hmem, href⟩ := hpeak
    obtain rfl := List.mem_singleton.1 hmem
    exact ⟨href, fun hne ↦ absurd rfl hne⟩
  | cons b rest ih =>
    have ha : a ∈ a :: b :: rest := List.mem_cons_self
    have hb : b ∈ a :: b :: rest := List.mem_cons_of_mem _ List.mem_cons_self
    have hbelow : (f.level a b).Below (a :: rest) top := fun ref href ↦
      h.level ha hb ref (by
        rcases List.mem_cons.1 href with rfl | href
        · exact ha
        · exact List.mem_cons_of_mem _ (List.mem_cons_of_mem _ href))
    have hleft := total_level_left (h a ha).1 (h b hb).1
    have hright := total_level_right (h a ha).1 (h b hb).1
    have hatop := (h a ha).2
    have hbtop := (h b hb).2
    -- after the first pair, the peak is held by `a` or behind `b`
    have hnext : ∃ ref ∈ a :: rest, ((f.level a b).get ref).total.toNat = top := by
      obtain ⟨ref, hmem, href⟩ := hpeak
      rcases List.mem_cons.1 hmem with rfl | hmem
      · exact ⟨ref, List.mem_cons_self, by omega⟩
      · rcases List.mem_cons.1 hmem with rfl | hmem
        · exact ⟨a, List.mem_cons_self, by omega⟩
        · exact ⟨ref, List.mem_cons_of_mem _ hmem, total_level_of_eq h ha hb href⟩
    obtain ⟨hfirst, hbehind⟩ := ih hbelow hnext
    refine ⟨hfirst, fun _ ↦ ?_⟩
    by_cases hrest : rest = []
    · -- nobody is left, so `b` was the last to meet `a`
      subst hrest
      obtain ⟨ref, hmem, href⟩ := hnext
      obtain rfl := List.mem_singleton.1 hmem
      exact ⟨b, List.mem_cons_self, by
        show ((f.level ref b).get b).total.toNat = top
        omega⟩
    · obtain ⟨ref, hmem, href⟩ := hbehind hrest
      exact ⟨ref, List.mem_cons_of_mem _ hmem, href⟩

/-- **All rows.** -/
theorem total_levelAll_pairs (h : f.Below roster top)
    (hpeak : ∃ ref ∈ roster, (f.get ref).total.toNat = top) (hmem : ref ∈ roster) :
    ((f.levelAll (Cluster.pairs roster)).get ref).total.toNat = top := by
  induction roster generalizing f with
  | nil => cases hmem
  | cons a rest ih =>
    rw [Cluster.pairs, levelAll_append]
    obtain ⟨hfirst, hbehind⟩ := peak_of_row h hpeak
    have hrow := h.levelAll fun p hp ↦ mem_of_mem_row hp
    rcases List.mem_cons.1 hmem with rfl | hmem
    · refine total_levelAll_of_eq hrow (fun p hp ↦ ?_) hfirst
      obtain ⟨h₁, h₂⟩ := Cluster.mem_of_mem_pairs hp
      exact ⟨List.mem_cons_of_mem _ h₁, List.mem_cons_of_mem _ h₂⟩
    · exact ih hrow.tail (hbehind (List.ne_nil_of_mem hmem)) hmem

end Fleet

namespace Cluster

variable {c : Cluster}

/-! ### What a cycle does to the fleet -/

/-- A conflict is counted without touching a receiver. -/
theorem countConcurrent_fleet (concurrent : Bool) :
    (c.countConcurrent concurrent).fleet = c.fleet := by
  rw [countConcurrent]
  split <;> rfl

/-- **A copy**: the target, which has seen fewer messages, takes the data of the source. -/
theorem copyPair_fleet {source target : ReplicaRef} (h : c.fleet.Holds target)
    (hlt : (c.replica target).total < (c.replica source).total) (concurrent : Bool) :
    (c.copyPair concurrent source target).2.fleet =
      c.fleet.set target ((c.replica target).overwritten (c.replica source) concurrent) := by
  have hrestored : (c.replica target).restore (c.snapshot source) =
      (true, (c.replica target).overwritten (c.replica source) false) := if_pos hlt
  have happlied : (c.restore target (c.snapshot source)).1 = true := by
    rw [restore, hrestored]
  have hfleet : (c.restore target (c.snapshot source)).2.fleet =
      c.fleet.set target ((c.replica target).overwritten (c.replica source) false) := by
    rw [restore, hrestored]
    rfl
  rw [copyPair]
  simp only [happlied, Bool.not_true, Bool.false_eq_true, if_false]
  -- a conflict is counted on the data that were just taken over
  cases concurrent with
  | false => exact hfleet
  | true =>
    show (c.restore target (c.snapshot source)).2.fleet.set target
      ((c.restore target (c.snapshot source)).2.fleet.get target).recordConflict = _
    rw [hfleet, Fleet.get_set h, if_pos rfl, Fleet.set, Fleet.set, List.set_set]
    rfl

/-- **A sync of two receivers** does to the fleet what `level` does. -/
theorem syncPair_fleet {a b : ReplicaRef} (ha : c.fleet.Holds a) (hb : c.fleet.Holds b) :
    (c.syncPair a b).2.fleet = c.fleet.level a b := by
  set concurrent := (c.replica a).vector.concurrentWith (c.replica b).vector with hconcurrent
  -- counting the pair first changes no receiver
  have hfleet : (c.countConcurrent concurrent).fleet = c.fleet := countConcurrent_fleet concurrent
  have hreplica : ∀ ref, (c.countConcurrent concurrent).replica ref = c.replica ref :=
    fun ref ↦ congrArg (fun f : Fleet ↦ f.get ref) hfleet
  have hcopy : ∀ {source target}, c.fleet.Holds target →
      (c.replica target).total < (c.replica source).total →
      ((c.countConcurrent concurrent).copyPair concurrent source target).2.fleet =
        c.fleet.set target ((c.replica target).overwritten (c.replica source) concurrent) := by
    intro source target hholds hlt
    rw [copyPair_fleet (hfleet ▸ hholds) (by rwa [hreplica, hreplica]), hfleet, hreplica,
      hreplica]
  by_cases heq : (c.replica a).total = (c.replica b).total
  · rw [Fleet.level_of_total_eq heq, syncPair, if_pos heq]
    exact hfleet
  · rw [syncPair, if_neg heq]
    by_cases hlt : (c.replica b).total < (c.replica a).total
    · rw [if_pos hlt]
      exact (hcopy hb hlt).trans (if_pos hlt).symm
    · have hgt : (c.replica a).total < (c.replica b).total := by
        rw [UInt64.lt_iff_toNat_lt] at hlt ⊢
        rw [← UInt64.toNat_inj] at heq
        omega
      rw [if_neg hlt]
      exact (hcopy ha hgt).trans ((if_neg hlt).trans (if_pos hgt)).symm

/-- One pair after the other is synced. -/
theorem syncPairs_fleet {pairs : List (ReplicaRef × ReplicaRef)} (report : SyncReport)
    (h : ∀ p ∈ pairs, c.fleet.Holds p.1 ∧ c.fleet.Holds p.2) :
    (c.syncPairs report pairs).2.fleet = c.fleet.levelAll pairs := by
  induction pairs generalizing c report with
  | nil => rfl
  | cons p rest ih =>
    obtain ⟨ha, hb⟩ := h p List.mem_cons_self
    have hpair := syncPair_fleet ha hb
    rw [syncPairs, ih, hpair]
    · rfl
    · intro q hq
      rw [hpair]
      simpa using h q (List.mem_cons_of_mem _ hq)

/-- **A cycle in one line**: it syncs the pairs of the receivers that are running in the pool, and
then it only counts and logs. -/
theorem syncCycle_spec (c : Cluster) :
    let synced := c.syncPairs default (pairs (c.fleet.running c.replication.pool))
    c.syncCycle.1 = synced.1 ∧ c.syncCycle.2.fleet = synced.2.fleet ∧
      c.syncCycle.2.replication.pool = synced.2.replication.pool := by
  rw [syncCycle]
  exact ⟨rfl, rfl, rfl⟩

/-- A cycle levels all pairs of running receivers of the pool. -/
theorem syncCycle_fleet :
    c.syncCycle.2.fleet = c.fleet.levelAll (pairs (c.fleet.running c.replication.pool)) := by
  refine (syncCycle_spec c).2.1.trans (syncPairs_fleet _ fun p hp ↦ ?_)
  obtain ⟨h₁, h₂⟩ := mem_of_mem_pairs hp
  exact ⟨Fleet.holds_of_mem_running h₁, Fleet.holds_of_mem_running h₂⟩

/-- No sync changes the pool. -/
theorem copyPair_pool (concurrent : Bool) (source target : ReplicaRef) :
    (c.copyPair concurrent source target).2.replication.pool = c.replication.pool := by
  rw [copyPair]
  dsimp only
  split
  · rfl
  · split <;> rfl

theorem syncPair_pool (a b : ReplicaRef) :
    (c.syncPair a b).2.replication.pool = c.replication.pool := by
  have hpool : ∀ concurrent, (c.countConcurrent concurrent).replication.pool =
      c.replication.pool := by
    intro concurrent
    rw [countConcurrent]
    split <;> rfl
  rw [syncPair]
  split
  · exact hpool _
  · split <;> exact (copyPair_pool ..).trans (hpool _)

theorem syncPairs_pool (report : SyncReport) (pairs : List (ReplicaRef × ReplicaRef)) :
    (c.syncPairs report pairs).2.replication.pool = c.replication.pool := by
  induction pairs generalizing c report with
  | nil => rfl
  | cons p rest ih => exact (ih _).trans (syncPair_pool p.1 p.2)

theorem syncCycle_pool : c.syncCycle.2.replication.pool = c.replication.pool :=
  (syncCycle_spec c).2.2.trans (syncPairs_pool ..)

/-- Two receivers with equal counts are skipped. -/
theorem syncPair_of_total_eq {a b : ReplicaRef}
    (h : (c.replica a).total = (c.replica b).total) :
    ∃ concurrent, (c.syncPair a b).1 = .skipped concurrent := by
  rw [syncPair, if_pos h]
  exact ⟨_, rfl⟩

/-- When all receivers have equal counts, nothing is copied. -/
theorem syncPairs_of_total_eq {roster : Roster} {top : Nat}
    {pairs : List (ReplicaRef × ReplicaRef)} (report : SyncReport)
    (htotal : ∀ ref ∈ roster, c.fleet.Holds ref ∧ (c.replica ref).total.toNat = top)
    (h : ∀ p ∈ pairs, p.1 ∈ roster ∧ p.2 ∈ roster) :
    (c.syncPairs report pairs).1.copied = report.copied ∧
      (c.syncPairs report pairs).2.fleet = c.fleet := by
  induction pairs generalizing c report with
  | nil => exact ⟨rfl, rfl⟩
  | cons p rest ih =>
    obtain ⟨ha, hb⟩ := h p List.mem_cons_self
    have heq : (c.replica p.1).total = (c.replica p.2).total := by
      rw [← UInt64.toNat_inj, (htotal _ ha).2, (htotal _ hb).2]
    -- the pair changes no receiver, so the next one meets equal counts again
    have hfleet : (c.syncPair p.1 p.2).2.fleet = c.fleet := by
      rw [syncPair_fleet (htotal _ ha).1 (htotal _ hb).1, Fleet.level_of_total_eq heq]
    obtain ⟨concurrent, hskip⟩ := syncPair_of_total_eq heq
    obtain ⟨hcopied, hrest⟩ := ih (c := (c.syncPair p.1 p.2).2)
      (report.add (c.syncPair p.1 p.2).1)
      (fun ref href ↦ by
        rw [replica, hfleet]
        exact htotal ref href)
      fun q hq ↦ h q (List.mem_cons_of_mem _ hq)
    refine ⟨?_, hrest.trans hfleet⟩
    rw [syncPairs]
    exact hcopied.trans (by rw [hskip]; rfl)

/-! ### Convergence -/

/-- The receivers that are running in the pool are level with the peak from which the cycle
started, by way of `Fleet.Levelled`. -/
theorem syncCycle_levelled :
    Fleet.Levelled c.fleet (c.fleet.running c.replication.pool)
      (c.fleet.peak (c.fleet.running c.replication.pool)) c.syncCycle.2.fleet := by
  rw [syncCycle_fleet]
  refine (Fleet.Levelled.refl fun ref href ↦ ?_).levelAll fun p hp ↦ mem_of_mem_pairs hp
  exact ⟨Fleet.holds_of_mem_running href, Fleet.le_peak href⟩

/-- After a cycle every running receiver has seen as many messages as the peak. -/
theorem total_syncCycle {ref : ReplicaRef} (h : ref ∈ c.fleet.running c.replication.pool) :
    (c.syncCycle.2.replica ref).total.toNat =
      c.fleet.peak (c.fleet.running c.replication.pool) := by
  rw [replica, syncCycle_fleet]
  refine Fleet.total_levelAll_pairs (fun ref href ↦ ?_) ?_ h
  · exact ⟨Fleet.holds_of_mem_running href, Fleet.le_peak href⟩
  · exact Fleet.exists_eq_peak (List.ne_nil_of_mem h)

/-- The same receivers are running after a cycle. -/
theorem running_syncCycle :
    c.syncCycle.2.fleet.running c.syncCycle.2.replication.pool =
      c.fleet.running c.replication.pool := by
  rw [syncCycle_pool]
  refine List.filter_congr fun ref _ ↦ ?_
  rw [Replica.isRunning, (syncCycle_levelled.lifecycle ref).1]
  rfl

/-- **Sync converges.** Let `top` be the largest message count among the running receivers of the
pool. After a sync cycle each of them has seen `top` messages and holds the records and the vector
that some of them held with `top` at the start. Who started with `top`, and who is not running in
the pool, is left as it was, and nobody's lifecycle changes. So with one receiver at `top` all
running receivers end alike; and a second cycle copies nothing and changes nobody. -/
theorem syncCycle_converges (c : Cluster) :
    let running := c.fleet.running c.replication.pool
    let top := c.fleet.peak running
    let c' := c.syncCycle.2
    (∀ ref ∈ running, (c'.replica ref).total.toNat = top ∧
      ∃ source ∈ running, (c.replica source).total.toNat = top ∧
        (c'.replica ref).contents = (c.replica source).contents) ∧
    (∀ ref ∈ running, (c.replica ref).total.toNat = top → c'.replica ref = c.replica ref) ∧
    (∀ ref ∉ running, c'.replica ref = c.replica ref) ∧
    (∀ ref, (c'.replica ref).state = (c.replica ref).state ∧
      (c'.replica ref).inbound = (c.replica ref).inbound) ∧
    ((∀ a ∈ running, ∀ b ∈ running,
        (c.replica a).total.toNat = top → (c.replica b).total.toNat = top → a = b) →
      ∀ a ∈ running, ∀ b ∈ running, (c'.replica a).contents = (c'.replica b).contents) ∧
    c'.syncCycle.1.copied = 0 ∧ ∀ ref, c'.syncCycle.2.replica ref = c'.replica ref := by
  intro running top c'
  have hlevel : Fleet.Levelled c.fleet running top c'.fleet := syncCycle_levelled
  have htotal : ∀ ref ∈ running, (c'.replica ref).total.toNat = top :=
    fun ref href ↦ total_syncCycle href
  have horigin : ∀ ref ∈ running, ∃ source ∈ running, (c.replica source).total.toNat = top ∧
      (c'.replica ref).contents = (c.replica source).contents :=
    fun ref href ↦ hlevel.origin ref href (htotal ref href)
  refine ⟨fun ref href ↦ ⟨htotal ref href, horigin ref href⟩, hlevel.leader, hlevel.outside,
    hlevel.lifecycle, ?_, ?_⟩
  · intro hunique a ha b hb
    obtain ⟨s, hs, hstop, hsame⟩ := horigin a ha
    obtain ⟨t, ht, httop, htsame⟩ := horigin b hb
    rw [hsame, htsame, hunique s hs t ht hstop httop]
  · -- the second cycle meets the same receivers, all of them with `top` messages
    have hagain : c'.fleet.running c'.replication.pool = running := running_syncCycle
    have hlevelled : ∀ ref ∈ running, c'.fleet.Holds ref ∧ (c'.replica ref).total.toNat = top :=
      fun ref href ↦ ⟨(hlevel.below ref href).1, htotal ref href⟩
    obtain ⟨hcopied, hfleet⟩ :=
      syncPairs_of_total_eq default hlevelled fun p hp ↦ mem_of_mem_pairs hp
    rw [← hagain] at hcopied hfleet
    obtain ⟨hreport, hcycle, -⟩ := syncCycle_spec c'
    refine ⟨by rw [hreport]; exact hcopied, fun ref ↦ ?_⟩
    rw [replica, hcycle, hfleet]
    rfl

end Cluster

end SensorCluster
