import SensorCluster.Proofs.Frames
import SensorCluster.Proofs.SyncConvergence
import Mathlib.Data.List.MinMax

/-!
# What a receiver takes from its best peer

A receiver that comes back, or that joins the replication pool while it is running, is restored from
the most complete of its peers: the running receivers of other ids that the replication looks after.
**Afterwards it has seen as many messages as the most complete of them, or as many as before if that
is more** (`restoreFromBestPeer_spec`), and nobody else has changed.

The search keeps the best peer so far along the roster, and of several that tie the one it met last.
`mostComplete?_eq_argmax` says so by induction from the end of the roster, since the step is taken
last there: it is the first of the largest when the roster is read backwards.
-/

namespace SensorCluster

namespace Fleet

variable {f : Fleet} {roster : Roster} {ref : ReplicaRef} {excluded : String}

/-- The running receivers of a roster, without those of one id. -/
def peers (f : Fleet) (roster : Roster) (excluded : String) : Roster :=
  f.dismiss (f.running roster) excluded

theorem mem_peers : ref ∈ f.peers roster excluded ↔
    ref ∈ roster ∧ (f.get ref).isRunning = true ∧ (f.get ref).id ≠ excluded := by
  rw [peers, mem_dismiss, mem_running, and_assoc]

/-- Who is as complete as all others is at the peak. -/
theorem peak_eq (href : ref ∈ roster)
    (hbest : ∀ other ∈ roster, (f.get other).total ≤ (f.get ref).total) :
    f.peak roster = (f.get ref).total.toNat := by
  obtain ⟨top, htop, heq⟩ := exists_eq_peak (f := f) (List.ne_nil_of_mem href)
  have hle := UInt64.le_iff_toNat_le.1 (hbest top htop)
  have hge := le_peak (f := f) href
  omega

/-- With one receiver more the peak is as high as before, or as high as that receiver. -/
theorem peak_concat (f : Fleet) (roster : Roster) (ref : ReplicaRef) :
    f.peak (roster ++ [ref]) = max (f.peak roster) (f.get ref).total.toNat := by
  induction roster with
  | nil => exact Nat.max_comm ..
  | cons head rest ih =>
    show max (f.get head).total.toNat (f.peak (rest ++ [ref])) =
      max (max (f.get head).total.toNat (f.peak rest)) (f.get ref).total.toNat
    rw [ih, Nat.max_assoc]

theorem peak_congr {f' : Fleet} (h : ∀ ref ∈ roster, f'.get ref = f.get ref) :
    f'.peak roster = f.peak roster :=
  congrArg (List.foldr max 0) (List.map_congr_left fun ref href ↦ by rw [h ref href])

/-- Where the listed receivers are the same, so is the peak of those that are running. -/
theorem peak_running_congr {f' : Fleet} (h : ∀ ref ∈ roster, f'.get ref = f.get ref) :
    f'.peak (f'.running roster) = f.peak (f.running roster) := by
  have hrunning : f'.running roster = f.running roster :=
    List.filter_congr fun ref href ↦ by rw [h ref href]
  rw [hrunning]
  exact peak_congr fun ref href ↦ h ref (mem_running.1 href).1

/-- Who the peers of an id are does not depend on who has the id. -/
theorem peers_congr {f' : Fleet} (hids : ∀ ref ∈ roster, (f'.get ref).id = (f.get ref).id)
    (hothers : ∀ ref ∈ roster, (f.get ref).id ≠ excluded → f'.get ref = f.get ref) :
    f'.peers roster excluded = f.peers roster excluded := by
  rw [peers, dismiss, running, List.filter_filter, peers, dismiss, running, List.filter_filter]
  refine List.filter_congr fun ref href ↦ ?_
  by_cases hid : (f.get ref).id = excluded
  · simp [hids ref href, hid]
  · rw [hothers ref href hid]

/-- Nor does it how far they have come. -/
theorem peak_peers_congr {f' : Fleet} (hids : ∀ ref ∈ roster, (f'.get ref).id = (f.get ref).id)
    (hothers : ∀ ref ∈ roster, (f.get ref).id ≠ excluded → f'.get ref = f.get ref) :
    f'.peak (f'.peers roster excluded) = f.peak (f.peers roster excluded) := by
  rw [peers_congr hids hothers]
  refine peak_congr fun ref href ↦ ?_
  obtain ⟨hlisted, -, hid⟩ := mem_peers.1 href
  exact hothers ref hlisted hid

/-- Without anybody of the id on the roster, all that are running are peers. -/
theorem peers_of_not_mem (h : excluded ∉ f.ids roster) :
    f.peers roster excluded = f.running roster := by
  refine List.filter_eq_self.2 fun ref href ↦ ?_
  have hid : (f.get ref).id ≠ excluded :=
    fun heq ↦ h (heq ▸ List.mem_map_of_mem (mem_running.1 href).1)
  simpa using hid

/-- The peers of a roster and one receiver more. -/
theorem peers_concat (f : Fleet) (roster : Roster) (ref : ReplicaRef) (excluded : String) :
    f.peers (roster ++ [ref]) excluded = f.peers roster excluded ++
      if (f.get ref).isRunning = true ∧ (f.get ref).id ≠ excluded then [ref] else [] := by
  rw [peers, running, List.filter_append, dismiss, List.filter_append]
  cases hrunning : (f.get ref).isRunning <;> by_cases hid : (f.get ref).id = excluded <;>
    simp [peers, running, dismiss, hrunning, hid]

/-- **The search for the most complete peer** finds the one that has seen the most messages, the
last in the order of the roster where several tie. -/
theorem mostComplete?_eq_argmax (f : Fleet) (roster : Roster) (excluded : String) :
    f.mostComplete? roster excluded =
      (f.peers roster excluded).reverse.argmax fun ref ↦ (f.get ref).total.toNat := by
  induction roster using List.reverseRecOn with
  | nil => rfl
  | append_singleton roster ref ih =>
    rw [mostComplete?, List.foldl_append, ← mostComplete?, List.foldl_cons, List.foldl_nil,
      peers_concat]
    by_cases hpeer : (f.get ref).isRunning = true ∧ (f.get ref).id ≠ excluded
    · have hcounts : ¬((f.get ref).id = excluded ∨ (!(f.get ref).isRunning) = true) := by
        simp [hpeer.1, hpeer.2]
      rw [if_pos hpeer, List.reverse_concat, List.argmax_cons, ← ih]
      dsimp only
      rw [if_neg hcounts]
      cases f.mostComplete? roster excluded with
      | none => rfl
      | some best => simp only [UInt64.lt_iff_toNat_lt]
    · have hskip : (f.get ref).id = excluded ∨ (!(f.get ref).isRunning) = true := by
        by_cases hid : (f.get ref).id = excluded
        · exact .inl hid
        · exact .inr (by simpa [hid] using hpeer)
      rw [if_neg hpeer, List.append_nil]
      dsimp only
      rw [if_pos hskip]
      exact ih

/-- The search finds a peer that no other exceeds, unless there is none. -/
theorem mostComplete?_cases (f : Fleet) (roster : Roster) (excluded : String) :
    (f.peers roster excluded = [] ∧ f.mostComplete? roster excluded = none) ∨
    ∃ best ∈ f.peers roster excluded, f.mostComplete? roster excluded = some best ∧
      ∀ other ∈ f.peers roster excluded, (f.get other).total ≤ (f.get best).total := by
  rw [mostComplete?_eq_argmax]
  cases hbest : (f.peers roster excluded).reverse.argmax fun ref ↦ (f.get ref).total.toNat with
  | none => exact .inl ⟨List.reverse_eq_nil_iff.1 (List.argmax_eq_none.1 hbest), rfl⟩
  | some best =>
    refine .inr ⟨best, List.mem_reverse.1 (List.argmax_mem hbest), rfl, fun other hother ↦ ?_⟩
    rw [UInt64.le_iff_toNat_le]
    exact List.le_of_mem_argmax (f := fun ref ↦ (f.get ref).total.toNat)
      (List.mem_reverse.2 hother) hbest

end Fleet

/-- What a receiver is apart from its shell. -/
structure Replica.Data where
  index : RecordIndex
  vector : VersionVector
  total : Counter
  conflicts : Counter

/-- The data of a receiver. -/
def Replica.data (r : Replica) : Data := ⟨r.index, r.vector, r.total, r.conflicts⟩

/-- The data in a snapshot. -/
def Snapshot.data (s : Snapshot) : Replica.Data := ⟨s.index, s.vector, s.total, s.conflicts⟩

/-- **A restore** is applied when the snapshot has seen more messages, and then its data are all
there is. -/
theorem Replica.restore_spec (r : Replica) (s : Snapshot) :
    (r.restore s).1 = decide (r.total < s.total) ∧
      (r.restore s).2.data = if r.total < s.total then s.data else r.data := by
  rw [restore]
  split
  · next hlt => exact ⟨(decide_eq_true hlt).symm, rfl⟩
  · next hlt => exact ⟨(decide_eq_false hlt).symm, rfl⟩

/-- A snapshot that is not ahead changes nothing. -/
theorem Replica.restore_of_le {r : Replica} {s : Snapshot} (h : s.total ≤ r.total) :
    r.restore s = (false, r) :=
  if_neg (UInt64.not_lt.2 h)

/-- A restore takes all the data or none. -/
theorem Replica.restore_data (r source : Replica) (now : WallTime) :
    (r.restore (source.snapshot now)).2.data = r.data ∨
      (r.restore (source.snapshot now)).2.data = source.data := by
  rw [(restore_spec ..).2]
  split
  · exact .inr rfl
  · exact .inl rfl

/-- A restore leaves a receiver with as many messages as the one of the two that has seen more. -/
theorem Replica.restore_total (r source : Replica) (now : WallTime) :
    (r.restore (source.snapshot now)).2.total.toNat = max r.total.toNat source.total.toNat := by
  have htotal := congrArg (·.total.toNat) (r.restore_spec (source.snapshot now)).2
  refine htotal.trans ?_
  split
  · next hlt =>
    have hlt := UInt64.lt_iff_toNat_lt.1 hlt
    exact (Nat.max_eq_right (Nat.le_of_lt hlt)).symm
  · next hlt =>
    have hle := UInt64.le_iff_toNat_le.1 (UInt64.not_lt.1 hlt)
    exact (Nat.max_eq_left hle).symm

namespace Cluster

variable {c c' started : Cluster} {ref : ReplicaRef}

/-- Who is put at a place is there, and everybody else is where he was. -/
theorem replica_of_set (hholds : c.fleet.Holds ref) {r : Replica}
    (hfleet : c'.fleet = c.fleet.set ref r) (other : ReplicaRef) :
    c'.replica other = if other = ref then r else c.replica other :=
  (congrArg (Fleet.get · other) hfleet).trans (Fleet.get_set hholds other r)

/-- Without a peer nothing is restored. -/
theorem restoreFromBestPeer_of_none (h : c.bestPeer? (c.replica ref).id = none) :
    (c.restoreFromBestPeer ref).1 = none ∧ (c.restoreFromBestPeer ref).2.fleet = c.fleet := by
  rw [restoreFromBestPeer]
  dsimp only
  rw [h]
  exact ⟨rfl, rfl⟩

/-- **A restore from the best peer** answers who it is when its snapshot was applied. -/
theorem restoreFromBestPeer_of_some {best : ReplicaRef}
    (h : c.bestPeer? (c.replica ref).id = some best) :
    (c.restoreFromBestPeer ref).1 =
        (if (c.replica ref).total < (c.replica best).total
          then some (c.replica best).id else none) ∧
      (c.restoreFromBestPeer ref).2.fleet =
        c.fleet.set ref ((c.replica ref).restore (c.snapshot best)).2 := by
  have happlied : (c.restore ref (c.snapshot best)).1 =
      decide ((c.replica ref).total < (c.replica best).total) := ((c.replica ref).restore_spec _).1
  rw [restoreFromBestPeer]
  dsimp only
  rw [h]
  dsimp only
  rw [happlied]
  -- whether the snapshot was taken over is counted or logged, which changes no receiver
  by_cases hlt : (c.replica ref).total < (c.replica best).total
  · rw [decide_eq_true hlt, if_pos rfl, if_pos hlt]
    exact ⟨rfl, rfl⟩
  · rw [decide_eq_false hlt, if_neg Bool.false_ne_true, if_neg hlt]
    exact ⟨rfl, rfl⟩

/-- A restore from the best peer does nothing when there is no peer, and otherwise restores the
receiver from a peer that no other exceeds. -/
theorem restoreFromBestPeer_cases (c : Cluster) (ref : ReplicaRef) :
    (c.fleet.peers c.replication.pool (c.replica ref).id = [] ∧
      (c.restoreFromBestPeer ref).2.fleet = c.fleet) ∨
    ∃ best ∈ c.fleet.peers c.replication.pool (c.replica ref).id,
      (∀ other ∈ c.fleet.peers c.replication.pool (c.replica ref).id,
        (c.replica other).total ≤ (c.replica best).total) ∧
      (c.restoreFromBestPeer ref).2.fleet =
        c.fleet.set ref ((c.replica ref).restore (c.snapshot best)).2 := by
  rcases c.fleet.mostComplete?_cases c.replication.pool (c.replica ref).id with
    ⟨hnone, hsearch⟩ | ⟨best, hmem, hsearch, hmax⟩
  · exact .inl ⟨hnone, (restoreFromBestPeer_of_none hsearch).2⟩
  · exact .inr ⟨best, hmem, hmax, (restoreFromBestPeer_of_some hsearch).2⟩

/-- Everybody else stays as he is, and the receiver ends with as many messages as the most complete
of its peers, or as before if these are more. -/
theorem restoreFromBestPeer_spec (hholds : c.fleet.Holds ref) :
    (∀ other ≠ ref, (c.restoreFromBestPeer ref).2.replica other = c.replica other) ∧
    ((c.restoreFromBestPeer ref).2.replica ref).total.toNat = max (c.replica ref).total.toNat
      (c.fleet.peak (c.fleet.peers c.replication.pool (c.replica ref).id)) := by
  rcases c.restoreFromBestPeer_cases ref with ⟨hnone, hfleet⟩ | ⟨best, hmem, hmax, hfleet⟩
  · rw [hnone, replica, hfleet]
    exact ⟨fun other _ ↦ congrArg (Fleet.get · other) hfleet, (Nat.max_zero _).symm⟩
  · have htaken := replica_of_set hholds hfleet
    rw [Fleet.peak_eq hmem hmax, htaken, if_pos rfl]
    exact ⟨fun other hother ↦ (htaken other).trans (if_neg hother), Replica.restore_total ..⟩

/-- **Its data are its own or those of a peer**, as a whole. -/
theorem restoreFromBestPeer_data (hholds : c.fleet.Holds ref) :
    ∃ source, (source = ref ∨ source ∈ c.fleet.peers c.replication.pool (c.replica ref).id) ∧
      ((c.restoreFromBestPeer ref).2.replica ref).data = (c.replica source).data := by
  rcases c.restoreFromBestPeer_cases ref with ⟨-, hfleet⟩ | ⟨best, hmem, -, hfleet⟩
  · exact ⟨ref, .inl rfl, congrArg (fun f : Fleet ↦ (f.get ref).data) hfleet⟩
  · rw [replica_of_set hholds hfleet, if_pos rfl]
    rcases (c.replica ref).restore_data (c.replica best) c.now with hown | hpeer
    · exact ⟨ref, .inl rfl, hown⟩
    · exact ⟨best, .inr hmem, hpeer⟩

theorem restoreFromBestPeer_pool (ref : ReplicaRef) :
    (c.restoreFromBestPeer ref).2.replication.pool = c.replication.pool := by
  rw [restoreFromBestPeer]
  dsimp only
  split
  · rfl
  · split <;> rfl

/-- **A receiver that was started first** and is then restored keeps its name, is healthy, and has
the data of the most complete peer that it had before it was started, or its own. -/
theorem restoreFromBestPeer_of_started (started : Cluster) (hholds : c.fleet.Holds ref)
    (hfleet : started.fleet =
      c.fleet.set ref { c.replica ref with state := .running, inbound := true })
    (hpool : started.replication.pool = c.replication.pool) :
    (∀ other ≠ ref, (started.restoreFromBestPeer ref).2.replica other = c.replica other) ∧
    ((started.restoreFromBestPeer ref).2.replica ref).shell =
      { (c.replica ref).shell with state := .running, inbound := true } ∧
    ((started.restoreFromBestPeer ref).2.replica ref).total.toNat = max (c.replica ref).total.toNat
      (c.fleet.peak (c.fleet.peers c.replication.pool (c.replica ref).id)) ∧
    ∃ source, (source = ref ∨ source ∈ c.fleet.peers c.replication.pool (c.replica ref).id) ∧
      ((started.restoreFromBestPeer ref).2.replica ref).data = (c.replica source).data := by
  have hget : ∀ other, started.replica other =
      if other = ref then { c.replica ref with state := .running, inbound := true }
      else c.replica other :=
    replica_of_set hholds hfleet
  have hother : ∀ other ≠ ref, started.replica other = c.replica other :=
    fun other hne ↦ (hget other).trans (if_neg hne)
  have hself : started.replica ref = { c.replica ref with state := .running, inbound := true } :=
    (hget ref).trans (if_pos rfl)
  have hids : ∀ other, (started.replica other).id = (c.replica other).id := by
    intro other
    rw [hget]
    split
    · next heq => rw [heq]
    · rfl
  have hothers : ∀ other ∈ c.replication.pool, (c.replica other).id ≠ (c.replica ref).id →
      started.replica other = c.replica other :=
    fun other _ hid ↦ hother other fun heq ↦ hid (congrArg (fun ref ↦ (c.replica ref).id) heq)
  have hpeers : started.fleet.peers started.replication.pool (started.replica ref).id =
      c.fleet.peers c.replication.pool (c.replica ref).id := by
    rw [hpool, hids]
    exact Fleet.peers_congr (fun other _ ↦ hids other) hothers
  have hpeak :
      started.fleet.peak (started.fleet.peers started.replication.pool (started.replica ref).id) =
        c.fleet.peak (c.fleet.peers c.replication.pool (c.replica ref).id) := by
    rw [hpool, hids]
    exact Fleet.peak_peers_congr (fun other _ ↦ hids other) hothers
  have hstarted : started.fleet.Holds ref := by
    rw [hfleet]
    exact (Fleet.holds_set ..).2 hholds
  obtain ⟨hkept, htotal⟩ := restoreFromBestPeer_spec hstarted
  obtain ⟨source, hsource, hdata⟩ := restoreFromBestPeer_data hstarted
  rw [hpeak, hself] at htotal
  rw [hpeers] at hsource
  refine ⟨fun other hne ↦ (hkept other hne).trans (hother other hne), ?_, htotal, source,
    hsource, ?_⟩
  · rw [restoreFromBestPeer_shell, hself]
    rfl
  · rw [hdata, hget]
    split
    · next heq => rw [heq]; rfl
    · rfl

/-- Who joins the replication pool while it is running is restored from its best peer there. -/
theorem joinPool_of_free (hholds : c.fleet.Holds ref) (hrunning : (c.replica ref).isRunning = true)
    (hfree : (c.replica ref).id ∉ c.fleet.ids c.replication.pool) :
    (c.joinPool ref).2.replication.pool = c.replication.pool ++ [ref] ∧
    (∀ other ≠ ref, (c.joinPool ref).2.replica other = c.replica other) ∧
    ((c.joinPool ref).2.replica ref).total.toNat = max (c.replica ref).total.toNat
      (c.fleet.peak (c.fleet.peers c.replication.pool (c.replica ref).id)) := by
  rw [joinPool, Fleet.enlist_of_not_mem hfree]
  dsimp only
  -- putting it on the list and counting it comes before the restore
  set joined : Cluster := { c with replication := { c.replication with
    pool := c.replication.pool ++ [ref] } }
  set counted :=
    joined.countReplication fun n ↦ { n with bootstrapSyncs := n.bootstrapSyncs.increment }
  rw [if_pos (show (joined.replica ref).isRunning = true from hrunning)]
  obtain ⟨hothers, htotal⟩ := restoreFromBestPeer_spec (c := counted) hholds
  refine ⟨restoreFromBestPeer_pool (c := counted) ref, hothers, htotal.trans ?_⟩
  have hpeers : c.fleet.peers (c.replication.pool ++ [ref]) (c.replica ref).id =
      c.fleet.peers c.replication.pool (c.replica ref).id := by
    rw [Fleet.peers_concat, if_neg fun h ↦ h.2 rfl, List.append_nil]
  show max (c.replica ref).total.toNat
    (c.fleet.peak (c.fleet.peers (c.replication.pool ++ [ref]) (c.replica ref).id)) = _
  rw [hpeers]

/-- Whose id is in the replication pool does not join it. -/
theorem joinPool_of_taken (htaken : (c.replica ref).id ∈ c.fleet.ids c.replication.pool) :
    c.joinPool ref = (false, c) := by
  have hlisted : c.fleet.enlist c.replication.pool ref = none := if_pos (Fleet.lists_iff.2 htaken)
  rw [joinPool, hlisted]

end Cluster

end SensorCluster
