import SensorCluster.Proofs.RecoveryOutcome

/-!
# What a recovery scan leaves behind

A scan goes along the replication pool and brings up each receiver that is down, that is, neither
healthy nor retired. Who was brought up early is running when the later ones look for a peer, so
**data may come down a chain of restores**, and the outcome depends on the order of the pool. Three
things do not depend on it (`recoveryScan_heals`): everybody who was down is healthy, nobody else
has changed, and whoever was brought up has lost no message and has seen as many as each receiver
that was running at the start.

## What it rests on

* One receiver that is brought up takes the data of one receiver as a whole, its own or a peer's
  (`scanReplica_of_down`).
* Of a scan that is under way, `Scanned` says how the receivers compare with those at the start.
  Whatever data a peer has by then is what some receiver of the pool had at the start, so a chain of
  restores is no longer than one step (`Scanned.exists_origin`), and no count has gone down
  (`Scanned.total_le`).
* The ids are distinct, so whoever is not the receiver itself is a peer.
-/

namespace SensorCluster

/-- Is it neither healthy nor retired? -/
def Replica.isDown (r : Replica) : Bool := !r.isHealthy && decide (r.state ≠ .retired)

namespace Cluster

variable {c₀ c c' : Cluster} {ref : ReplicaRef} {report : RecoveryReport} {scanned rest : Roster}

/-! ### One receiver -/

/-- Who is healthy or retired is passed over. -/
theorem scanReplica_of_up (h : (c.replica ref).isDown = false) :
    c.scanReplica report ref = (report, c) := by
  rw [scanReplica]
  dsimp only
  rw [if_pos]
  simpa [Replica.isDown, Decidable.or_iff_not_imp_left] using h

/-- **Who is down is brought up**, and has the data of its most complete peer, or its own. -/
theorem scanReplica_of_down (hholds : c.fleet.Holds ref) (hdown : (c.replica ref).isDown = true)
    (report : RecoveryReport) :
    ∃ restored ≤ 1, (c.scanReplica report ref).1 =
      ⟨report.unhealthy + 1, report.recovered + 1, report.restored + restored, report.failed⟩ ∧
    (c.scanReplica report ref).2.replication.pool = c.replication.pool ∧
    (∀ other ≠ ref, (c.scanReplica report ref).2.replica other = c.replica other) ∧
    ((c.scanReplica report ref).2.replica ref).shell =
      { (c.replica ref).shell with state := .running, inbound := true } ∧
    ((c.scanReplica report ref).2.replica ref).total.toNat = max (c.replica ref).total.toNat
      (c.fleet.peak (c.fleet.peers c.replication.pool (c.replica ref).id)) ∧
    ∃ source, (source = ref ∨ source ∈ c.fleet.peers c.replication.pool (c.replica ref).id) ∧
      ((c.scanReplica report ref).2.replica ref).data = (c.replica source).data := by
  simp only [Replica.isDown, Bool.and_eq_true, Bool.not_eq_true', decide_eq_true_eq] at hdown
  obtain ⟨hunhealthy, halive⟩ := hdown
  obtain ⟨lines, hrecover⟩ := recover_of_not_retired halive
  rw [scanReplica]
  dsimp only
  rw [if_neg (by simp [hunhealthy, halive]), hrecover]
  dsimp only
  set started := Cluster.countReplication (write _ lines) _
  exact ⟨_, Bool.toNat_le _, rfl, restoreFromBestPeer_pool (c := started) ref,
    restoreFromBestPeer_of_started started hholds rfl rfl⟩

/-! ### A scan under way -/

/-- A receiver that was down was brought up: it is what it was, healthy, and complete as far as
anybody was running, with the data that some receiver had. -/
structure BroughtUp (c₀ : Cluster) (ref : ReplicaRef) (c : Cluster) : Prop where
  shell : (c.replica ref).shell = { (c₀.replica ref).shell with state := .running, inbound := true }
  own : (c₀.replica ref).total ≤ (c.replica ref).total
  others : ∀ other ∈ c₀.replication.pool, (c₀.replica other).isRunning = true →
    (c₀.replica other).total ≤ (c.replica ref).total
  origin : ∃ source ∈ c₀.replication.pool, (c.replica ref).data = (c₀.replica source).data

theorem BroughtUp.congr (h : c₀.BroughtUp ref c) (heq : c'.replica ref = c.replica ref) :
    c₀.BroughtUp ref c' where
  shell := heq ▸ h.shell
  own := heq ▸ h.own
  others := heq ▸ h.others
  origin := heq ▸ h.origin

/-- The receivers of the pool that are down. -/
def down (c : Cluster) : Roster := c.replication.pool.filter fun ref ↦ (c.replica ref).isDown

/-- How the receivers compare with those at the start when so many of the pool were scanned. -/
structure Scanned (c₀ : Cluster) (scanned : Roster) (report : RecoveryReport)
    (c : Cluster) : Prop where
  pool : c.replication.pool = c₀.replication.pool
  grows : c₀.fleet.Grows c.fleet
  same : ∀ ref, ref ∉ scanned ∨ (c₀.replica ref).isDown = false → c.replica ref = c₀.replica ref
  broughtUp : ∀ ref ∈ scanned, (c₀.replica ref).isDown = true → c₀.BroughtUp ref c
  unhealthy : report.unhealthy = scanned.countP fun ref ↦ (c₀.replica ref).isDown
  recovered : report.recovered = report.unhealthy
  restored : report.restored ≤ report.recovered
  failed : report.failed = 0

namespace Scanned

theorem refl (c : Cluster) : c.Scanned [] default c where
  pool := rfl
  grows := .refl _
  same _ _ := rfl
  broughtUp _ href := absurd href List.not_mem_nil
  unhealthy := rfl
  recovered := rfl
  restored := Nat.le_refl _
  failed := rfl

theorem same_or_broughtUp (h : c₀.Scanned scanned report c) (ref : ReplicaRef) :
    c.replica ref = c₀.replica ref ∨ c₀.BroughtUp ref c := by
  by_cases href : ref ∈ scanned
  · cases hdown : (c₀.replica ref).isDown with
    | true => exact .inr (h.broughtUp ref href hdown)
    | false => exact .inl (h.same ref (.inr hdown))
  · exact .inl (h.same ref (.inl href))

theorem id_eq (h : c₀.Scanned scanned report c) (ref : ReplicaRef) :
    (c.replica ref).id = (c₀.replica ref).id := by
  rcases h.same_or_broughtUp ref with hsame | hup
  · rw [hsame]
  · exact congrArg Replica.Shell.id hup.shell

/-- Who was running still is, and has lost no message. -/
theorem total_le (h : c₀.Scanned scanned report c) (ref : ReplicaRef) :
    (c₀.replica ref).total ≤ (c.replica ref).total ∧
      ((c₀.replica ref).isRunning = true → (c.replica ref).isRunning = true) := by
  rcases h.same_or_broughtUp ref with hsame | hup
  · rw [hsame]
    exact ⟨UInt64.le_refl _, id⟩
  · exact ⟨hup.own, fun _ ↦ congrArg (·.state.isRunning) hup.shell⟩

/-- **Whatever data a receiver of the pool has by now**, one of them had at the start. -/
theorem exists_origin (h : c₀.Scanned scanned report c) (href : ref ∈ c₀.replication.pool) :
    ∃ source ∈ c₀.replication.pool, (c.replica ref).data = (c₀.replica source).data := by
  rcases h.same_or_broughtUp ref with hsame | hup
  · exact ⟨ref, href, congrArg Replica.data hsame⟩
  · exact hup.origin

/-- The next receiver is not down: nothing happens. -/
theorem step_of_up (h : c₀.Scanned scanned report c) (hup : (c₀.replica ref).isDown = false) :
    c₀.Scanned (scanned ++ [ref]) report c where
  pool := h.pool
  grows := h.grows
  same other hother := by
    refine h.same other (hother.imp_left fun hnot hmem ↦ hnot (List.mem_append_left _ hmem))
  broughtUp other hother hdown := by
    rcases List.mem_append.1 hother with hmem | heq
    · exact h.broughtUp other hmem hdown
    · rw [List.mem_singleton.1 heq, hup] at hdown
      cases hdown
  unhealthy := by
    rw [h.unhealthy, List.countP_append, List.countP_singleton, hup]
    rfl
  recovered := h.recovered
  restored := h.restored
  failed := h.failed

/-- **The next receiver is down**: it is brought up, with what its peers have by now. -/
theorem step_of_down (h : c₀.Scanned scanned report c)
    (hids : (c₀.fleet.ids c₀.replication.pool).Nodup) (hholds : c₀.fleet.Holds ref)
    (href : ref ∈ c₀.replication.pool) (hnew : ref ∉ scanned)
    (hdown : (c₀.replica ref).isDown = true) :
    c₀.Scanned (scanned ++ [ref]) (c.scanReplica report ref).1 (c.scanReplica report ref).2 := by
  have hsame : c.replica ref = c₀.replica ref := h.same ref (.inl hnew)
  obtain ⟨restored, hrestored, hreport, hpool, hkept, hshell, htotal, source, hsource, hdata⟩ :=
    scanReplica_of_down (h.grows ref hholds).1 (hsame ▸ hdown) report
  have hgrows : c.fleet.Grows (c.scanReplica report ref).2.fleet :=
    (scanReplica_aside report ref).grows
  rw [hsame] at hshell htotal hsource
  have hbroughtUp : c₀.BroughtUp ref (c.scanReplica report ref).2 :=
    { shell := hshell
      own := by
        rw [UInt64.le_iff_toNat_le, htotal]
        exact Nat.le_max_left ..
      others := by
        intro other hother hrunning
        rw [UInt64.le_iff_toNat_le, htotal]
        obtain ⟨hle, hup⟩ := h.total_le other
        by_cases heq : other = ref
        · rw [heq]
          exact Nat.le_max_left ..
        · have hid : (c₀.replica other).id ≠ (c₀.replica ref).id :=
            fun hid ↦ heq (Fleet.eq_of_id_eq hids hother href hid)
          have hpeer : other ∈ c.fleet.peers c.replication.pool (c₀.replica ref).id :=
            Fleet.mem_peers.2 ⟨h.pool ▸ hother, hup hrunning, (h.id_eq other).trans_ne hid⟩
          exact Nat.le_trans (UInt64.le_iff_toNat_le.1 hle)
            (Nat.le_trans (Fleet.le_peak hpeer) (Nat.le_max_right ..))
      origin := by
        have hlisted : source ∈ c₀.replication.pool := by
          rcases hsource with rfl | hpeer
          · exact href
          · exact h.pool ▸ (Fleet.mem_peers.1 hpeer).1
        obtain ⟨origin, horigin, heq⟩ := h.exists_origin hlisted
        exact ⟨origin, horigin, hdata.trans heq⟩ }
  exact
    { pool := hpool.trans h.pool
      grows := h.grows.trans hgrows
      same := by
        intro other hother
        have hne : other ≠ ref := by
          rintro rfl
          rcases hother with hnot | hup
          · exact hnot (List.mem_append_right _ List.mem_cons_self)
          · exact Bool.noConfusion (hdown.symm.trans hup)
        refine (hkept other hne).trans (h.same other ?_)
        exact hother.imp_left fun hnot hmem ↦ hnot (List.mem_append_left _ hmem)
      broughtUp := by
        intro other hother hdown'
        rcases List.mem_append.1 hother with hmem | heq
        · refine (h.broughtUp other hmem hdown').congr (hkept other ?_)
          rintro rfl
          exact hnew hmem
        · rwa [List.mem_singleton.1 heq]
      unhealthy := by
        rw [hreport, List.countP_append, List.countP_singleton, hdown, ← h.unhealthy]
        rfl
      recovered := by
        rw [hreport]
        exact congrArg (· + 1) h.recovered
      restored := by
        rw [hreport]
        exact Nat.add_le_add h.restored hrestored
      failed := by
        rw [hreport]
        exact h.failed }

/-- **The whole scan**, receiver by receiver. -/
theorem scanReplicas (h : c₀.Scanned scanned report c)
    (hids : (c₀.fleet.ids c₀.replication.pool).Nodup)
    (hholds : ∀ ref ∈ c₀.replication.pool, c₀.fleet.Holds ref)
    (hpool : scanned ++ rest = c₀.replication.pool) :
    c₀.Scanned c₀.replication.pool (c.scanReplicas report rest).1
      (c.scanReplicas report rest).2 := by
  induction rest generalizing c scanned report with
  | nil =>
    rw [← hpool, List.append_nil]
    exact h
  | cons ref rest ih =>
    have href : ref ∈ c₀.replication.pool := by
      rw [← hpool]
      exact List.mem_append_right _ List.mem_cons_self
    have hnew : ref ∉ scanned := by
      have hnodup : (scanned ++ ref :: rest).Nodup := hpool ▸ List.Nodup.of_map _ hids
      exact fun hmem ↦ List.disjoint_of_nodup_append hnodup hmem List.mem_cons_self
    have hstep : c₀.Scanned (scanned ++ [ref]) (c.scanReplica report ref).1
        (c.scanReplica report ref).2 := by
      cases hdown : (c₀.replica ref).isDown with
      | true => exact h.step_of_down hids (hholds ref href) href hnew hdown
      | false =>
        rw [scanReplica_of_up (h.same ref (.inl hnew) ▸ hdown)]
        exact h.step_of_up hdown
    rw [List.append_cons] at hpool
    exact ih hstep hpool

end Scanned

/-! ### The scan -/

theorem mem_down : ref ∈ c.down ↔ ref ∈ c.replication.pool ∧ (c.replica ref).isDown = true :=
  List.mem_filter

/-- **A recovery scan**, in any state of a cluster whose replication looks after receivers that
exist and that have distinct ids. The receivers in question are those of the pool that are `down`,
neither healthy nor retired.

* Afterwards every receiver of the pool that was not retired is healthy.
* Whoever was not down has not changed at all, in the pool or outside.
* All that were down count as unhealthy and as recovered, none as failed, and no more as restored.
* Each of them is who it was, and has lost no message. It has seen at least as many as every
  receiver of the pool that was running at the start, and its data as a whole are those that one
  receiver of the pool had at the start, itself or another. -/
theorem recoveryScan_heals (c : Cluster) (hholds : ∀ ref ∈ c.replication.pool, c.fleet.Holds ref)
    (hids : (c.fleet.ids c.replication.pool).Nodup) :
    let report := c.recoveryScan.1
    let c' := c.recoveryScan.2
    c'.replication.pool = c.replication.pool ∧
    (∀ ref ∈ c.replication.pool, (c.replica ref).state ≠ .retired →
      (c'.replica ref).isHealthy = true) ∧
    (∀ ref ∉ c.down, c'.replica ref = c.replica ref) ∧
    (report.unhealthy = c.down.length ∧ report.recovered = c.down.length ∧ report.failed = 0 ∧
      report.restored ≤ report.recovered) ∧
    ∀ ref ∈ c.down,
      (c'.replica ref).id = (c.replica ref).id ∧
      (c'.replica ref).address = (c.replica ref).address ∧
      (c.replica ref).total ≤ (c'.replica ref).total ∧
      (∀ other ∈ c.replication.pool, (c.replica other).isRunning = true →
        (c.replica other).total ≤ (c'.replica ref).total) ∧
      ∃ source ∈ c.replication.pool, (c'.replica ref).data = (c.replica source).data := by
  intro report c'
  have h : c.Scanned c.replication.pool report c' :=
    (Scanned.refl c).scanReplicas hids hholds rfl
  have hbroughtUp : ∀ ref ∈ c.down, c.BroughtUp ref c' := by
    intro ref href
    obtain ⟨hlisted, hdown⟩ := mem_down.1 href
    exact h.broughtUp ref hlisted hdown
  have hcount : report.unhealthy = c.down.length := h.unhealthy.trans List.countP_eq_length_filter
  have hsame : ∀ ref ∉ c.down, c'.replica ref = c.replica ref := by
    intro ref href
    refine h.same ref (Decidable.or_iff_not_imp_left.2 fun hlisted ↦ ?_)
    rw [mem_down, not_and] at href
    exact Bool.eq_false_iff.2 (href (not_not.1 hlisted))
  refine ⟨h.pool, fun ref href halive ↦ ?_, hsame,
    ⟨hcount, h.recovered.trans hcount, h.failed, h.restored⟩, fun ref href ↦ ?_⟩
  · by_cases hdown : ref ∈ c.down
    · exact Replica.isHealthy_of_shell
        (r := { c.replica ref with state := .running, inbound := true })
          (hbroughtUp ref hdown).shell
    · rw [hsame ref hdown]
      rw [mem_down, not_and] at hdown
      simpa [Replica.isDown, halive] using hdown href
  · have hup := hbroughtUp ref href
    exact ⟨congrArg Replica.Shell.id hup.shell, congrArg Replica.Shell.address hup.shell, hup.own,
      hup.others, hup.origin⟩

/-- Of four receivers the most complete one is stopped, the second is stopped, the third is running
with its inbound channel closed, and the fourth is retired. -/
def allDown : Cluster :=
  let fresh := new .default .discard .inMemory default
  { fresh with
    fleet := ⟨[{ Replica.new "a" "" with state := .stopped, total := 7 },
      { Replica.new "b" "" with state := .stopped, total := 1 },
      { Replica.new "c" "" with state := .running, total := 3 },
      { Replica.new "d" "" with state := .retired, total := 9 }]⟩
    replication := { fresh.replication with pool := [0, 1, 2, 3] } }

/-- Three come back, the second with at least what the third had, and the fourth is as it was. -/
theorem recoveryScan_heals_allDown :
    let c' := allDown.recoveryScan.2
    allDown.recoveryScan.1.recovered = 3 ∧ (c'.replica 1).isHealthy = true ∧
      3 ≤ (c'.replica 1).total ∧ c'.replica 3 = allDown.replica 3 := by
  intro c'
  obtain ⟨-, hhealthy, hsame, ⟨-, hrecovered, -⟩, hdown⟩ :=
    recoveryScan_heals allDown (by decide +kernel) (by decide +kernel)
  obtain ⟨-, -, -, hothers, -⟩ := hdown 1 (by decide +kernel)
  exact ⟨hrecovered, hhealthy 1 (by decide +kernel) (by decide +kernel),
    hothers 2 (by decide +kernel) (by decide +kernel), hsame 3 (by decide +kernel)⟩

end Cluster

end SensorCluster
