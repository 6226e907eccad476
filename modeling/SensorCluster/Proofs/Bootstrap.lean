import SensorCluster.Proofs.Newcomers

/-!
# Beginning with the data of a peer

A receiver that joins while it is running, like one that comes back, takes the data of its best
peer. Whom it takes them from, and when, is settled in full here (`bootstrap_complete`): the peers
are the running receivers of other ids in the replication pool, the best of them is the one that has
seen the most messages, **the last one in the pool where several tie**, and its data are taken if
and only if it is ahead.

So after its registration no registered receiver that is running is ahead of a newcomer that is
running. A newcomer that is not running is left with the data it had.

## What it rests on

* The receiver may be on the list already when the best peer is looked for. It does not count as its
  own peer, since its id is left out; nor does anybody else of its id.
* Registry and pool are two lists. Those who are registered are peers as far as both list the same
  receivers.
-/

namespace SensorCluster

namespace Cluster

variable {c : Cluster} {ref : ReplicaRef}

/-! ### The restore from the best peer -/

/-- **The best peer**, among those that are running under another id. -/
theorem bestPeer?_eq_argmax (c : Cluster) (excluded : String) :
    c.bestPeer? excluded =
      ((c.replication.pool.filter fun other ↦
        (c.replica other).isRunning ∧ (c.replica other).id ≠ excluded).reverse.argmax
          fun other ↦ (c.replica other).total.toNat) := by
  have hpeers : c.fleet.peers c.replication.pool excluded = c.replication.pool.filter fun other ↦
      (c.replica other).isRunning ∧ (c.replica other).id ≠ excluded := by
    rw [Fleet.peers, Fleet.dismiss, Fleet.running, List.filter_filter]
    refine List.filter_congr fun other _ ↦ ?_
    show (decide ((c.replica other).id ≠ excluded) && (c.replica other).isRunning) = _
    rw [Bool.decide_and, Bool.decide_eq_true, Bool.and_comm]
  rw [bestPeer?, Fleet.mostComplete?_eq_argmax, hpeers]
  rfl

/-- **The answer** is the id of the best peer when that is ahead, and there is none otherwise. -/
theorem restoreFromBestPeer_fst_iff {id : String} : (c.restoreFromBestPeer ref).1 = some id ↔
    ∃ peer ∈ c.bestPeer? (c.replica ref).id,
      (c.replica peer).id = id ∧ (c.replica ref).total < (c.replica peer).total := by
  cases hbest : c.bestPeer? (c.replica ref).id with
  | none => simp [(restoreFromBestPeer_of_none hbest).1]
  | some best =>
    rw [(restoreFromBestPeer_of_some hbest).1]
    by_cases hlt : (c.replica ref).total < (c.replica best).total <;> simp [hlt]

/-- The receiver is left as its best peer makes it. -/
theorem restoreFromBestPeer_self (hholds : c.fleet.Holds ref) {best : ReplicaRef}
    (hbest : c.bestPeer? (c.replica ref).id = some best) :
    (c.restoreFromBestPeer ref).2.replica ref = ((c.replica ref).restore (c.snapshot best)).2 := by
  rw [replica_of_set hholds (restoreFromBestPeer_of_some hbest).2, if_pos rfl]

/-- **From a best peer that is ahead** it has all the data. -/
theorem restoreFromBestPeer_of_ahead (hholds : c.fleet.Holds ref) {best : ReplicaRef}
    (hbest : c.bestPeer? (c.replica ref).id = some best)
    (hahead : (c.replica ref).total < (c.replica best).total) :
    ((c.restoreFromBestPeer ref).2.replica ref).data = (c.replica best).data := by
  rw [restoreFromBestPeer_self hholds hbest, (Replica.restore_spec ..).2]
  exact if_pos hahead

/-- Without an answer it is as before. -/
theorem restoreFromBestPeer_of_fst_none (hholds : c.fleet.Holds ref)
    (hnone : (c.restoreFromBestPeer ref).1 = none) :
    (c.restoreFromBestPeer ref).2.replica ref = c.replica ref := by
  cases hbest : c.bestPeer? (c.replica ref).id with
  | none => exact congrArg (Fleet.get · ref) (restoreFromBestPeer_of_none hbest).2
  | some best =>
    have hbehind : ¬(c.replica ref).total < (c.replica best).total := by
      intro hahead
      rw [restoreFromBestPeer_fst_iff.2 ⟨best, hbest, rfl, hahead⟩] at hnone
      cases hnone
    rw [restoreFromBestPeer_self hholds hbest]
    exact congrArg Prod.snd (Replica.restore_of_le (s := c.snapshot best) (UInt64.not_lt.1 hbehind))

/-! ### Joining and being registered -/

/-- Who joins the replication pool without running is restored from nobody. -/
theorem joinPool_of_idle (hidle : (c.replica ref).isRunning = false) :
    (c.joinPool ref).2.fleet = c.fleet := by
  rw [joinPool]
  split
  · rfl
  · dsimp only
    rw [if_neg]
    · exact fun hrunning ↦ Bool.noConfusion (hidle.symm.trans hrunning)

/-- Who is registered without running keeps its data, as do all others. -/
theorem register_of_idle (hidle : (c.replica ref).isRunning = false) :
    (c.register ref).2.fleet = c.fleet := by
  obtain ⟨-, lines, heq⟩ | ⟨-, lines, heq⟩ := c.register_cases ref <;> rw [heq]
  · rfl
  · exact joinPool_of_idle (c := c.modifyCoordinator _) hidle

/-- A registration is accepted when the id is free. -/
theorem register_fst_iff : (c.register ref).1 = true ↔ (c.replica ref).id ∉ c.registeredIds := by
  constructor
  · intro haccepted htaken
    obtain ⟨lines, hrefused⟩ := register_of_taken htaken
    rw [hrefused] at haccepted
    cases haccepted
  · exact fun hfree ↦ (register_of_free hfree).1

/-- **Nobody who is running is ahead of a newcomer** that is running, when the replication looks
after all who are registered and after nobody else. -/
theorem register_complete (hholds : c.fleet.Holds ref)
    (hsame : ∀ other, other ∈ c.replication.pool ↔ other ∈ c.coordinator.registry)
    (hfree : (c.replica ref).id ∉ c.registeredIds) (hrunning : (c.replica ref).isRunning = true) :
    ∀ other ∈ (c.register ref).2.coordinator.registry,
      ((c.register ref).2.replica other).isRunning = true →
      ((c.register ref).2.replica other).total ≤ ((c.register ref).2.replica ref).total := by
  obtain ⟨-, hregistry, -⟩ := register_of_free hfree
  obtain ⟨-, hothers, hpool⟩ := register_running hholds hrunning hfree
  have hids : ∀ other, other ∈ c.replication.pool → (c.replica other).id ≠ (c.replica ref).id :=
    fun other hother heq ↦ hfree (heq ▸ List.mem_map_of_mem ((hsame other).1 hother))
  have hunpooled : (c.replica ref).id ∉ c.fleet.ids c.replication.pool := by
    intro htaken
    obtain ⟨other, hother, heq⟩ := List.mem_map.1 htaken
    exact hids other hother heq
  obtain ⟨-, -, htotal⟩ := hpool.resolve_left fun htaken ↦ hunpooled htaken.1
  intro other hother hup
  rw [hregistry] at hother
  rcases List.mem_append.1 hother with hlisted | hself
  · have hpooled : other ∈ c.replication.pool := (hsame other).2 hlisted
    have hne : other ≠ ref := fun heq ↦ hids other hpooled (heq ▸ rfl)
    rw [hothers other hne] at hup ⊢
    have hpeer : other ∈ c.fleet.peers c.replication.pool (c.replica ref).id :=
      Fleet.mem_peers.2 ⟨hpooled, hup, hids other hpooled⟩
    rw [UInt64.le_iff_toNat_le, htotal]
    exact Nat.le_trans (Fleet.le_peak hpeer) (Nat.le_max_right ..)
  · rw [List.mem_singleton.1 hself]
    exact UInt64.le_refl _

/-- **A receiver and its best peer.** Let a receiver exist, listed or not, in any state of the
cluster.

* Its peers are the running receivers of the replication pool that have another id, and the best of
  them is the one with the largest total, the last in the pool among equals.
* A restore from the best peer answers an id if and only if it is that of the best peer and this one
  is ahead. Then the data of the receiver are those of the best peer; otherwise the receiver is as
  before. Nobody else changes, nor does the receiver in its name or its life.
* Its registration is accepted if and only if nobody of its id is registered. If the replication
  looks after the same receivers as the registry lists, then afterwards a newcomer that is running
  has seen at least as many messages as each registered receiver that is running. One that is not
  running keeps its data. -/
theorem bootstrap_complete (c : Cluster) (ref : ReplicaRef) (hholds : c.fleet.Holds ref) :
    let r := c.replica ref
    let peers := c.replication.pool.filter fun other ↦
      (c.replica other).isRunning ∧ (c.replica other).id ≠ r.id
    let best := peers.reverse.argmax fun other ↦ (c.replica other).total.toNat
    let answer := (c.restoreFromBestPeer ref).1
    let c' := (c.restoreFromBestPeer ref).2
    let joined := (c.register ref).2
    c.bestPeer? r.id = best ∧
    (∀ id, answer = some id ↔
      ∃ peer ∈ best, (c.replica peer).id = id ∧ r.total < (c.replica peer).total) ∧
    (∀ peer ∈ best, r.total < (c.replica peer).total →
      (c'.replica ref).data = (c.replica peer).data) ∧
    (answer = none → c'.replica ref = r) ∧
    (c'.replica ref).shell = r.shell ∧
    (∀ other, other ≠ ref → c'.replica other = c.replica other) ∧
    ((c.register ref).1 = true ↔ r.id ∉ c.registeredIds) ∧
    ((∀ other, other ∈ c.replication.pool ↔ other ∈ c.coordinator.registry) →
      (c.register ref).1 = true → r.isRunning = true →
        ∀ other ∈ joined.coordinator.registry, (joined.replica other).isRunning = true →
          (joined.replica other).total ≤ (joined.replica ref).total) ∧
    (r.isRunning = false → joined.replica ref = r) := by
  intro r peers best answer c' joined
  have hbest : c.bestPeer? r.id = best := bestPeer?_eq_argmax c r.id
  refine ⟨hbest, fun id ↦ ?_, fun peer hpeer ↦ ?_, restoreFromBestPeer_of_fst_none hholds,
    restoreFromBestPeer_shell ref ref, (restoreFromBestPeer_spec hholds).1, register_fst_iff, ?_,
    fun hidle ↦ ?_⟩
  · rw [← hbest]
    exact restoreFromBestPeer_fst_iff
  · exact restoreFromBestPeer_of_ahead hholds (hbest.trans hpeer)
  · exact fun hsame haccepted ↦ register_complete hholds hsame (register_fst_iff.1 haccepted)
  · exact congrArg (Fleet.get · ref) (register_of_idle hidle)

/-- Two running receivers with as many messages each and a stopped one with more, all of them
registered and in the replication pool, and a running one that is in neither. -/
def tiedPeers : Cluster :=
  let fresh := new .default .discard .inMemory default
  { fresh with
    fleet := ⟨[{ Replica.new "a" "" with state := .running, total := 5 },
      { Replica.new "b" "" with state := .running, total := 5, conflicts := 2 },
      { Replica.new "c" "" with state := .stopped, total := 9 },
      { Replica.new "d" "" with state := .running, total := 3 }]⟩
    coordinator := { fresh.coordinator with registry := [0, 1, 2] }
    replication := { fresh.replication with pool := [0, 1, 2] } }

/-- The newcomer takes the data of the second, and once it is registered neither of the two is
ahead. -/
theorem bootstrap_complete_tiedPeers :
    (tiedPeers.restoreFromBestPeer 3).1 = some "b" ∧
      ((tiedPeers.restoreFromBestPeer 3).2.replica 3).data = (tiedPeers.replica 1).data ∧
      5 ≤ ((tiedPeers.register 3).2.replica 3).total := by
  obtain ⟨-, hanswer, hdata, -, -, -, -, hcomplete, -⟩ :=
    bootstrap_complete tiedPeers 3 (by decide +kernel)
  refine ⟨(hanswer "b").2 ⟨1, by decide +kernel, by decide +kernel⟩,
    hdata 1 (by decide +kernel) (by decide +kernel), ?_⟩
  exact hcomplete (fun _ ↦ Iff.rfl) (by decide +kernel) (by decide +kernel) 0 (by decide +kernel)
    (by decide +kernel)

end Cluster

end SensorCluster
