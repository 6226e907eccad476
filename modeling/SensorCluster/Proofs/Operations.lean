import SensorCluster.Proofs.CoordinatorCalls
import SensorCluster.Proofs.Core
import SensorCluster.Proofs.SyncConvergence

/-!
# Operations as moves

Each operation of a cluster is a sequence of moves of its core: `Leads` says so, and there is one
lemma for each operation. Here are the operations on receivers, on the replication pool, on the
registry and on messages; those of the fault tolerance build on them.

**The lemmas go along the calls.** An operation that calls another one cites the lemma of that one,
so a change to one operation of the cluster is a change to one lemma here.

What an operation writes, counts or publishes is no move (`Leads.congr_left`, `Leads.congr_right`).
Of all events only those that tell of an abandoned slot belong to the core (`core_publish`).
-/

namespace SensorCluster

/-! ### Receivers -/

namespace Replica

/-- A start that works leaves the receiver running, with its channel open. -/
theorem start_eq_ok {r r' : Replica} (h : r.start = .ok r') :
    r' = { r with state := .running, inbound := true } := by
  rw [start] at h
  split at h
  · exact (Except.ok.inj h).symm
  · cases h

/-- Only who was running is stopped; the channel is closed in any case. -/
theorem stop_snd (r : Replica) :
    r.stop.2 = { r with state := if r.isRunning then .stopped else r.state, inbound := false } := by
  rw [stop]
  split <;> rfl

end Replica

/-- What the coordinator keeps of the messages that were handed to it. -/
structure Ledger where
  globalVector : VersionVector
  totalMessages : Counter
  failedRoutes : Counter

namespace Ledger

/-- One more message was handed over. -/
def counted (l : Ledger) : Ledger := { l with totalMessages := l.totalMessages.increment }

/-- A receiver accepted the message and answered its vector. -/
def accepted (l : Ledger) (v : VersionVector) : Ledger :=
  { l with globalVector := l.globalVector.merge v }

/-- Nobody accepted the message. -/
def failed (l : Ledger) : Ledger := { l with failedRoutes := l.failedRoutes.increment }

end Ledger

/-- The ledger of a coordinator. -/
def Coordinator.ledger (k : Coordinator) : Ledger :=
  ⟨k.globalVector, k.totalMessages, k.failedRoutes⟩

/-- What routes leave behind with the coordinator. -/
structure Routing where
  ledger : Ledger
  placement : Placement

/-- The part of a coordinator that is there for routes. -/
def Coordinator.routing (k : Coordinator) : Routing := ⟨k.ledger, k.placement⟩

namespace Cluster

/-- The core of a cluster. -/
def core (c : Cluster) : Core where
  fleet := c.fleet
  registry := c.coordinator.registry
  pool := c.replication.pool
  settings := c.healing.config
  provisioner := c.healing.provisioner
  slots := c.healing.slots
  asked := c.healing.asked
  pending := c.healing.pending
  exhaustedSlots := c.healing.counters.exhaustedSlots
  exhaustions := c.bus.published.toList.filterMap Event.exhaustion?

/-- The core of the second cluster comes from that of the first by moves, if that one is sound. -/
def Leads (joins : Replica → Prop) (arrives : Message → Prop) (c c' : Cluster) : Prop :=
  c.core.Sound joins → Core.Moves joins arrives c.core c'.core

variable {joins : Replica → Prop} {arrives : Message → Prop} {c c' c'' : Cluster}
  {ref : ReplicaRef}

/-- An operation that changes nothing in the core, -/
theorem Leads.of_eq (h : c'.core = c.core) : Leads joins arrives c c' :=
  fun _ ↦ h ▸ .refl

/-- one that makes a single move, -/
theorem Leads.of_move (h : Core.Move joins arrives c.core c'.core) : Leads joins arrives c c' :=
  fun _ ↦ .single h

theorem Leads.of_move_eq {k : Core} (h : Core.Move joins arrives c.core k) (hcore : c'.core = k) :
    Leads joins arrives c c' :=
  .of_move (hcore ▸ h)

/-- and one that changes a single receiver. -/
theorem Leads.of_change {r : Replica} (h : Core.Change arrives c.core ref r)
    (hcore : c'.core = c.core.put ref r) : Leads joins arrives c c' :=
  .of_move (hcore ▸ .change h)

theorem Leads.refl (c : Cluster) : Leads joins arrives c c := .of_eq rfl

/-- The first operation keeps the core sound, so the second may rely on it. -/
theorem Leads.trans (h : Leads joins arrives c c') (h' : Leads joins arrives c' c'') :
    Leads joins arrives c c'' :=
  fun hsound ↦ (h hsound).trans (h' (hsound.moves (h hsound)))

/-- What is written, counted or published before an operation is no move. -/
theorem Leads.congr_left (h : Leads joins arrives c' c'') (hcore : c'.core = c.core) :
    Leads joins arrives c c'' :=
  (Leads.of_eq hcore).trans h

/-- What is written, counted or published after an operation is no move. -/
theorem Leads.congr_right (h : Leads joins arrives c c') (hcore : c''.core = c'.core) :
    Leads joins arrives c c'' :=
  h.trans (.of_eq hcore)

/-! ### Events and reports -/

/-- A published event is the last one. -/
theorem published_publish (e : Event) :
    (c.publish e).bus.published.toList = c.bus.published.toList ++ [e] :=
  Array.toList_push

/-- An event is no part of the core, unless it tells of a slot that was given up. -/
theorem core_publish (e : Event) : (c.publish e).core =
    { c.core with exhaustions := c.core.exhaustions ++ e.exhaustion?.toList } := by
  show
    { c.core with
      exhaustions := (c.publish e).bus.published.toList.filterMap Event.exhaustion? } =
    { c.core with exhaustions := c.core.exhaustions ++ e.exhaustion?.toList }
  rw [published_publish, List.filterMap_append]
  cases he : e.exhaustion? <;> simp [core, he]

/-- An event that tells of no slot leaves the core alone. -/
theorem core_publish_of_none {e : Event} (h : e.exhaustion? = none) :
    (c.publish e).core = c.core := by
  rw [core_publish, h]
  simp

/-- Slots that were given up are counted and told of, one by one. -/
theorem core_reportAbandoned (abandoned : List Abandonment) :
    (c.reportAbandoned abandoned).core = c.core.report abandoned := by
  induction abandoned generalizing c with
  | nil => simp [reportAbandoned, Core.report]
  | cons a rest ih =>
    rw [reportAbandoned, List.foldl_cons]
    refine ih.trans ?_
    rw [core_publish]
    -- one count at a time comes to the same as all of them at once
    have hcount : c.healing.counters.exhaustedSlots.increment + UInt64.ofNat rest.length =
        c.healing.counters.exhaustedSlots + UInt64.ofNat (a :: rest).length := by
      rw [Counter.increment, List.length_cons, UInt64.ofNat_add, UInt64.add_assoc,
        UInt64.add_comm 1]
      rfl
    simp [Core.report, core, hcount, countHealing, modifyHealing, write, Event.exhaustion?]

/-! ### Lifecycle -/

/-- A start changes the lifecycle, or is refused. -/
theorem start_leads (ref : ReplicaRef) : Leads joins arrives c (c.start ref).2 := by
  rw [start]
  cases h : (c.replica ref).start with
  | ok r =>
    obtain rfl := Replica.start_eq_ok h
    exact .of_change (.lifecycle _ _) rfl
  | error cause => exact .refl c

/-- A recovery is a start, unless the receiver runs or is retired. -/
theorem recover_leads (ref : ReplicaRef) : Leads joins arrives c (c.recover ref).2 := by
  rw [recover, Replica.recover]
  cases h : (c.replica ref).start with
  | ok r =>
    obtain rfl := Replica.start_eq_ok h
    exact .of_change (.lifecycle _ _) rfl
  | error cause => exact .refl c

/-- A stop changes the lifecycle. -/
theorem stop_leads (ref : ReplicaRef) : Leads joins arrives c (c.stop ref).2 := by
  have hcore : (c.stop ref).2.core = c.core.put ref (c.replica ref).stop.2 := rfl
  rw [Replica.stop_snd] at hcore
  exact .of_change (.lifecycle _ _) hcore

theorem detach_leads (ref : ReplicaRef) : Leads joins arrives c (c.detach ref) :=
  .of_change (.lifecycle _ _) rfl

theorem retire_leads (ref : ReplicaRef) : Leads joins arrives c (c.retire ref) :=
  .of_change (.lifecycle _ _) rfl

/-! ### Replication -/

/-- A restore takes its data from a receiver of the pool. -/
theorem restoreFromBestPeer_leads (ref : ReplicaRef) :
    Leads joins arrives c (c.restoreFromBestPeer ref).2 := by
  rw [restoreFromBestPeer]
  dsimp only
  split
  · exact .of_eq rfl
  · next peer hpeer =>
    have hmem : peer ∈ c.core.pool := Fleet.mem_of_mostComplete? hpeer
    have hrestore : Core.Change arrives c.core ref _ := .restore c.now hmem
    refine .of_change hrestore ?_
    split <;> rfl

/-- Who joins the replication pool is added to it, and then restored when it is running. -/
theorem joinPool_leads (hnew : (c.replica ref).id ∉ c.fleet.ids c.replication.pool) :
    ∃ c₁ : Cluster, c₁.core = { c.core with pool := c.core.pool ++ [ref] } ∧
      Leads joins arrives c₁ (c.joinPool ref).2 := by
  rw [joinPool, Fleet.enlist_of_not_mem hnew]
  dsimp only
  split
  · exact ⟨_, rfl, restoreFromBestPeer_leads ref⟩
  · exact ⟨_, rfl, .refl _⟩

/-- The conflicts that the replication counts are no part of the core. -/
theorem countConcurrent_core (concurrent : Bool) :
    (c.countConcurrent concurrent).core = c.core := by
  rw [countConcurrent]
  split <;> rfl

/-- The target is restored from the source, and a conflict may be counted for it. -/
theorem copyPair_leads (concurrent : Bool) {source : ReplicaRef} (target : ReplicaRef)
    (h : source ∈ c.replication.pool) :
    Leads joins arrives c (c.copyPair concurrent source target).2 := by
  have hrestore : Leads joins arrives c (c.restore target (c.snapshot source)).2 :=
    .of_change (.restore c.now h) rfl
  refine hrestore.trans ?_
  rw [copyPair]
  dsimp only
  split
  · exact .of_eq rfl
  · split
    · exact .of_change .conflict rfl
    · exact .of_eq rfl

/-- Two receivers of the pool are synced by moves. -/
theorem syncPair_leads {a b : ReplicaRef} (ha : a ∈ c.replication.pool)
    (hb : b ∈ c.replication.pool) : Leads joins arrives c (c.syncPair a b).2 := by
  have hcount := countConcurrent_core (c := c)
    ((c.replica a).vector.concurrentWith (c.replica b).vector)
  have hpool : (c.countConcurrent
      ((c.replica a).vector.concurrentWith (c.replica b).vector)).replication.pool =
      c.replication.pool := congrArg Core.pool hcount
  refine Leads.congr_left ?_ hcount
  rw [syncPair]
  split
  · exact .of_eq rfl
  · split
    · exact copyPair_leads _ b (hpool ▸ ha)
    · exact copyPair_leads _ a (hpool ▸ hb)

/-- One pair is synced after the other, and none of them changes the pool. -/
theorem syncPairs_leads (report : SyncReport) (pairs : List (ReplicaRef × ReplicaRef))
    (h : ∀ p ∈ pairs, p.1 ∈ c.replication.pool ∧ p.2 ∈ c.replication.pool) :
    Leads joins arrives c (c.syncPairs report pairs).2 := by
  induction pairs generalizing c report with
  | nil => exact .refl c
  | cons p rest ih =>
    obtain ⟨ha, hb⟩ := h p List.mem_cons_self
    refine (syncPair_leads ha hb).trans (ih _ fun q hq ↦ ?_)
    rw [syncPair_pool]
    exact h q (List.mem_cons_of_mem _ hq)

/-- The pairs of a cycle are of receivers in the pool. -/
theorem syncCycle_leads : Leads joins arrives c c.syncCycle.2 := by
  refine (syncPairs_leads default (pairs (c.fleet.running c.replication.pool)) ?_).trans
    (.of_eq rfl)
  intro p hp
  obtain ⟨ha, hb⟩ := mem_of_mem_pairs hp
  exact ⟨(Fleet.mem_running.1 ha).1, (Fleet.mem_running.1 hb).1⟩

/-- A backup is kept elsewhere. -/
theorem backup_core (ref : ReplicaRef) : (c.backup ref).2.core = c.core := by
  rw [backup]
  dsimp only
  split <;> rfl

theorem backups_core (taken : Nat) (refs : List ReplicaRef) :
    (c.backups taken refs).2.core = c.core := by
  induction refs generalizing c taken with
  | nil => rfl
  | cons ref rest ih =>
    rw [backups]
    split
    · exact (ih _).trans (backup_core ref)
    · exact ih _

/-- A receiver that is down is started, and restored if that worked. -/
theorem scanReplica_leads (report : RecoveryReport) (ref : ReplicaRef) :
    Leads joins arrives c (c.scanReplica report ref).2 := by
  rw [scanReplica]
  dsimp only
  split
  · exact .refl c
  · have hrecover : Leads joins arrives c (c.recover ref).2 := recover_leads ref
    rcases h : c.recover ref with ⟨_ | _, c₁⟩ <;> rw [h] at hrecover
    · exact hrecover.trans (.of_eq rfl)
    · refine hrecover.trans ?_
      dsimp only
      exact (restoreFromBestPeer_leads ref).congr_left rfl

/-- Receivers are scanned one after the other. -/
theorem scanReplicas_leads (report : RecoveryReport) (refs : List ReplicaRef) :
    Leads joins arrives c (c.scanReplicas report refs).2 := by
  induction refs generalizing c report with
  | nil => exact .refl c
  | cons ref rest ih => exact (scanReplica_leads report ref).trans (ih _)

theorem recoveryScan_leads : Leads joins arrives c c.recoveryScan.2 :=
  scanReplicas_leads _ _

/-! ### Membership -/

/-- **A registration is a single move**: the receiver joins both rosters. What precedes it is a
restore. -/
theorem register_leads (hholds : c.fleet.Holds ref) (hjoins : joins (c.replica ref)) :
    Leads joins arrives c (c.register ref).2 := by
  intro hsound
  obtain ⟨-, lines, heq⟩ | ⟨hnew, lines, heq⟩ := c.register_cases ref <;> rw [heq]
  · exact .refl
  · have hpool : (c.replica ref).id ∉ c.fleet.ids c.replication.pool := by
      rw [show c.replication.pool = c.coordinator.registry from hsound.pool_eq]
      exact hnew
    have hlisted : ∃ c₁ : Cluster, c₁.core = c.core.join ref ∧ Leads joins arrives c₁ _ :=
      joinPool_leads (c := c.modifyCoordinator fun k ↦
        { k with registry := c.coordinator.registry ++ [ref] }) hpool
    obtain ⟨c₁, hcore, hleads⟩ := hlisted
    -- with its name on both rosters the receiver has joined
    have hjoin : Leads joins arrives c c₁ := .of_move (hcore ▸ .join hholds hnew hjoins)
    refine (hjoin.trans (hleads.congr_right ?_)) hsound
    exact core_publish_of_none rfl

/-- An unregistration is a single move: the receiver leaves both rosters. -/
theorem unregister_leads (id : String) : Leads joins arrives c (c.unregister id).2 := by
  intro hsound
  obtain heq | ⟨ref, lines, hfind, heq⟩ := c.unregister_cases id
  · rw [heq]
  · rw [heq]
    -- the registry gives up the receiver it found, the pool everybody of the id
    have hleave : c.coordinator.registry.erase ref = c.fleet.dismiss c.coordinator.registry id :=
      Fleet.erase_eq_dismiss hsound.ids hfind
    have hcore : c.core.leave id = { c.core with
        registry := c.coordinator.registry.erase ref
        pool := c.fleet.dismiss c.replication.pool id } := by
      rw [hleave]
      rfl
    refine Leads.of_move_eq (.leave c.core id) ?_ hsound
    exact (core_publish_of_none rfl).trans hcore.symm

/-! ### Routing -/

/-- A message goes to a registered receiver. -/
theorem mem_of_select {p : Placement} {roster : Roster}
    (h : (p.select c.fleet roster).1 = some ref) : ref ∈ roster := by
  rw [Placement.select] at h
  split at h
  · exact (Fleet.mem_of_find? h).1
  · dsimp only at h
    rw [Rotation.choose] at h
    split at h
    · cases h
    · exact (Fleet.mem_running.1 (List.mem_of_getElem? h)).1

/-- Sensors are no part of the core. -/
theorem trackSender_core (m : Message) (host : String) (port : UInt16) :
    (c.trackSender m host port).core = c.core := by
  rcases c.trackSender_cases m host port with ⟨-, heq⟩ | ⟨info, lines, -, heq⟩ <;> rw [heq]
  · rfl
  · exact core_publish_of_none rfl

/-- Nothing is entered in the ledger when a sender is tracked, and nobody is chosen. -/
theorem trackSender_routing (m : Message) (host : String) (port : UInt16) :
    (c.trackSender m host port).coordinator.routing = c.coordinator.routing := by
  rcases c.trackSender_cases m host port with ⟨-, heq⟩ | ⟨info, lines, -, heq⟩ <;> rw [heq] <;> rfl

/-- An accepted message replaces one receiver. -/
theorem process_of_ok {m : Message} {outcome : Replica.ProcessOutcome} {r : Replica}
    (h : (c.replica ref).process m = .ok (outcome, r)) :
    ∃ c', c.process ref m = (.ok outcome, c') ∧ c'.core = c.core.put ref r ∧
      c'.coordinator = c.coordinator :=
  ⟨_, process_eq_of_ok h, rfl, rfl⟩

/-- **A route in one line**: a registered receiver processes the message, its id is the answer and
its vector is merged into the ledger; or the message is refused, no receiver changes and the failure
is counted. -/
theorem tryRoute_spec (m : Message) (host : String) (port : UInt16) :
    (∃ ref ∈ c.coordinator.registry, ∃ outcome r,
      (c.replica ref).process m = .ok (outcome, r) ∧
      (c.tryRoute m host port).1 = .ok (c.replica ref).id ∧
      (c.tryRoute m host port).2.core = c.core.put ref r ∧
      (c.tryRoute m host port).2.coordinator.ledger =
        c.coordinator.ledger.counted.accepted outcome.vector) ∨
    ∃ cause, (c.tryRoute m host port).1 = .error cause ∧
      (c.tryRoute m host port).2.core = c.core ∧
      (c.tryRoute m host port).2.coordinator.ledger = c.coordinator.ledger.counted.failed := by
  -- what is counted and tracked before the choice is no part of the core
  have hcore : (c.handedOver m host port).core = c.core := trackSender_core m host port
  have hledger : (c.handedOver m host port).coordinator.ledger = c.coordinator.ledger.counted :=
    congrArg Routing.ledger (trackSender_routing m host port)
  obtain ⟨_, rfl, ⟨-, heq⟩ | ⟨ref, hselect, ⟨cause, lines, -, heq⟩ |
    ⟨outcome, r, lines, hprocess, heq⟩⟩⟩ := c.tryRoute_cases m host port <;> rw [heq]
  · exact .inr ⟨_, rfl, (core_publish_of_none rfl).trans hcore, congrArg Ledger.failed hledger⟩
  · -- a pinned receiver is chosen even when it is down
    refine .inr ⟨cause, rfl, ?_, congrArg Ledger.failed hledger⟩
    exact (core_publish_of_none rfl).trans ((core_publish_of_none rfl).trans hcore)
  · have hregistry : (c.handedOver m host port).coordinator.registry = c.coordinator.registry :=
      congrArg Core.registry hcore
    have hreplica : (c.handedOver m host port).replica ref = c.replica ref :=
      congrArg (fun k : Core ↦ k.get ref) hcore
    refine .inl ⟨ref, hregistry ▸ mem_of_select hselect, outcome, r, ?_, ?_, ?_, ?_⟩
    · rw [← hreplica]
      exact hprocess
    · rw [← hreplica]
      rfl
    · rw [← hcore]
      exact core_publish_of_none rfl
    · exact congrArg (·.accepted outcome.vector) hledger

/-- A route is a message for a registered receiver, or changes nothing in the core. -/
theorem tryRoute_leads (m : Message) (host : String) (port : UInt16) (hm : arrives m) :
    Leads joins arrives c (c.tryRoute m host port).2 := by
  rcases tryRoute_spec (c := c) m host port with ⟨ref, href, outcome, r, h, -, hcore, -⟩ |
    ⟨-, -, hcore, -⟩
  · exact .of_change (.process hm href h) hcore
  · exact .of_eq hcore

/-! ### Sensors -/

/-- Records are deleted receiver by receiver. -/
theorem removeRecords_core (sensor : String) (removed : Nat) (refs : List ReplicaRef) :
    (c.removeRecords sensor removed refs).2.core = c.core.forgetAll sensor refs := by
  induction refs generalizing c removed with
  | nil => rfl
  | cons ref rest ih => exact ih _

/-- To forget a sensor is to delete its record from every registered receiver. -/
theorem unregisterSensor_core (sensor : String) :
    (c.unregisterSensor sensor).2.core = c.core.forgetAll sensor c.core.registry := by
  have hwithdrawn : (c.withdraw sensor).2.core = c.core.forgetAll sensor c.core.registry :=
    removeRecords_core sensor 0 _
  rcases c.unregisterSensor_cases sensor with ⟨-, -, heq⟩ | ⟨-, lines, heq⟩ <;> rw [heq]
  · exact hwithdrawn
  · exact (core_publish_of_none rfl).trans hwithdrawn

/-- To forget a sensor is to delete its records. -/
theorem unregisterSensor_leads (sensor : String) :
    Leads joins arrives c (c.unregisterSensor sensor).2 := by
  intro _
  rw [unregisterSensor_core]
  exact Core.forgetAll_moves sensor _

end Cluster

end SensorCluster
