import SensorCluster.Proofs.FleetSteps

/-!
# Operations on receivers alone

A receiver is started or synced, a pool is scanned, a record is deleted: the coordinator, the fault
tolerance, the event bus and the agenda know nothing of it. Such an operation stands `Aside`. It
changes receivers, and what the replication keeps and counts, and **nobody gets another id and
nobody is lost**.

Whatever is said about the other parts of a cluster holds across these operations, all of them, for
one and the same reason; so there is one lemma for each, and the theories of the other parts cite
it.
-/

namespace SensorCluster

namespace Cluster

variable {c c' c'' : Cluster} {ref : ReplicaRef}

/-- The parts of a cluster that are neither receivers nor replication nor log. -/
structure Surroundings where
  coordinator : Coordinator
  healing : Healing
  bus : EventBus
  agenda : Agenda Duty

/-- The surroundings of the receivers of a cluster. -/
def surroundings (c : Cluster) : Surroundings := ⟨c.coordinator, c.healing, c.bus, c.agenda⟩

/-- The second cluster comes from the first by an operation on receivers. -/
def Aside (c c' : Cluster) : Prop :=
  c'.surroundings = c.surroundings ∧ c.fleet.Grows c'.fleet

namespace Aside

theorem coordinator (h : c.Aside c') : c'.coordinator = c.coordinator :=
  congrArg Surroundings.coordinator h.1

theorem healing (h : c.Aside c') : c'.healing = c.healing := congrArg Surroundings.healing h.1

theorem bus (h : c.Aside c') : c'.bus = c.bus := congrArg Surroundings.bus h.1

theorem agenda (h : c.Aside c') : c'.agenda = c.agenda := congrArg Surroundings.agenda h.1

theorem grows (h : c.Aside c') : c.fleet.Grows c'.fleet := h.2

theorem refl (c : Cluster) : c.Aside c := ⟨rfl, .refl _⟩

/-- Operations on receivers, one after the other, are one on receivers. -/
theorem trans (h : c.Aside c') (h' : c'.Aside c'') : c.Aside c'' :=
  ⟨h'.1.trans h.1, h.2.trans h'.2⟩

/-- A receiver is put in the place of one of the same id. -/
theorem put {ref : ReplicaRef} {r : Replica} (hid : r.id = (c.replica ref).id)
    (hfleet : c'.fleet = c.fleet.set ref r) (hsame : c'.surroundings = c.surroundings) :
    c.Aside c' :=
  ⟨hsame, hfleet ▸ Fleet.grows_set hid⟩

end Aside

/-! ### One receiver -/

/-- A new receiver is added, and nobody is told of it. -/
theorem create_aside (r : Replica) : c.Aside (c.create r).2 := ⟨rfl, Fleet.grows_add r⟩

/-- A receiver that is started, or refuses to be, keeps its id. -/
theorem start_aside (ref : ReplicaRef) : c.Aside (c.start ref).2 := by
  refine ⟨?_, (start_steps ref).grows⟩
  rw [start]
  split <;> rfl

/-- To recover a receiver is to start it, unless it runs or is retired. -/
theorem recover_aside (ref : ReplicaRef) : c.Aside (c.recover ref).2 := by
  refine ⟨?_, (recover_steps ref).grows⟩
  rw [recover]
  split <;> rfl

theorem stop_aside (ref : ReplicaRef) : c.Aside (c.stop ref).2 := ⟨rfl, (stop_steps ref).grows⟩

theorem detach_aside (ref : ReplicaRef) : c.Aside (c.detach ref) :=
  .put (r := (c.replica ref).detach) rfl rfl rfl

theorem retire_aside (ref : ReplicaRef) : c.Aside (c.retire ref) :=
  .put (r := (c.replica ref).retire) rfl rfl rfl

/-- A receiver has processed a message. -/
theorem processed_aside {m : Message} {outcome : Replica.ProcessOutcome} {r : Replica}
    (h : (c.replica ref).process m = .ok (outcome, r)) (lines : List LogLine) :
    c.Aside ((c.setReplica ref r).write lines) :=
  .put (Replica.process_eq_ok h).2.1 rfl rfl

/-- A message that is handed to a receiver concerns nobody else. -/
theorem process_aside (ref : ReplicaRef) (m : Message) : c.Aside (c.process ref m).2 := by
  rcases h : (c.replica ref).process m with cause | ⟨outcome, r⟩
  · rw [process_of_error h]
    exact .refl c
  · rw [process_eq_of_ok h]
    exact processed_aside h _

theorem removeRecord_aside (ref : ReplicaRef) (sensor : String) :
    c.Aside (c.removeRecord ref sensor).2 :=
  .put (r := ((c.replica ref).removeRecord sensor).2) rfl rfl rfl

/-- Records are deleted receiver by receiver. -/
theorem removeRecords_aside (sensor : String) (removed : Nat) (refs : List ReplicaRef) :
    c.Aside (c.removeRecords sensor removed refs).2 := by
  induction refs generalizing c removed with
  | nil => exact .refl c
  | cons ref rest ih => exact (removeRecord_aside ref sensor).trans (ih _)

/-- To forget a sensor is to take it off the coordinator's list, and then to delete records. -/
theorem withdraw_aside (sensor : String) :
    (c.modifyCoordinator fun k ↦ { k with sensors := k.sensors.remove sensor }).Aside
      (c.withdraw sensor).2 :=
  removeRecords_aside ..

theorem restore_aside (ref : ReplicaRef) (s : Snapshot) : c.Aside (c.restore ref s).2 :=
  .put (Replica.restore_id _ s) rfl rfl

/-! ### Replication -/

/-- A receiver that is restored takes over data, and no id. -/
theorem restoreFromBestPeer_aside (ref : ReplicaRef) : c.Aside (c.restoreFromBestPeer ref).2 := by
  refine ⟨?_, (restoreFromBestPeer_steps ref).grows⟩
  rw [restoreFromBestPeer]
  dsimp only
  split
  · rfl
  · split <;> rfl

/-- Who joins the pool may be restored on the way. -/
theorem joinPool_aside (ref : ReplicaRef) : c.Aside (c.joinPool ref).2 := by
  refine ⟨?_, (joinPool_steps ref).grows⟩
  rw [joinPool]
  split
  · rfl
  · dsimp only
    split
    · exact (restoreFromBestPeer_aside ref).1
    · rfl

theorem leavePool_aside (id : String) : c.Aside (c.leavePool id).2 := ⟨rfl, .refl _⟩

/-- One of the two is restored, and may have a conflict counted. -/
theorem copyPair_aside (concurrent : Bool) (source target : ReplicaRef) :
    c.Aside (c.copyPair concurrent source target).2 := by
  refine ⟨?_, (copyPair_steps concurrent source target).grows⟩
  rw [copyPair]
  dsimp only
  split
  · rfl
  · split <;> rfl

/-- A pair that is synced is skipped, or one is copied over the other. -/
theorem syncPair_aside (a b : ReplicaRef) : c.Aside (c.syncPair a b).2 := by
  have hcounted : ∀ concurrent, c.Aside (c.countConcurrent concurrent) := by
    intro concurrent
    rw [countConcurrent]
    split <;> exact ⟨rfl, .refl _⟩
  rw [syncPair]
  split
  · exact hcounted _
  · split <;> exact (hcounted _).trans (copyPair_aside ..)

/-- Pairs are synced one after the other. -/
theorem syncPairs_aside (report : SyncReport) (pairs : List (ReplicaRef × ReplicaRef)) :
    c.Aside (c.syncPairs report pairs).2 := by
  induction pairs generalizing c report with
  | nil => exact .refl c
  | cons p rest ih => exact (syncPair_aside p.1 p.2).trans (ih _)

theorem syncCycle_aside : c.Aside c.syncCycle.2 :=
  syncPairs_aside default (pairs (c.fleet.running c.replication.pool))

/-- A backup changes no receiver, only what is kept. -/
theorem backup_aside (ref : ReplicaRef) : c.Aside (c.backup ref).2 := by
  rw [backup]
  dsimp only
  split <;> exact ⟨rfl, .refl _⟩

theorem backups_aside (taken : Nat) (refs : List ReplicaRef) :
    c.Aside (c.backups taken refs).2 := by
  induction refs generalizing c taken with
  | nil => exact .refl c
  | cons ref rest ih =>
    rw [backups]
    split
    · exact (backup_aside ref).trans (ih _)
    · exact ih _

/-- A receiver that is down is started, and restored if that worked. -/
theorem scanReplica_aside (report : RecoveryReport) (ref : ReplicaRef) :
    c.Aside (c.scanReplica report ref).2 := by
  rw [scanReplica]
  dsimp only
  split
  · exact .refl c
  · have hrecover := recover_aside (c := c) ref
    rcases h : c.recover ref with ⟨_ | _, c₁⟩ <;> rw [h] at hrecover
    · exact hrecover
    · exact hrecover.trans (restoreFromBestPeer_aside (c := c₁.countReplication _) ref)

/-- The receivers of the pool are scanned one by one. -/
theorem recoveryScan_aside : c.Aside c.recoveryScan.2 := by
  have hscan : ∀ (refs : Roster) (report : RecoveryReport) (c : Cluster),
      c.Aside (c.scanReplicas report refs).2 := by
    intro refs
    induction refs with
    | nil => exact fun _ c ↦ .refl c
    | cons ref rest ih => exact fun report c ↦ (scanReplica_aside report ref).trans (ih _ _)
  exact hscan _ _ c

/-! ### All registered receivers -/

/-- The registered receivers are stopped one by one. -/
theorem stopReceivers_aside : c.Aside c.stopReceivers :=
  List.foldlRecOn (motive := c.Aside) _ _ (.refl c) fun _ h ref _ ↦ h.trans (stop_aside ref)

end Cluster

end SensorCluster
