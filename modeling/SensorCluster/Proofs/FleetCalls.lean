import SensorCluster.Proofs.Aside
import SensorCluster.Proofs.ReplicaLife

/-!
# Calls to the receivers of a fleet

Whatever a cluster does to the receivers that it has, it does by calling them: it starts and stops
them, hands them messages, restores them from each other. The one thing beside the calls is a
conflict that a sync counts. So **what is known of a receiver across any calls holds across any
operation**, and there is one lemma for each operation, as for the steps of a fleet. Those say where
the data come from; these say how the states go.

`Called.retired` is what the theories of whole clusters need of it: nobody comes back from
retirement, however the operations follow each other.
-/

namespace SensorCluster

namespace Fleet

variable {f f' : Fleet} {ref : ReplicaRef}

/-- One receiver of a fleet is called, or a conflict is counted for it. -/
inductive Contact (f : Fleet) : Fleet → Prop
  | call (ref : ReplicaRef) (call : Replica.Call) : Contact f (f.set ref ((f.get ref).after call))
  | conflict (ref : ReplicaRef) : Contact f (f.set ref (f.get ref).recordConflict)

/-- Receivers of a fleet are called, one after the other. -/
abbrev Called : Fleet → Fleet → Prop := Relation.ReflTransGen Contact

/-- One call, to the receiver of a number. -/
theorem Called.of_call (call : Replica.Call) {r : Replica} (h : (f.get ref).after call = r) :
    f.Called (f.set ref r) :=
  h ▸ .single (.call ref call)

theorem Called.of_eq (h : f' = f) : f.Called f' := h ▸ .refl

/-- Nobody is added. -/
theorem Called.holds_iff (h : f.Called f') : f'.Holds ref ↔ f.Holds ref := by
  induction h with
  | refl => exact Iff.rfl
  | tail _ hcontact ih =>
    cases hcontact with
    | call | conflict => exact (holds_set ..).trans ih

/-- A relation between earlier and later forms of a receiver that holds across each call holds
across any calls. -/
theorem Called.relates {R : Replica → Replica → Prop} (hrefl : ∀ r, R r r)
    (htrans : ∀ {r s t}, R r s → R s t → R r t) (hcall : ∀ r call, R r (r.after call))
    (hconflict : ∀ r, R r r.recordConflict) (h : f.Called f') (ref : ReplicaRef) :
    R (f.get ref) (f'.get ref) := by
  induction h with
  | refl => exact hrefl _
  | @tail g _ _ hcontact ih =>
    have hput : ∀ changed r, R (g.get changed) r → R (f.get ref) ((g.set changed r).get ref) := by
      intro changed r hr
      rcases Fleet.get_set_cases g changed ref r with hsame | ⟨rfl, hnew⟩
      · rwa [hsame]
      · rw [hnew]
        exact htrans ih hr
    cases hcontact with
    | call changed call => exact hput _ _ (hcall _ call)
    | conflict changed => exact hput _ _ (hconflict _)

/-- Nobody is renamed. -/
theorem Called.id_eq (h : f.Called f') (ref : ReplicaRef) : (f'.get ref).id = (f.get ref).id :=
  h.relates (R := fun r r' ↦ r'.id = r.id) (fun _ ↦ rfl) (fun h h' ↦ h'.trans h)
    (fun r call ↦ r.afterAll_id [call]) (fun _ ↦ rfl) ref

/-- Rosters show the same ids after any calls. -/
theorem Called.ids_eq (h : f.Called f') (roster : Roster) : f'.ids roster = f.ids roster :=
  List.map_congr_left fun ref _ ↦ h.id_eq ref

/-- **Nobody comes back from retirement.** -/
theorem Called.retired (h : f.Called f') (hretired : (f.get ref).state = .retired) :
    (f'.get ref).state = .retired :=
  h.relates (R := fun r r' ↦ r.state = .retired → r'.state = .retired) (fun _ h ↦ h)
    (fun h h' hr ↦ h' (h hr)) (fun r call hr ↦ (r.after_retired_iff call).2 (.inr hr))
    (fun _ hr ↦ hr) ref hretired

end Fleet

namespace Cluster

variable {c : Cluster}

/-! ### One receiver -/

/-- A start that is refused is no call that changes anything. -/
theorem start_called (ref : ReplicaRef) : c.fleet.Called (c.start ref).2.fleet := by
  rw [start]
  split
  · next r h =>
    exact .of_call .start (by rw [Replica.after, show (c.fleet.get ref).start = _ from h])
  · exact .refl

/-- A recovery is a start, unless the receiver runs or is retired. -/
theorem recover_called (ref : ReplicaRef) : c.fleet.Called (c.recover ref).2.fleet := by
  rw [recover]
  split
  · next r h =>
    exact .of_call .recover (by rw [Replica.after, show (c.fleet.get ref).recover = _ from h])
  · exact .refl

theorem stop_called (ref : ReplicaRef) : c.fleet.Called (c.stop ref).2.fleet := .of_call .stop rfl

theorem detach_called (ref : ReplicaRef) : c.fleet.Called (c.detach ref).fleet :=
  .of_call .detach rfl

theorem retire_called (ref : ReplicaRef) : c.fleet.Called (c.retire ref).fleet :=
  .of_call .retire rfl

/-- A message is handed to the receiver by a call; a refused one leaves it as it is. -/
theorem process_called (ref : ReplicaRef) (m : Message) :
    c.fleet.Called (c.process ref m).2.fleet := by
  rw [process]
  split
  · next outcome r h =>
    exact .of_call (.process m) (by rw [Replica.after, show (c.fleet.get ref).process m = _ from h])
  · exact .refl

theorem removeRecord_called (ref : ReplicaRef) (sensor : String) :
    c.fleet.Called (c.removeRecord ref sensor).2.fleet :=
  .of_call (.removeRecord sensor) rfl

/-- Each receiver is called to delete its record. -/
theorem removeRecords_called (sensor : String) (removed : Nat) (refs : List ReplicaRef) :
    c.fleet.Called (c.removeRecords sensor removed refs).2.fleet := by
  induction refs generalizing c removed with
  | nil => exact .refl
  | cons ref rest ih => exact (removeRecord_called ref sensor).trans (ih _)

theorem restore_called (ref : ReplicaRef) (s : Snapshot) :
    c.fleet.Called (c.restore ref s).2.fleet :=
  .of_call (.restore s) rfl

/-! ### Replication -/

/-- A restore calls the receiver that is restored, not its peer. -/
theorem restoreFromBestPeer_called (ref : ReplicaRef) :
    c.fleet.Called (c.restoreFromBestPeer ref).2.fleet := by
  rw [restoreFromBestPeer]
  dsimp only
  split
  · exact .refl
  · next peer _ =>
    have hrestore : c.fleet.Called (c.restore ref (c.snapshot peer)).2.fleet := restore_called ..
    split <;> exact hrestore

/-- Who joins the pool is restored, or not called at all. -/
theorem joinPool_called (ref : ReplicaRef) : c.fleet.Called (c.joinPool ref).2.fleet := by
  rw [joinPool]
  split
  · exact .refl
  · next pool _ =>
    set listed : Cluster := { c with replication := { c.replication with pool } }
    dsimp only
    split
    · exact restoreFromBestPeer_called (c := listed.countReplication _) ref
    · exact .refl

/-- The target is restored, and its loss is counted if the two were concurrent. -/
theorem copyPair_called (concurrent : Bool) (source target : ReplicaRef) :
    c.fleet.Called (c.copyPair concurrent source target).2.fleet := by
  have hrestore : c.fleet.Called (c.restore target (c.snapshot source)).2.fleet := restore_called ..
  rw [copyPair]
  dsimp only
  split
  · exact hrestore
  · split
    · exact hrestore.tail (.conflict target)
    · exact hrestore

/-- At most one of a pair is called. -/
theorem syncPair_called (a b : ReplicaRef) : c.fleet.Called (c.syncPair a b).2.fleet := by
  refine (Fleet.Called.of_eq (countConcurrent_fleet
    ((c.replica a).vector.concurrentWith (c.replica b).vector))).trans ?_
  rw [syncPair]
  split
  · exact .refl
  · split <;> exact copyPair_called ..

/-- Pairs are synced one after the other. -/
theorem syncPairs_called (report : SyncReport) (pairs : List (ReplicaRef × ReplicaRef)) :
    c.fleet.Called (c.syncPairs report pairs).2.fleet := by
  induction pairs generalizing c report with
  | nil => exact .refl
  | cons p rest ih => exact (syncPair_called p.1 p.2).trans (ih _)

theorem syncCycle_called : c.fleet.Called c.syncCycle.2.fleet :=
  syncPairs_called default (pairs (c.fleet.running c.replication.pool))

/-- Backups call nobody. -/
theorem backups_called (taken : Nat) (refs : List ReplicaRef) :
    c.fleet.Called (c.backups taken refs).2.fleet :=
  .of_eq (congrArg Core.fleet (backups_core taken refs))

/-- A receiver that is down is called to start, and then restored. -/
theorem scanReplica_called (report : RecoveryReport) (ref : ReplicaRef) :
    c.fleet.Called (c.scanReplica report ref).2.fleet := by
  rw [scanReplica]
  dsimp only
  split
  · exact .refl
  · have hrecover : c.fleet.Called (c.recover ref).2.fleet := recover_called ref
    rcases h : c.recover ref with ⟨_ | _, c₁⟩ <;> rw [h] at hrecover
    · exact hrecover
    · exact hrecover.trans (restoreFromBestPeer_called (c := c₁.countReplication _) ref)

/-- Receivers are scanned one after the other. -/
theorem scanReplicas_called (report : RecoveryReport) (refs : List ReplicaRef) :
    c.fleet.Called (c.scanReplicas report refs).2.fleet := by
  induction refs generalizing c report with
  | nil => exact .refl
  | cons ref rest ih => exact (scanReplica_called report ref).trans (ih _)

/-! ### Registered receivers -/

/-- Each registered receiver is called to stop. -/
theorem stopReceivers_called : c.fleet.Called c.stopReceivers.fleet :=
  List.foldlRecOn (motive := fun c' : Cluster ↦ c.fleet.Called c'.fleet) _ _ .refl
    fun _ h ref _ ↦ h.trans (stop_called ref)

/-- A route calls the receiver that was chosen, if there is one. -/
theorem tryRoute_called (m : Message) (host : String) (port : UInt16) :
    c.fleet.Called (c.tryRoute m host port).2.fleet := by
  rcases tryRoute_spec (c := c) m host port with ⟨ref, -, outcome, r, h, -, hcore, -⟩ |
    ⟨-, -, hcore, -⟩
  · have hfleet : (c.tryRoute m host port).2.fleet = c.fleet.set ref r := congrArg Core.fleet hcore
    rw [hfleet]
    exact .of_call (.process m) (by rw [Replica.after, show (c.fleet.get ref).process m = _ from h])
  · exact .of_eq (congrArg Core.fleet hcore)

/-- To forget a sensor calls every registered receiver. -/
theorem unregisterSensor_called (sensor : String) :
    c.fleet.Called (c.unregisterSensor sensor).2.fleet := by
  have hremoved : c.fleet.Called (c.withdraw sensor).2.fleet :=
    removeRecords_called (c := c.modifyCoordinator _) sensor 0 _
  rcases c.unregisterSensor_cases sensor with ⟨-, -, heq⟩ | ⟨-, lines, heq⟩ <;> rw [heq] <;>
    exact hremoved

end Cluster

end SensorCluster
