import SensorCluster.Proofs.FleetSteps

/-!
# Receivers on the bench

A coordinator registers receivers and hands messages to those that are running. The receivers and
the replication can be used without one: a receiver is created and driven directly, it is synced
with any other, a snapshot of it is kept and put back at any later time, and it may join the
replication pool or not. A `Bench` is a cluster used in this way, together with the snapshots that
were taken.

**What a call does is said once**, in `step_effect`: a message is accepted, a receiver is created, a
record is deleted, a snapshot is taken or put back, or the fleet takes steps in which receivers only
change their lifecycle, count conflicts and restore each other. From it follow what everybody keeps
(`Each.step`), the snapshots included, and that nobody is renamed (`step_grows`).
-/

namespace SensorCluster

/-! ### Calls -/

/-- Receivers that are used directly, and the snapshots that were taken of them. -/
structure Bench where
  cluster : Cluster
  /-- The snapshots, oldest first. -/
  shelf : List Snapshot

namespace Bench

/-- A call to a receiver or to the replication. -/
inductive Call
  | create (id address : String)
  | start (ref : ReplicaRef)
  | stop (ref : ReplicaRef)
  | detach (ref : ReplicaRef)
  | recover (ref : ReplicaRef)
  | retire (ref : ReplicaRef)
  | process (ref : ReplicaRef) (m : Message)
  | removeRecord (ref : ReplicaRef) (sensor : String)
  /-- A snapshot is taken and put on the shelf. -/
  | backup (ref : ReplicaRef)
  /-- A receiver is restored from the snapshot in a place of the shelf. -/
  | restore (ref : ReplicaRef) (place : Nat)
  | syncPair (a b : ReplicaRef)
  | restoreFromBestPeer (ref : ReplicaRef)
  | joinPool (ref : ReplicaRef)
  | leavePool (id : String)
  | syncCycle
  | backupCycle
  | recoveryScan
  /-- The wall clock comes to show this. -/
  | clock (now : WallTime)

/-- A message that a receiver accepted, with its answer. -/
structure Acceptance where
  ref : ReplicaRef
  message : Message
  outcome : Replica.ProcessOutcome

/-- The bench without receivers. -/
def new (config : Config) (sink : SnapshotSink) (provisioner : Provisioner)
    (now : WallTime) : Bench :=
  ⟨.new config sink provisioner now, []⟩

/-- What a call does. -/
def step (b : Bench) : Call → Bench
  | .create id address => { b with cluster := (b.cluster.create (.new id address)).2 }
  | .start ref => { b with cluster := (b.cluster.start ref).2 }
  | .stop ref => { b with cluster := (b.cluster.stop ref).2 }
  | .detach ref => { b with cluster := b.cluster.detach ref }
  | .recover ref => { b with cluster := (b.cluster.recover ref).2 }
  | .retire ref => { b with cluster := b.cluster.retire ref }
  | .process ref m => { b with cluster := (b.cluster.process ref m).2 }
  | .removeRecord ref sensor => { b with cluster := (b.cluster.removeRecord ref sensor).2 }
  | .backup ref => { b with shelf := b.shelf ++ [b.cluster.snapshot ref] }
  | .restore ref place =>
    match b.shelf[place]? with
    | some s => { b with cluster := (b.cluster.restore ref s).2 }
    | none => b
  | .syncPair a a' => { b with cluster := (b.cluster.syncPair a a').2 }
  | .restoreFromBestPeer ref => { b with cluster := (b.cluster.restoreFromBestPeer ref).2 }
  | .joinPool ref => { b with cluster := (b.cluster.joinPool ref).2 }
  | .leavePool id => { b with cluster := (b.cluster.leavePool id).2 }
  | .syncCycle => { b with cluster := b.cluster.syncCycle.2 }
  | .backupCycle => { b with cluster := b.cluster.backupCycle.2 }
  | .recoveryScan => { b with cluster := b.cluster.recoveryScan.2 }
  | .clock now => { b with cluster := { b.cluster with now } }

/-- What several calls do, one after the other. -/
def run (b : Bench) (calls : List Call) : Bench := calls.foldl step b

/-- The message that a call hands over, if the receiver accepts it. -/
def accepts? (b : Bench) : Call → Option Acceptance
  | .process ref m =>
    match (b.cluster.replica ref).process m with
    | .ok (outcome, _) => some ⟨ref, m, outcome⟩
    | .error _ => none
  | _ => none

/-- The messages that receivers accept in the course of the calls. -/
def accepted (b : Bench) : List Call → List Acceptance
  | [] => []
  | call :: rest => (b.accepts? call).toList ++ (b.step call).accepted rest

/-- All that a call can do to the receivers and the shelf, and which message is accepted by it. -/
inductive Effect (b b' : Bench) : Option Acceptance → Prop
  | quiet (hfleet : b.cluster.fleet.Steps b'.cluster.fleet) (hshelf : b'.shelf = b.shelf) :
      Effect b b' none
  | create (id address : String)
      (hfleet : b'.cluster.fleet = (b.cluster.fleet.add (.new id address)).2)
      (hshelf : b'.shelf = b.shelf) : Effect b b' none
  | process {ref : ReplicaRef} {m : Message} {outcome : Replica.ProcessOutcome} {r : Replica}
      (h : (b.cluster.replica ref).process m = .ok (outcome, r))
      (hfleet : b'.cluster.fleet = b.cluster.fleet.set ref r) (hshelf : b'.shelf = b.shelf) :
      Effect b b' (some ⟨ref, m, outcome⟩)
  | forget (ref : ReplicaRef) (sensor : String)
      (hfleet : b'.cluster.fleet =
        b.cluster.fleet.set ref ((b.cluster.replica ref).removeRecord sensor).2)
      (hshelf : b'.shelf = b.shelf) : Effect b b' none
  | backup (ref : ReplicaRef) (hfleet : b'.cluster.fleet = b.cluster.fleet)
      (hshelf : b'.shelf = b.shelf ++ [b.cluster.snapshot ref]) : Effect b b' none
  | restore (ref : ReplicaRef) {s : Snapshot} (h : s ∈ b.shelf)
      (hfleet : b'.cluster.fleet = b.cluster.fleet.set ref ((b.cluster.replica ref).restore s).2)
      (hshelf : b'.shelf = b.shelf) : Effect b b' none

variable {b : Bench} {call : Call}

/-- **What a call does**, and which message is accepted by it. -/
theorem step_effect (b : Bench) (call : Call) : b.Effect (b.step call) (b.accepts? call) := by
  -- operations on receivers are steps of the fleet; the others are an effect of their own
  cases call with
  | create id address => exact .create id address rfl rfl
  | start ref => exact .quiet (Cluster.start_steps ref) rfl
  | stop ref => exact .quiet (Cluster.stop_steps ref) rfl
  | detach ref => exact .quiet (.of_becomes (.lifecycle _ _)) rfl
  | recover ref => exact .quiet (Cluster.recover_steps ref) rfl
  | retire ref => exact .quiet (.of_becomes (.lifecycle _ _)) rfl
  | process ref m =>
    rw [step, accepts?, Cluster.process]
    rcases h : (b.cluster.replica ref).process m with cause | ⟨outcome, r⟩
    · exact .quiet .refl rfl
    · exact .process h rfl rfl
  | removeRecord ref sensor => exact .forget ref sensor rfl rfl
  | backup ref => exact .backup ref rfl rfl
  | restore ref place =>
    rw [step]
    split
    · next s hs => exact .restore ref (List.mem_of_getElem? hs) rfl rfl
    · exact .quiet .refl rfl
  | syncPair a a' => exact .quiet (Cluster.syncPair_steps a a') rfl
  | restoreFromBestPeer ref => exact .quiet (Cluster.restoreFromBestPeer_steps ref) rfl
  | joinPool ref => exact .quiet (Cluster.joinPool_steps ref) rfl
  | leavePool id => exact .quiet .refl rfl
  | syncCycle => exact .quiet Cluster.syncCycle_steps rfl
  | backupCycle => exact .quiet (.of_eq (congrArg Core.fleet (Cluster.backups_core ..))) rfl
  | recoveryScan => exact .quiet (Cluster.scanReplicas_steps ..) rfl
  | clock now => exact .quiet .refl rfl

/-! ### What everybody has -/

/-- Every receiver has the property, and every snapshot was taken of a receiver that had it. -/
structure Each (P : Replica → Prop) (b : Bench) : Prop where
  held : ∀ ref, P (b.cluster.replica ref)
  kept : ∀ s ∈ b.shelf, ∃ source now, P source ∧ s = source.snapshot now

variable {P P' : Replica → Prop}

/-- What follows from the property everybody has too. -/
theorem Each.mono (h : b.Each P) (himp : ∀ r, P r → P' r) : b.Each P' where
  held ref := himp _ (h.held ref)
  kept s hs := by
    obtain ⟨source, now, hsource, hsnapshot⟩ := h.kept s hs
    exact ⟨source, now, himp _ hsource, hsnapshot⟩

/-- Of a new bench only the receiver that stands in for a number of nobody has to have it. -/
theorem Each.new {config : Config} {sink : SnapshotSink} {provisioner : Provisioner}
    {now : WallTime} (hnew : ∀ id address, P (.new id address)) :
    (new config sink provisioner now).Each P where
  held _ := hnew "" ""
  kept _ hs := absurd hs List.not_mem_nil

/-- **One call** leaves a heritable property with everybody, if a receiver has it when it is created
and when it has accepted a message. -/
theorem Each.step (hP : Replica.Heritable P) (hnew : ∀ id address, P (.new id address))
    (h : b.Each P)
    (hprocess : ∀ ref m outcome r, b.accepts? call = some ⟨ref, m, outcome⟩ →
      (b.cluster.replica ref).process m = .ok (outcome, r) → P r) : (b.step call).Each P := by
  have heffect := b.step_effect call
  generalize hb' : b.step call = b' at heffect ⊢
  generalize haccepts : b.accepts? call = acceptance at heffect
  -- one case for each effect: the receivers, and then the shelf
  cases heffect with
  | quiet hfleet hshelf => exact ⟨hfleet.each hP h.held, hshelf ▸ h.kept⟩
  | create id address hfleet hshelf =>
    refine ⟨fun ref ↦ ?_, hshelf ▸ h.kept⟩
    rw [Cluster.replica, hfleet]
    rcases b.cluster.fleet.get_add_cases (.new id address) ref with hsame | hadded
    · rw [hsame]
      exact h.held ref
    · rw [hadded]
      exact hnew id address
  | process hprocessed hfleet hshelf =>
    have hput := Fleet.forall_get_set h.held (hprocess _ _ _ _ haccepts hprocessed)
    exact ⟨fun ref ↦ by rw [Cluster.replica, hfleet]; exact hput _ ref, hshelf ▸ h.kept⟩
  | forget changed sensor hfleet hshelf =>
    have hput := Fleet.forall_get_set h.held (hP.forget sensor (h.held changed)) changed
    exact ⟨fun ref ↦ by rw [Cluster.replica, hfleet]; exact hput ref, hshelf ▸ h.kept⟩
  | backup source hfleet hshelf =>
    refine ⟨fun ref ↦ by rw [Cluster.replica, hfleet]; exact h.held ref, ?_⟩
    rw [hshelf]
    intro s hs
    rcases List.mem_append.1 hs with hs | hs
    · exact h.kept s hs
    · exact ⟨b.cluster.replica source, b.cluster.now, h.held source, List.mem_singleton.1 hs⟩
  | restore changed hs hfleet hshelf =>
    -- the snapshot was taken of a receiver that had the property
    obtain ⟨source, now, hsource, rfl⟩ := h.kept _ hs
    have hput := Fleet.forall_get_set h.held (hP.restore now (h.held changed) hsource) changed
    exact ⟨fun ref ↦ by rw [Cluster.replica, hfleet]; exact hput ref, hshelf ▸ h.kept⟩

/-! ### Growth -/

/-- One call renames nobody, -/
theorem step_grows (b : Bench) (call : Call) :
    b.cluster.fleet.Grows (b.step call).cluster.fleet := by
  have heffect := b.step_effect call
  generalize b.accepts? call = acceptance at heffect
  cases heffect with
  | quiet hfleet => exact hfleet.grows
  | create id address hfleet => exact hfleet ▸ Fleet.grows_add _
  | process h hfleet => exact hfleet ▸ Fleet.grows_set (Replica.process_eq_ok h).2.1
  | forget ref sensor hfleet => exact hfleet ▸ Fleet.grows_set rfl
  | backup ref hfleet => exact hfleet ▸ .refl _
  | restore ref hs hfleet => exact hfleet ▸ Fleet.grows_set (Replica.restore_id ..)

/-- and neither do many. -/
theorem run_grows (b : Bench) (calls : List Call) :
    b.cluster.fleet.Grows (b.run calls).cluster.fleet := by
  induction calls generalizing b with
  | nil => exact .refl _
  | cons call rest ih => exact (b.step_grows call).trans (ih _)

end Bench

end SensorCluster
