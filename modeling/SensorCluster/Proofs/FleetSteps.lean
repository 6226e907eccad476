import SensorCluster.Proofs.Inheritance
import SensorCluster.Proofs.Operations

/-!
# Steps of a fleet

A step of the core says from whom a receiver takes its data: from one that the replication looks
after. Where that is not known or of no account, it is enough to look at the fleet. In a
`Fleet.Step` one receiver changes its lifecycle, counts a conflict, or is restored from any other
one.

* `Steps.each`: what is heritable, all receivers keep together.
* `Steps.relates`: what relates a receiver to whatever becomes of it in one step relates it to what
  becomes of it in many.
* `Grows`: receivers are added and never renamed.

The operations on lifecycles and those of the replication are such steps, each by the lemma that
bears its name.
-/

namespace SensorCluster

namespace Fleet

/-! ### Steps of a fleet -/

/-- What can become of the receiver of a number while no message arrives and no record is
deleted. -/
inductive Becomes (f : Fleet) (ref : ReplicaRef) : Replica → Prop
  /-- It is started, stopped, detached or retired. -/
  | lifecycle (state : Lifecycle) (inbound : Bool) :
      Becomes f ref { f.get ref with state, inbound }
  | conflict : Becomes f ref (f.get ref).recordConflict
  /-- It is restored from another one, whoever lists that one. -/
  | restore (source : ReplicaRef) (now : WallTime) :
      Becomes f ref ((f.get ref).restore ((f.get source).snapshot now)).2

/-- One receiver changes. -/
inductive Step : Fleet → Fleet → Prop
  | put {f : Fleet} {ref : ReplicaRef} {r : Replica} (h : f.Becomes ref r) : Step f (f.set ref r)

/-- Receivers change one after the other. -/
abbrev Steps : Fleet → Fleet → Prop := Relation.ReflTransGen Step

variable {f f' f'' : Fleet} {ref : ReplicaRef}

theorem Steps.of_becomes {r : Replica} (h : f.Becomes ref r) : f.Steps (f.set ref r) :=
  .single (.put h)

theorem Steps.of_eq (h : f' = f) : f.Steps f' := h ▸ .refl

/-- A relation between earlier and later forms of a receiver that holds across whatever becomes of
it holds across any steps. -/
theorem Steps.relates {R : Replica → Replica → Prop} (hrefl : ∀ r, R r r)
    (htrans : ∀ {r s t}, R r s → R s t → R r t)
    (hbecomes : ∀ {f : Fleet} {ref : ReplicaRef} {r : Replica}, f.Becomes ref r → R (f.get ref) r)
    (h : f.Steps f') (ref : ReplicaRef) : R (f.get ref) (f'.get ref) := by
  induction h with
  | refl => exact hrefl _
  | tail _ hstep ih =>
    cases hstep with
    | @put changed r h =>
      rcases Fleet.get_set_cases _ changed ref r with hsame | ⟨rfl, hnew⟩
      · rwa [hsame]
      · rw [hnew]
        exact htrans ih (hbecomes h)

/-- Whatever becomes of a receiver, it has what is heritable if all receivers had it. -/
theorem Becomes.heritable {P : Replica → Prop} (hP : Replica.Heritable P)
    (hf : ∀ ref, P (f.get ref)) {r : Replica} (h : f.Becomes ref r) : P r := by
  cases h with
  | lifecycle state inbound => exact hP.lifecycle state inbound (hf ref)
  | conflict => exact hP.conflict (hf ref)
  | restore source now => exact hP.restore now (hf ref) (hf source)

/-- What is heritable, all receivers keep together. -/
theorem Steps.each {P : Replica → Prop} (hP : Replica.Heritable P) (h : f.Steps f')
    (hf : ∀ ref, P (f.get ref)) (ref : ReplicaRef) : P (f'.get ref) := by
  induction h generalizing ref with
  | refl => exact hf ref
  | tail _ hstep ih =>
    cases hstep with
    | @put changed r h => exact forall_get_set ih (h.heritable hP ih) changed ref

/-! ### Growth -/

/-- Receivers may be added, and nobody is renamed. -/
def Grows (f f' : Fleet) : Prop :=
  ∀ ref, f.Holds ref → f'.Holds ref ∧ (f'.get ref).id = (f.get ref).id

theorem Grows.refl (f : Fleet) : f.Grows f := fun _ h ↦ ⟨h, rfl⟩

/-- A fleet that grows twice grows. -/
theorem Grows.trans (h : f.Grows f') (h' : f'.Grows f'') : f.Grows f'' := by
  intro ref href
  obtain ⟨hholds, hid⟩ := h ref href
  obtain ⟨hholds', hid'⟩ := h' ref hholds
  exact ⟨hholds', hid'.trans hid⟩

/-- A receiver is replaced by one of its id. -/
theorem grows_set {r : Replica} (h : r.id = (f.get ref).id) : f.Grows (f.set ref r) :=
  fun other hother ↦ ⟨(holds_set ..).2 hother, apply_get_set Replica.id h other⟩

theorem grows_add (r : Replica) : f.Grows (f.add r).2 :=
  fun _ href ↦ ⟨holds_add_of_holds href r, by rw [get_add_of_holds href]⟩

/-- Whatever becomes of a receiver bears its id. -/
theorem Becomes.id_eq {r : Replica} (h : f.Becomes ref r) : r.id = (f.get ref).id := by
  cases h with
  | lifecycle | conflict => rfl
  | restore source now => exact Replica.restore_id ..

/-- So steps lose nobody and rename nobody. -/
theorem Steps.grows (h : f.Steps f') : f.Grows f' := by
  induction h with
  | refl => exact .refl _
  | tail _ hstep ih =>
    obtain ⟨h⟩ := hstep
    exact ih.trans (grows_set h.id_eq)

end Fleet

namespace Cluster

variable {c : Cluster}

/-- A start changes the lifecycle alone. -/
theorem becomes_of_start {ref : ReplicaRef} {r : Replica} (h : (c.replica ref).start = .ok r) :
    c.fleet.Becomes ref r := by
  obtain rfl := Replica.start_eq_ok h
  exact .lifecycle _ _

theorem start_steps (ref : ReplicaRef) : c.fleet.Steps (c.start ref).2.fleet := by
  rw [start]
  cases h : (c.replica ref).start with
  | ok r => exact .of_becomes (becomes_of_start h)
  | error cause => exact .refl

theorem recover_steps (ref : ReplicaRef) : c.fleet.Steps (c.recover ref).2.fleet := by
  rw [recover, Replica.recover]
  cases h : (c.replica ref).start with
  | ok r => exact .of_becomes (becomes_of_start h)
  | error cause => exact .refl

theorem stop_steps (ref : ReplicaRef) : c.fleet.Steps (c.stop ref).2.fleet := by
  have hfleet : (c.stop ref).2.fleet = c.fleet.set ref (c.replica ref).stop.2 := rfl
  rw [hfleet, Replica.stop_snd]
  exact .of_becomes (.lifecycle _ _)

/-- The receiver is restored from another one of the fleet, if from any. -/
theorem restoreFromBestPeer_steps (ref : ReplicaRef) :
    c.fleet.Steps (c.restoreFromBestPeer ref).2.fleet := by
  rw [restoreFromBestPeer]
  dsimp only
  split
  · exact .refl
  · next peer _ =>
    have hrestore : c.fleet.Steps (c.restore ref (c.snapshot peer)).2.fleet :=
      .of_becomes (.restore peer c.now)
    split <;> exact hrestore

theorem joinPool_steps (ref : ReplicaRef) : c.fleet.Steps (c.joinPool ref).2.fleet := by
  rw [joinPool]
  split
  · exact .refl
  · dsimp only
    split
    · refine .trans ?_ (restoreFromBestPeer_steps ref)
      exact .refl
    · exact .refl

/-- The target is restored from the source, and may have a conflict counted. -/
theorem copyPair_steps (concurrent : Bool) (source target : ReplicaRef) :
    c.fleet.Steps (c.copyPair concurrent source target).2.fleet := by
  have hrestore : c.fleet.Steps (c.restore target (c.snapshot source)).2.fleet :=
    .of_becomes (.restore source c.now)
  rw [copyPair]
  dsimp only
  split
  · exact hrestore
  · split
    · exact hrestore.tail (.put .conflict)
    · exact hrestore

/-- Two receivers are synced, whoever lists them. -/
theorem syncPair_steps (a b : ReplicaRef) : c.fleet.Steps (c.syncPair a b).2.fleet := by
  refine (Fleet.Steps.of_eq (countConcurrent_fleet
    ((c.replica a).vector.concurrentWith (c.replica b).vector))).trans ?_
  rw [syncPair]
  split
  · exact .refl
  · split <;> exact copyPair_steps ..

/-- Pairs are synced one after the other. -/
theorem syncPairs_steps (report : SyncReport) (pairs : List (ReplicaRef × ReplicaRef)) :
    c.fleet.Steps (c.syncPairs report pairs).2.fleet := by
  induction pairs generalizing c report with
  | nil => exact .refl
  | cons p rest ih => exact (syncPair_steps p.1 p.2).trans (ih _)

theorem syncCycle_steps : c.fleet.Steps c.syncCycle.2.fleet :=
  syncPairs_steps default (pairs (c.fleet.running c.replication.pool))

/-- Receivers that are down are started, and then restored. -/
theorem scanReplicas_steps (report : RecoveryReport) (refs : List ReplicaRef) :
    c.fleet.Steps (c.scanReplicas report refs).2.fleet := by
  -- one receiver first: it is up, it refuses to start, or it is started and then restored
  have hscan : ∀ (c : Cluster) (report : RecoveryReport) (ref : ReplicaRef),
      c.fleet.Steps (c.scanReplica report ref).2.fleet := by
    intro c report ref
    rw [scanReplica]
    dsimp only
    split
    · exact .refl
    · have hrecover : c.fleet.Steps (c.recover ref).2.fleet := recover_steps ref
      rcases h : c.recover ref with ⟨_ | _, c₁⟩ <;> rw [h] at hrecover
      · exact hrecover
      · exact hrecover.trans (restoreFromBestPeer_steps (c := c₁.countReplication _) ref)
  induction refs generalizing c report with
  | nil => exact .refl
  | cons ref rest ih => exact (hscan c report ref).trans (ih _)

end Cluster

end SensorCluster
