import SensorCluster.Proofs.Runs

/-!
# The two rosters are one

The coordinator lists the registered receivers, the replication those that it looks after, and each
list is written by an operation of its own: a registration adds to the first and then to the second,
an unregistration takes the receiver that it found off the first and everybody of that id off the
second. They are the same list all the same, with distinct ids, in every state that requests can
lead to (`rosters_agree`). So no receiver is routed to that is never synced, and none that was taken
off is still a source of data.

## Requests

An `Operation` concerns what the cluster knows by id. A `Request` may also concern a receiver that
exists and is not registered: one that was created beforehand, or one that was taken off the lists
and is now registered again. Two receivers can be synced by hand, whoever lists them.

## What it rests on

Every request keeps the core sound (`handle_sound`). For the operations that is the soundness of
their moves. A sync by hand is no move, since its source may be on no list; but it puts receivers in
the place of receivers of the same id, and that is enough.
-/

namespace SensorCluster

/-- A call from outside, also one that concerns a receiver that is not registered. -/
inductive Request
  | operation (op : Operation)
  /-- A receiver is created. Nobody lists it yet. -/
  | create (r : Replica)
  /-- A receiver that exists is registered, for the first time or again. -/
  | enroll (ref : ReplicaRef)
  /-- Two receivers are synced. -/
  | syncPair (a b : ReplicaRef)
  /-- A receiver is restored from its most complete peer. -/
  | restore (ref : ReplicaRef)

/-- Which requests may be made: who is created or registered may join, and the message may
arrive. -/
def Request.Allowed (joins : Replica → Prop) (arrives : Message → Prop)
    (c : Cluster) : Request → Prop
  | .operation op => op.Allowed joins arrives
  | .create r => joins r
  | .enroll ref => (c.replica ref).id ∉ c.fleet.ids c.coordinator.registry → joins (c.replica ref)
  | _ => True

namespace Cluster

/-- What a request does. -/
def handle (c : Cluster) : Request → Cluster
  | .operation op => c.step op
  | .create r => (c.create r).2
  | .enroll ref => if c.fleet.Holds ref then (c.register ref).2 else c
  | .syncPair a b => (c.syncPair a b).2
  | .restore ref => (c.restoreFromBestPeer ref).2

/-- What several requests do, one after the other. -/
def handleAll (c : Cluster) (requests : List Request) : Cluster := requests.foldl handle c

theorem handleAll_append (c : Cluster) (requests more : List Request) :
    c.handleAll (requests ++ more) = (c.handleAll requests).handleAll more :=
  List.foldl_append

variable {joins : Replica → Prop} {arrives : Message → Prop} {c : Cluster}

/-- A receiver whose id is taken does not join. -/
theorem register_core_of_mem {ref : ReplicaRef}
    (h : (c.replica ref).id ∈ c.fleet.ids c.coordinator.registry) :
    (c.register ref).2.core = c.core := by
  obtain ⟨lines, heq⟩ := register_of_taken h
  rw [heq]
  rfl

/-- A request is a sequence of moves, unless receivers are synced by hand. -/
theorem handle_leads {q : Request} (h : q.Allowed joins arrives c)
    (hsync : ∀ a b, q ≠ .syncPair a b) : Leads joins arrives c (c.handle q) := by
  cases q with
  | operation op => exact step_leads h
  | create r => exact .of_move (.create (.inl h))
  | enroll ref =>
    rw [handle]
    split
    · next hholds =>
      by_cases htaken : (c.replica ref).id ∈ c.fleet.ids c.coordinator.registry
      · exact .of_eq (register_core_of_mem htaken)
      · exact register_leads hholds (h htaken)
    · exact .refl c
  | syncPair a b => exact absurd rfl (hsync a b)
  | restore ref => exact restoreFromBestPeer_leads ref

/-! ### Soundness -/

/-- A copy puts the target, with other data, in its own place. -/
theorem copyPair_sound (h : c.core.Sound joins) (concurrent : Bool) (source target : ReplicaRef) :
    (c.copyPair concurrent source target).2.core.Sound joins := by
  have hrestored : (c.restore target (c.snapshot source)).2.core.Sound joins :=
    h.put (Replica.restore_id ..)
  rw [copyPair]
  dsimp only
  split
  · exact hrestored
  · split
    · exact hrestored.put rfl
    · exact hrestored

/-- A sync by hand replaces one of the two by a receiver of its id. -/
theorem syncPair_sound (h : c.core.Sound joins) (a b : ReplicaRef) :
    (c.syncPair a b).2.core.Sound joins := by
  have hcounted : ∀ concurrent, (c.countConcurrent concurrent).core.Sound joins := by
    intro concurrent
    rw [countConcurrent_core]
    exact h
  rw [syncPair]
  split
  · exact hcounted _
  · split <;> exact copyPair_sound (hcounted _) ..

/-- **One request** leaves the two rosters alike, with distinct ids. -/
theorem handle_sound (h : c.core.Sound joins) {q : Request} (hq : q.Allowed joins arrives c) :
    (c.handle q).core.Sound joins := by
  by_cases hsync : ∃ a b, q = .syncPair a b
  · obtain ⟨a, b, rfl⟩ := hsync
    exact syncPair_sound h a b
  · exact h.moves (handle_leads hq (fun a b heq ↦ hsync ⟨a, b, heq⟩) h)

/-- **Whatever is requested, the core is sound.** -/
theorem handleAll_sound (h : c.core.Sound fun _ ↦ True) (requests : List Request) :
    (c.handleAll requests).core.Sound fun _ ↦ True := by
  induction requests generalizing c with
  | nil => exact h
  | cons q rest ih =>
    have hallowed : q.Allowed (fun _ ↦ True) (fun _ ↦ True) c := by
      cases q with
      | operation op => cases op <;> trivial
      | enroll ref => exact fun _ ↦ trivial
      | create | syncPair | restore => trivial
    exact ih (handle_sound h hallowed)

/-! ### Refusals -/

/-- Neither roster, no receiver and no event is another one. -/
structure SameMembers (c c' : Cluster) : Prop where
  registry : c'.coordinator.registry = c.coordinator.registry
  pool : c'.replication.pool = c.replication.pool
  fleet : c'.fleet = c.fleet
  bus : c'.bus = c.bus

/-- A refused registration changes no roster, no receiver and tells nobody, -/
theorem register_of_refused {ref : ReplicaRef} (h : (c.register ref).1 = false) :
    c.SameMembers (c.register ref).2 := by
  obtain ⟨-, lines, heq⟩ | ⟨-, lines, heq⟩ := c.register_cases ref <;> rw [heq] at h ⊢
  · exact ⟨rfl, rfl, rfl, rfl⟩
  · cases h

/-- and so does the unregistration of an id that is unknown. -/
theorem unregister_of_unknown {id : String} (h : (c.unregister id).1 = none) :
    c.SameMembers (c.unregister id).2 := by
  obtain heq | ⟨ref, lines, -, heq⟩ := c.unregister_cases id <;> rw [heq] at h ⊢
  · exact ⟨rfl, rfl, rfl, rfl⟩
  · cases h

/-- **The registry and the replication pool agree.** In every state that a new cluster comes to by
any requests, with any provisioner, the replication looks after the registered receivers in the
order of their registration, and no two of them have one id. A registration that is refused and an
unregistration that finds nobody leave both rosters, every receiver and all events as they were. -/
theorem rosters_agree (config : Config) (sink : SnapshotSink) (provisioner : Provisioner)
    (now : WallTime) (requests : List Request) :
    let c := (new config sink provisioner now).handleAll requests
    c.replication.pool = c.coordinator.registry ∧
    (c.fleet.ids c.coordinator.registry).Nodup ∧
    (∀ ref, (c.register ref).1 = false → c.SameMembers (c.register ref).2) ∧
    ∀ id, (c.unregister id).1 = none → c.SameMembers (c.unregister id).2 := by
  intro c
  have hnew : (new config sink provisioner now).core.Sound fun _ ↦ True :=
    new_sound fun _ _ _ _ _ ↦ trivial
  have hsound : c.core.Sound fun _ ↦ True := handleAll_sound hnew requests
  exact ⟨hsound.pool_eq, hsound.ids, fun _ ↦ register_of_refused, fun _ ↦ unregister_of_unknown⟩

end Cluster

end SensorCluster
