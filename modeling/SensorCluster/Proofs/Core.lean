import SensorCluster.Cluster.Node
import SensorCluster.Proofs.Rosters
import Mathlib.Logic.Relation

/-!
# The core of a cluster and its moves

Every operation of a cluster writes to the log, counts and publishes on its way. The `Core` of a
cluster is what is left when all that is taken away: the fleet with its two rosters, the backup pool
with what the provisioner was asked, the recoveries under way, and the slots that were given up as
far as they were counted and told.

**All that an operation can do to the core is a `Move`**, and there are few of them. `Move` says
once what a step can do; an invariant of the cluster is proved for one move at a time, and holds
after every operation, since every operation is a sequence of moves.

## What a move may rely on

* `Change` lists what can happen to a single receiver. None of it changes the id.
* A message only reaches a registered receiver, and a receiver only takes over the data of one in
  the replication pool. Which messages arrive and which receivers join is left open: `arrives` and
  `joins` are parameters, and a claim about a run picks them.
* `Core.Sound` is what the moves preserve: the two rosters are one, their ids are distinct, and what
  the provisioner delivers may join.
-/

namespace SensorCluster

/-- An offer keeps the id, and the index is that of the offer. -/
theorem Replica.offer_snd (r : Replica) (candidate : SensorRecord) :
    (r.offer candidate).2.id = r.id ∧
      (r.offer candidate).2.index = (r.index.apply candidate).2 := by
  simp only [Replica.offer]
  split <;> exact ⟨rfl, rfl⟩

/-- A receiver that processes a message is running and keeps its id, and only a reading is offered
to its index. -/
theorem Replica.process_eq_ok {r r' : Replica} {m : Message} {outcome : ProcessOutcome}
    (h : r.process m = .ok (outcome, r')) :
    r.isRunning = true ∧ r'.id = r.id ∧
      r'.index = if m.kind = .data then (r.index.apply (.ofMessage m)).2 else r.index := by
  rw [Replica.process] at h
  -- a receiver that is not running refuses; else the kind of the message decides
  split at h
  · cases h
  · next hrunning =>
    refine ⟨by simpa using hrunning, ?_⟩
    split at h
    · next hdata =>
      obtain ⟨-, rfl⟩ := Prod.mk.inj (Except.ok.inj h)
      rw [if_pos hdata]
      exact Replica.offer_snd ..
    · next hdata =>
      obtain ⟨-, rfl⟩ := Prod.mk.inj (Except.ok.inj h)
      rw [if_neg hdata]
      exact ⟨rfl, rfl⟩

/-- A running receiver refuses no message. -/
theorem Replica.exists_process {r : Replica} (h : r.isRunning = true) (m : Message) :
    ∃ outcome r', r.process m = .ok (outcome, r') := by
  rw [process, if_neg (by simp [h])]
  dsimp only
  split <;> exact ⟨_, _, rfl⟩

/-- What a receiver is apart from its data. -/
structure Replica.Shell where
  id : String
  address : String
  state : Lifecycle
  inbound : Bool

/-- The shell of a receiver. -/
def Replica.shell (r : Replica) : Shell := ⟨r.id, r.address, r.state, r.inbound⟩

/-- A restore concerns the data alone. -/
theorem Replica.restore_shell (r : Replica) (s : Snapshot) : (r.restore s).2.shell = r.shell := by
  rw [Replica.restore]
  split <;> rfl

/-- A restore takes over no id. -/
theorem Replica.restore_id (r : Replica) (s : Snapshot) : (r.restore s).2.id = r.id :=
  congrArg Shell.id (r.restore_shell s)

/-- A snapshot that is not applied changes nothing. -/
theorem Replica.restore_of_not_applied {r : Replica} {s : Snapshot} (h : (r.restore s).1 = false) :
    (r.restore s).2 = r := by
  rw [restore] at h ⊢
  split at h
  · cases h
  · next hnot => rw [if_neg hnot]

/-- The slot that an event tells of as given up. -/
def Event.exhaustion? : Event → Option Abandonment
  | .recoveryExhausted slot attempts => some ⟨slot, attempts⟩
  | _ => none

/-- The abandoned slots that a pass over the pool tells of: after a panic there are none. -/
def PoolPass.told (pass : PoolPass) : List Abandonment :=
  match pass.outcome with
  | .panicked _ => []
  | _ => pass.abandoned

/-- After a panic nothing is told, -/
theorem PoolPass.told_of_panicked {pass : PoolPass} {text : String}
    (h : pass.outcome = .panicked text) :
    pass.told = [] := by
  rw [PoolPass.told, h]

/-- and otherwise all that was given up. -/
theorem PoolPass.told_of_ended {pass : PoolPass} (h : ∀ text, pass.outcome ≠ .panicked text) :
    pass.told = pass.abandoned := by
  rw [PoolPass.told]
  split
  · next text houtcome => exact absurd houtcome (h text)
  · rfl

/-- The state of a cluster without its log, its agenda and all that only counts or informs. -/
structure Core where
  fleet : Fleet
  /-- The registered receivers. -/
  registry : Roster
  /-- The receivers that the replication looks after. -/
  pool : Roster
  settings : FaultToleranceConfig
  provisioner : Provisioner
  slots : List BackupSlot
  /-- The slots that the provisioner was asked about, oldest first. -/
  asked : List String
  /-- The receivers with a recovery under way. -/
  pending : List String
  /-- How many slots were counted as given up. -/
  exhaustedSlots : Counter
  /-- The slots that were told of as given up, oldest first. -/
  exhaustions : List Abandonment

namespace Core

/-! ### What can be done to a core -/

/-- The receiver of a number. -/
def get (k : Core) (ref : ReplicaRef) : Replica := k.fleet.get ref

/-- Puts a receiver in the place of the one of a number. -/
def put (k : Core) (ref : ReplicaRef) (r : Replica) : Core := { k with fleet := k.fleet.set ref r }

/-- Deletes the record of a sensor from the given receivers. -/
def forgetAll (k : Core) (sensor : String) (refs : List ReplicaRef) : Core :=
  refs.foldl (fun k ref ↦ k.put ref ((k.get ref).removeRecord sensor).2) k

/-- Takes a new receiver into the fleet. -/
def create (k : Core) (r : Replica) : Core := { k with fleet := (k.fleet.add r).2 }

/-- Puts a receiver on both rosters. -/
def join (k : Core) (ref : ReplicaRef) : Core :=
  { k with registry := k.registry ++ [ref], pool := k.pool ++ [ref] }

/-- Takes the receiver of an id off both rosters. -/
def leave (k : Core) (id : String) : Core :=
  { k with registry := k.fleet.dismiss k.registry id, pool := k.fleet.dismiss k.pool id }

/-- Counts and tells of slots that were given up. -/
def report (k : Core) (abandoned : List Abandonment) : Core :=
  { k with
    exhaustedSlots := k.exhaustedSlots + UInt64.ofNat abandoned.length
    exhaustions := k.exhaustions ++ abandoned }

/-- The pass over the backup pool that comes next. -/
def nextPass (k : Core) : PoolPass := BackupPool.tryEach k.provisioner k.asked none k.slots

/-- Goes through the backup pool once. -/
def tryPool (k : Core) : Core :=
  { k with slots := k.nextPass.slots, asked := k.asked ++ k.nextPass.asked }.report
    k.nextPass.told

/-- Gives back the slot in use by the receiver of an id. -/
def release (k : Core) (id : String) : Core :=
  { k with slots := (BackupPool.release id k.slots).1 }.report (BackupPool.release id k.slots).2

/-- Notes that the recovery of a receiver is under way. -/
def mark (k : Core) (id : String) : Core := { k with pending := k.pending ++ [id] }

/-- Notes that the recovery of a receiver is over. -/
def unmark (k : Core) (id : String) : Core := { k with pending := k.pending.filter (· ≠ id) }

/-! ### Moves -/

/-- What can become of a single receiver: the one of a number becomes the given one. -/
inductive Change (arrives : Message → Prop) (k : Core) (ref : ReplicaRef) : Replica → Prop
  /-- It is started, stopped, detached or retired. -/
  | lifecycle (state : Lifecycle) (inbound : Bool) :
      Change arrives k ref { k.get ref with state, inbound }
  /-- A conflict is counted. -/
  | conflict : Change arrives k ref (k.get ref).recordConflict
  /-- It is restored from one that the replication looks after. -/
  | restore {source : ReplicaRef} (now : WallTime) (h : source ∈ k.pool) :
      Change arrives k ref ((k.get ref).restore ((k.get source).snapshot now)).2
  /-- It is registered and processes a message. -/
  | process {m : Message} {outcome : Replica.ProcessOutcome} {r : Replica} (hm : arrives m)
      (href : ref ∈ k.registry) (h : (k.get ref).process m = .ok (outcome, r)) :
      Change arrives k ref r
  /-- The record of a sensor is deleted. -/
  | forget (sensor : String) : Change arrives k ref ((k.get ref).removeRecord sensor).2

/-- One step of a core. -/
inductive Move (joins : Replica → Prop) (arrives : Message → Prop) : Core → Core → Prop
  | change {k : Core} {ref : ReplicaRef} {r : Replica} (h : Change arrives k ref r) :
      Move joins arrives k (k.put ref r)
  /-- A receiver is created, one that may join or one as they all begin. -/
  | create {k : Core} {r : Replica} (h : joins r ∨ ∃ id address, r = .new id address) :
      Move joins arrives k (k.create r)
  | join {k : Core} {ref : ReplicaRef} (hholds : k.fleet.Holds ref)
      (hnew : (k.get ref).id ∉ k.fleet.ids k.registry) (hjoins : joins (k.get ref)) :
      Move joins arrives k (k.join ref)
  | leave (k : Core) (id : String) : Move joins arrives k (k.leave id)
  | tryPool (k : Core) : Move joins arrives k k.tryPool
  | release (k : Core) (id : String) : Move joins arrives k (k.release id)
  | mark {k : Core} {id : String} (h : id ∉ k.pending) : Move joins arrives k (k.mark id)
  | unmark (k : Core) (id : String) : Move joins arrives k (k.unmark id)

/-- Steps of a core, one after the other. -/
abbrev Moves (joins : Replica → Prop) (arrives : Message → Prop) : Core → Core → Prop :=
  Relation.ReflTransGen (Move joins arrives)

variable {joins : Replica → Prop} {arrives : Message → Prop} {k k' : Core} {ref : ReplicaRef}

/-- Whatever becomes of a receiver, it keeps its id. -/
theorem Change.id_eq {r : Replica} (h : Change arrives k ref r) : r.id = (k.get ref).id := by
  cases h with
  | lifecycle | conflict | forget => rfl
  | restore now h => exact Replica.restore_id ..
  | process hm href h => exact (Replica.process_eq_ok h).2.1

/-- Records are deleted by one move for each receiver. -/
theorem forgetAll_moves (sensor : String) (refs : List ReplicaRef) :
    Moves joins arrives k (k.forgetAll sensor refs) :=
  List.foldlRecOn (motive := Moves joins arrives k) _ _ .refl
    fun _ h _ _ ↦ h.tail (.change (.forget sensor))

/-! ### Soundness -/

/-- What every core of a cluster has. -/
structure Sound (joins : Replica → Prop) (k : Core) : Prop where
  /-- The replication looks after the registered receivers. -/
  pool_eq : k.pool = k.registry
  holds : ∀ ref ∈ k.registry, k.fleet.Holds ref
  ids : (k.fleet.ids k.registry).Nodup
  /-- What the provisioner delivers may join. -/
  delivers : ∀ history slot r lines,
    k.provisioner history slot = .delivered r lines → joins r

/-- A core is sound for any larger class of receivers that may join. -/
theorem Sound.mono {joins' : Replica → Prop} (h : k.Sound joins)
    (himp : ∀ r, joins r → joins' r) : k.Sound joins' where
  pool_eq := h.pool_eq
  holds := h.holds
  ids := h.ids
  delivers history slot r lines hdelivered := himp r (h.delivers history slot r lines hdelivered)

/-- A receiver is replaced by one of its id. -/
theorem Sound.put (h : k.Sound joins) {r : Replica} (hid : r.id = (k.get ref).id) :
    (k.put ref r).Sound joins where
  pool_eq := h.pool_eq
  holds other hother := (Fleet.holds_set ..).2 (h.holds other hother)
  ids := by
    show ((k.fleet.set ref r).ids k.registry).Nodup
    rw [Fleet.ids_set hid]
    exact h.ids
  delivers := h.delivers

/-- Who is created is on no roster. -/
theorem Sound.create (h : k.Sound joins) (r : Replica) : (k.create r).Sound joins where
  pool_eq := h.pool_eq
  holds ref href := Fleet.holds_add_of_holds (h.holds ref href) r
  ids := by
    show ((k.fleet.add r).2.ids k.registry).Nodup
    rw [Fleet.ids_add h.holds]
    exact h.ids
  delivers := h.delivers

/-- A new id joins both rosters. -/
theorem Sound.join (h : k.Sound joins) (hholds : k.fleet.Holds ref)
    (hnew : (k.get ref).id ∉ k.fleet.ids k.registry) : (k.join ref).Sound joins where
  pool_eq := congrArg (· ++ [ref]) h.pool_eq
  holds other hother := by
    rcases List.mem_append.1 hother with hother | hother
    · exact h.holds other hother
    · rwa [List.mem_singleton.1 hother]
  ids := by
    show (k.fleet.ids (k.registry ++ [ref])).Nodup
    rw [Fleet.ids_append]
    show (k.fleet.ids k.registry ++ [(k.get ref).id]).Nodup
    rw [← List.concat_eq_append]
    exact List.Nodup.concat hnew h.ids
  delivers := h.delivers

/-- An id leaves both rosters. -/
theorem Sound.leave (h : k.Sound joins) (id : String) : (k.leave id).Sound joins where
  pool_eq := congrArg (fun roster ↦ k.fleet.dismiss roster id) h.pool_eq
  holds ref href := h.holds ref (Fleet.mem_dismiss.1 href).1
  ids := h.ids.sublist Fleet.ids_dismiss_sublist
  delivers := h.delivers

/-- **One move** keeps a core sound, -/
theorem Sound.move (h : k.Sound joins) (hmove : Move joins arrives k k') : k'.Sound joins := by
  cases hmove with
  | change hchange => exact h.put hchange.id_eq
  | create => exact h.create _
  | join hholds hnew => exact h.join hholds hnew
  | leave id => exact h.leave id
  | tryPool | release | mark | unmark => exact ⟨h.pool_eq, h.holds, h.ids, h.delivers⟩

/-- and so do many. -/
theorem Sound.moves (h : k.Sound joins) (hmoves : Moves joins arrives k k') :
    k'.Sound joins := by
  induction hmoves with
  | refl => exact h
  | tail _ hmove ih => exact ih.move hmove

/-- The provisioner and the settings are given once and for all. -/
theorem Moves.fixed (h : Moves joins arrives k k') :
    k'.provisioner = k.provisioner ∧ k'.settings = k.settings := by
  induction h with
  | refl => exact ⟨rfl, rfl⟩
  | tail _ hmove ih =>
    rw [← ih.1, ← ih.2]
    cases hmove <;> exact ⟨rfl, rfl⟩

/-- No recovery comes to be under way twice. -/
theorem Moves.pending_nodup (h : Moves joins arrives k k') (hnodup : k.pending.Nodup) :
    k'.pending.Nodup := by
  induction h with
  | refl => exact hnodup
  | tail _ hmove ih =>
    cases hmove with
    | mark hnew =>
      show (_ ++ [_]).Nodup
      rw [← List.concat_eq_append]
      exact List.Nodup.concat hnew ih
    | unmark id => exact ih.sublist List.filter_sublist
    | change | create | join | leave | tryPool | release => exact ih

end Core

end SensorCluster
