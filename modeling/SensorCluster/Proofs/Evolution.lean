import SensorCluster.Proofs.Aside
import SensorCluster.Proofs.GlobalVector

/-!
# How the fleet evolves without messages

Receivers come to a fleet from three sides: they are created, the provisioner delivers them, or data
that were kept in a snapshot come back by a restore. In a `Fleet.Turn` one of these happens, or a
receiver that is there changes its lifecycle, counts a conflict, loses a record or takes over the
data of another one. **What is heritable and comes in from none of the three sides spoilt, all
receivers keep** (`Turns.each`).

Every operation but a route makes turns only, which is what `Cluster.Evolves` says: as long as the
provisioner delivers nothing but receivers with the property. Unlike the moves of a core, turns ask
nothing of the rosters, so they are there for clusters whose replication looks after receivers of
its own.

The lemmas go along the calls. An operation on receivers alone stands aside from the provisioner,
and its turns are the steps that it takes.
-/

namespace SensorCluster

namespace Fleet

/-! ### Turns -/

/-- Something that happens to a fleet while no message arrives. A receiver that is new to it, and
one of which a snapshot was kept, has the property. -/
inductive Turn (P : Replica → Prop) : Fleet → Fleet → Prop
  | become {f : Fleet} {ref : ReplicaRef} {r : Replica} (h : f.Becomes ref r) :
      Turn P f (f.set ref r)
  | forget (f : Fleet) (ref : ReplicaRef) (sensor : String) :
      Turn P f (f.set ref ((f.get ref).removeRecord sensor).2)
  | restore (f : Fleet) (ref : ReplicaRef) {source : Replica} (now : WallTime) (h : P source) :
      Turn P f (f.set ref ((f.get ref).restore (source.snapshot now)).2)
  | create (f : Fleet) {r : Replica} (h : P r) : Turn P f (f.add r).2

/-- Turns, one after the other. -/
abbrev Turns (P : Replica → Prop) : Fleet → Fleet → Prop := Relation.ReflTransGen (Turn P)

variable {P : Replica → Prop} {f f' : Fleet}

theorem Turns.of_eq (h : f' = f) : f.Turns P f' := h ▸ .refl

/-- The steps that a fleet takes without messages are turns. -/
theorem Steps.turns (h : f.Steps f') : f.Turns P f' := by
  refine Relation.ReflTransGen.mono (fun _ _ hstep ↦ ?_) _ _ h
  obtain ⟨hbecomes⟩ := hstep
  exact .become hbecomes

/-- **One turn** leaves a heritable property with everybody. -/
theorem Turn.each (hP : Replica.Heritable P) (h : f.Turn P f') (hf : ∀ ref, P (f.get ref))
    (ref : ReplicaRef) : P (f'.get ref) := by
  cases h with
  | become hbecomes => exact forall_get_set hf (hbecomes.heritable hP hf) _ ref
  | forget changed sensor => exact forall_get_set hf (hP.forget sensor (hf changed)) changed ref
  | restore changed now hsource =>
    exact forall_get_set hf (hP.restore now (hf changed) hsource) changed ref
  | @create r hr =>
    rcases f.get_add_cases r ref with hsame | hadded
    · rw [hsame]
      exact hf ref
    · rw [hadded]
      exact hr

/-- **What is heritable all receivers keep**, however many turns there are. -/
theorem Turns.each (hP : Replica.Heritable P) (h : f.Turns P f') (hf : ∀ ref, P (f.get ref)) :
    ∀ ref, P (f'.get ref) := by
  induction h with
  | refl => exact hf
  | tail _ hturn ih => exact hturn.each hP ih

/-- Turns lose nobody and rename nobody. -/
theorem Turns.grows (h : f.Turns P f') : f.Grows f' := by
  induction h with
  | refl => exact .refl _
  | tail _ hturn ih =>
    refine ih.trans ?_
    cases hturn with
    | become hbecomes => exact grows_set hbecomes.id_eq
    | forget => exact grows_set rfl
    | restore => exact grows_set (Replica.restore_id ..)
    | create => exact grows_add _

end Fleet

namespace Cluster

variable {P : Replica → Prop} {c c' c'' : Cluster} {ref : ReplicaRef}

/-! ### Evolution -/

/-- The provisioner delivers nothing but receivers with the property. -/
def Delivers (P : Replica → Prop) (c : Cluster) : Prop :=
  ∀ history slot r lines, c.healing.provisioner history slot = .delivered r lines → P r

/-- The in-memory provisioner delivers new receivers that are running. -/
theorem new_delivers_inMemory {config : Config} {sink : SnapshotSink} {now : WallTime}
    (h : ∀ id address, P { Replica.new id address with state := .running, inbound := true }) :
    (new config sink .inMemory now).Delivers P := by
  intro history slot r lines hanswer
  rw [delivered_inMemory (show Provisioner.inMemory history slot = .delivered r lines from hanswer)]
  exact h ..

/-- The second cluster has the provisioner of the first. If it delivers nothing but receivers with
the property, the fleet comes from that of the first by turns. -/
def Evolves (P : Replica → Prop) (c c' : Cluster) : Prop :=
  c'.healing.provisioner = c.healing.provisioner ∧ (c.Delivers P → c.fleet.Turns P c'.fleet)

namespace Evolves

/-- Who evolves keeps the provisioner, and with it what is delivered. -/
theorem delivers (h : c.Evolves P c') {joins : Replica → Prop} (hdelivers : c.Delivers joins) :
    c'.Delivers joins := by
  rw [Delivers, h.1]
  exact hdelivers

theorem refl (c : Cluster) : c.Evolves P c := ⟨rfl, fun _ ↦ .refl⟩

/-- Evolution goes on. -/
theorem trans (h : c.Evolves P c') (h' : c'.Evolves P c'') : c.Evolves P c'' :=
  ⟨h'.1.trans h.1, fun hdelivers ↦ (h.2 hdelivers).trans (h'.2 (h.delivers hdelivers))⟩

/-- Turns that need nothing of the provisioner. -/
theorem of_turns (hprovisioner : c'.healing.provisioner = c.healing.provisioner)
    (h : c.fleet.Turns P c'.fleet) : c.Evolves P c' :=
  ⟨hprovisioner, fun _ ↦ h⟩

/-- What is written, counted or published changes no receiver. -/
theorem of_core_eq (h : c'.core = c.core) : c.Evolves P c' :=
  .of_turns (congrArg Core.provisioner h) (.of_eq (congrArg Core.fleet h))

/-- **An operation on receivers alone** evolves by the steps that it takes. -/
theorem of_aside (h : c.Aside c') (hsteps : c.fleet.Steps c'.fleet) : c.Evolves P c' :=
  .of_turns (congrArg Healing.provisioner h.healing) hsteps.turns

end Evolves

/-! ### Receivers and the replication -/

/-- A receiver with the property may be created. -/
theorem create_evolves {r : Replica} (h : P r) : c.Evolves P (c.create r).2 :=
  .of_turns rfl (.single (.create _ h))

theorem start_evolves (ref : ReplicaRef) : c.Evolves P (c.start ref).2 :=
  .of_aside (start_aside ref) (start_steps ref)

theorem stop_evolves (ref : ReplicaRef) : c.Evolves P (c.stop ref).2 :=
  .of_aside (stop_aside ref) (stop_steps ref)

theorem recover_evolves (ref : ReplicaRef) : c.Evolves P (c.recover ref).2 :=
  .of_aside (recover_aside ref) (recover_steps ref)

theorem detach_evolves (ref : ReplicaRef) : c.Evolves P (c.detach ref) :=
  .of_aside (detach_aside ref) (.of_becomes (.lifecycle _ _))

theorem retire_evolves (ref : ReplicaRef) : c.Evolves P (c.retire ref) :=
  .of_aside (retire_aside ref) (.of_becomes (.lifecycle _ _))

/-- A deleted record is a turn of its own, since what is left is the receiver's own data. -/
theorem removeRecord_evolves (ref : ReplicaRef) (sensor : String) :
    c.Evolves P (c.removeRecord ref sensor).2 :=
  .of_turns rfl (.single (.forget _ ref sensor))

/-- A snapshot may be put back that was kept of a receiver with the property. -/
theorem restore_evolves (ref : ReplicaRef) {source : Replica} (now : WallTime) (h : P source) :
    c.Evolves P (c.restore ref (source.snapshot now)).2 :=
  .of_turns rfl (.single (.restore _ ref now h))

/-- A restore takes its data from a peer, so from a receiver of the fleet. -/
theorem restoreFromBestPeer_evolves (ref : ReplicaRef) :
    c.Evolves P (c.restoreFromBestPeer ref).2 :=
  .of_aside (restoreFromBestPeer_aside ref) (restoreFromBestPeer_steps ref)

theorem joinPool_evolves (ref : ReplicaRef) : c.Evolves P (c.joinPool ref).2 :=
  .of_aside (joinPool_aside ref) (joinPool_steps ref)

theorem syncPair_evolves (a b : ReplicaRef) : c.Evolves P (c.syncPair a b).2 :=
  .of_aside (syncPair_aside a b) (syncPair_steps a b)

theorem syncCycle_evolves : c.Evolves P c.syncCycle.2 :=
  .of_aside syncCycle_aside syncCycle_steps

theorem backupCycle_evolves : c.Evolves P c.backupCycle.2 := .of_core_eq (backups_core 0 _)

theorem recoveryScan_evolves : c.Evolves P c.recoveryScan.2 :=
  .of_aside recoveryScan_aside (scanReplicas_steps ..)

/-! ### Membership and sensors -/

/-- A registration is refused, or the receiver joins the pool and may be restored there. -/
theorem register_evolves (ref : ReplicaRef) : c.Evolves P (c.register ref).2 := by
  obtain ⟨-, lines, heq⟩ | ⟨-, lines, heq⟩ := c.register_cases ref <;> rw [heq]
  · exact .refl c
  · set c₁ := c.modifyCoordinator fun k ↦ { k with registry := c.coordinator.registry ++ [ref] }
    have hjoin : c₁.Evolves P (c₁.joinPool ref).2 := joinPool_evolves ref
    exact hjoin

/-- Nobody changes who is unregistered. -/
theorem unregister_evolves (id : String) : c.Evolves P (c.unregister id).2 := by
  obtain heq | ⟨ref, lines, -, heq⟩ := c.unregister_cases id <;> rw [heq] <;> exact .refl c

/-- To forget a sensor is to delete its records, receiver by receiver. -/
theorem unregisterSensor_evolves (sensor : String) : c.Evolves P (c.unregisterSensor sensor).2 := by
  have hforgotten : (c.core.forgetAll sensor c.core.registry).provisioner = c.core.provisioner ∧
      c.core.fleet.Turns P (c.core.forgetAll sensor c.core.registry).fleet :=
    List.foldlRecOn
      (motive := fun k : Core ↦ k.provisioner = c.core.provisioner ∧ c.core.fleet.Turns P k.fleet)
      _ _ ⟨rfl, .refl⟩ fun k h ref _ ↦ ⟨h.1, h.2.tail (.forget k.fleet ref sensor)⟩
  rw [← unregisterSensor_core] at hforgotten
  exact .of_turns hforgotten.1 hforgotten.2

/-! ### Fault tolerance -/

/-- The one call that adds a receiver which nobody passed in: what is delivered has the property. -/
theorem provision_evolves : c.Evolves P c.provision.2 := by
  rcases provision_spec c with ⟨r, houtcome, -, hcore⟩ | ⟨-, -, -, hcore⟩ | ⟨-, -, -, hcore⟩
  · refine ⟨congrArg Core.provisioner hcore, fun hdelivers ↦ ?_⟩
    obtain ⟨history, slot, lines, hdelivered⟩ := BackupPool.delivered_of_tryEach houtcome
    rw [show c.provision.2.fleet = (c.fleet.add r).2 from congrArg Core.fleet hcore]
    exact .single (.create _ (hdelivers history slot r lines hdelivered))
  · exact .of_turns (congrArg Core.provisioner hcore) (.of_eq (congrArg Core.fleet hcore))
  · exact .of_turns (congrArg Core.provisioner hcore) (.of_eq (congrArg Core.fleet hcore))

/-- Slots are no receivers. -/
theorem releaseSlot_evolves (id : String) : c.Evolves P (c.releaseSlot id) :=
  .of_turns (congrArg Core.provisioner (releaseSlot_core id))
    (.of_eq (congrArg Core.fleet (releaseSlot_core id)))

theorem takenOff_evolves (ref : ReplicaRef) : c.Evolves P (c.takenOff ref) :=
  ((unregister_evolves _).trans (retire_evolves ref)).trans (releaseSlot_evolves _)

/-- So every recovery evolves, -/
theorem recoveryRespects_evolves : RecoveryRespects (Evolves P) where
  refl := .refl
  trans := .trans
  write c _ := .refl c
  restarted c := .refl c
  replaced c := .refl c
  tellRecovered c _ := .refl c
  tellReplaced c _ _ := .refl c
  tellFailure c _ _ := .refl c
  recover _ ref := recover_evolves ref
  restore _ ref := restoreFromBestPeer_evolves ref
  takenOff {_ ref} _ := takenOff_evolves ref
  -- the provisioner may be asked, so its answer goes through the pool first
  refused {c _ _} h := by
    have hprovision : c.Evolves P c.provision.2 := provision_evolves
    rwa [h] at hprovision
  delivered {c c' ref} lines h := by
    have hprovision : c.Evolves P c.provision.2 := provision_evolves
    rw [h] at hprovision
    exact hprovision.trans (register_evolves (c := c'.write lines) ref)

/-! ### Upkeep -/

/-- and all upkeep, as its parts do. -/
theorem nodeRespects_evolves : NodeRespects (Evolves P) where
  __ := recoveryRespects_evolves
  -- operations on receivers alone; the rest changes no receiver at all
  start _ ref := start_evolves ref
  stop _ ref := stop_evolves ref
  detach _ ref := detach_evolves ref
  retire _ ref := retire_evolves ref
  syncCycle _ := syncCycle_evolves
  backupCycle _ := backupCycle_evolves
  recoveryScan _ := recoveryScan_evolves
  checked c := .refl c
  marked _ := .refl _
  unmarked c _ := .refl c
  flagged c _ := .refl c
  startedReplication c := .refl c
  startedHealing c := .refl c
  withAgenda c _ := .refl c
  subscribe c _ := .refl c
  unsubscribe c _ := .refl c

/-! ### Requests -/

/-- **All operations but routes** make turns only. -/
theorem step_evolves {op : Operation} (hroute : ∀ m host port, op ≠ .route m host port)
    (hbrings : (Request.operation op).Brings P) : c.Evolves P (c.step op) := by
  cases op with
  | register r => exact (create_evolves hbrings).trans (register_evolves _)
  | unregister id => exact unregister_evolves id
  | route m host port => exact absurd rfl (hroute m host port)
  | pin id => exact .refl c
  | unregisterSensor sensor => exact unregisterSensor_evolves sensor
  | provision => exact provision_evolves
  | _ => exact nodeRespects_evolves.step c trivial

/-- **A request** evolves, unless it routes a message. -/
theorem handle_evolves {q : Request} (hroute : ∀ m host port, q ≠ .operation (.route m host port))
    (hbrings : q.Brings P) : c.Evolves P (c.handle q) := by
  cases q with
  | operation op =>
    exact step_evolves (fun m host port heq ↦ hroute m host port (heq ▸ rfl)) hbrings
  | create r => exact create_evolves hbrings
  | enroll ref =>
    rw [handle]
    split
    · exact register_evolves ref
    · exact .refl c
  | syncPair a b => exact syncPair_evolves a b
  | restore ref => exact restoreFromBestPeer_evolves ref

end Cluster

end SensorCluster
