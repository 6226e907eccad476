import SensorCluster.Proofs.HealingOperations
import SensorCluster.Proofs.Upkeep

/-!
# Runs of a cluster

`run_leads` is what the modules about operations lead to: **every run is a sequence of moves**, so
what the moves preserve holds in every state that a cluster can reach.
-/

namespace SensorCluster

namespace Cluster

variable {joins : Replica → Prop} {arrives : Message → Prop} {c : Cluster}

/-- Who is created at the registration is registered as it is. -/
theorem create_register_leads {r : Replica} (hjoins : joins r) :
    Leads joins arrives c ((c.create r).2.register (c.create r).1).2 := by
  have hcreate : Leads joins arrives c (c.create r).2 := .of_move (.create (.inl hjoins))
  refine hcreate.trans (register_leads (Fleet.holds_add_self r) ?_)
  show joins ((c.fleet.add r).2.get (c.fleet.add r).1)
  rwa [Fleet.get_add_self]

/-! ### Upkeep -/

/-- **Upkeep is made of moves.** -/
theorem nodeRespects_leads : NodeRespects (Leads joins arrives) where
  __ := recoveryRespects_leads
  start _ ref := start_leads ref
  stop _ ref := stop_leads ref
  detach _ ref := detach_leads ref
  retire _ ref := retire_leads ref
  syncCycle _ := syncCycle_leads
  backupCycle _ := .of_eq (backups_core 0 _)
  recoveryScan _ := recoveryScan_leads
  checked _ := .of_eq rfl
  marked hnew := .of_move_eq (.mark hnew) rfl
  unmarked _ id := .of_move_eq (.unmark _ id) rfl
  flagged _ _ := .of_eq rfl
  startedReplication _ := .of_eq rfl
  startedHealing _ := .of_eq rfl
  withAgenda _ _ := .of_eq rfl
  subscribe _ _ := .of_eq rfl
  unsubscribe _ _ := .of_eq rfl

theorem afterScheduling_leads : Leads joins arrives c c.afterScheduling :=
  nodeRespects_leads.afterScheduling c

theorem healthCheck_leads : Leads joins arrives c c.healthCheck.2 :=
  nodeRespects_leads.healthCheck c

/-! ### Runs -/

/-- **Every operation is made of moves**, of receivers that may join and messages that may arrive.
-/
theorem step_leads {op : Operation} (h : op.Allowed joins arrives) :
    Leads joins arrives c (c.step op) := by
  cases op with
  | register r => exact create_register_leads h
  | unregister id => exact unregister_leads id
  | route m host port => exact tryRoute_leads m host port h
  | pin id => exact .of_eq rfl
  | unregisterSensor sensor => exact unregisterSensor_leads sensor
  | provision => exact provision_leads
  | _ => exact nodeRespects_leads.step c trivial

/-- **Every run is a sequence of moves.** -/
theorem run_leads {ops : List Operation} (h : ∀ op ∈ ops, op.Allowed joins arrives) :
    Leads joins arrives c (c.run ops) := by
  induction ops generalizing c with
  | nil => exact .refl c
  | cons op rest ih =>
    exact (step_leads (h op List.mem_cons_self)).trans
      (ih fun op hop ↦ h op (List.mem_cons_of_mem _ hop))

/-! ### Unrestricted runs -/

/-- The second cluster comes from the first by moves of any kind. -/
abbrev Reaches (c c' : Cluster) : Prop := Leads (fun _ ↦ True) (fun _ ↦ True) c c'

/-- A run of any operations is made of moves. -/
theorem run_reaches (ops : List Operation) : c.Reaches (c.run ops) := by
  refine run_leads fun op _ ↦ ?_
  cases op <;> trivial

/-! ### Beginnings -/

/-- A new cluster is sound. -/
theorem new_sound {config : Config} {sink : SnapshotSink} {provisioner : Provisioner}
    {now : WallTime}
    (h : ∀ history slot r lines, provisioner history slot = .delivered r lines → joins r) :
    (new config sink provisioner now).core.Sound joins where
  pool_eq := rfl
  holds _ href := absurd href List.not_mem_nil
  ids := List.nodup_nil
  delivers := h

/-- What the in-memory provisioner delivers is new and running. -/
theorem delivered_inMemory {history : List String} {slot : SlotConfig} {r : Replica}
    {lines : List LogLine} (h : Provisioner.inMemory history slot = .delivered r lines) :
    r = { Replica.new slot.id slot.address with state := .running, inbound := true } :=
  (Provisioning.delivered.inj h).1.symm

/-- The receivers of a configuration are created, started and registered by moves. -/
theorem startConfigured_leads {receivers : List ReceiverConfig} {c' : Cluster}
    (hjoins : ∀ id address,
      joins { Replica.new id address with state := .running, inbound := true })
    (h : c.startConfigured receivers = .ok c') : Leads joins arrives c c' := by
  induction receivers generalizing c with
  | nil => exact .of_eq (by rw [Except.ok.inj h])
  | cons rc rest ih =>
    let created := (c.create (.new rc.id rc.address)).2
    let ref := (c.create (.new rc.id rc.address)).1
    have hreplica : created.replica ref = .new rc.id rc.address := Fleet.get_add_self _ _
    have hcreate : Leads joins arrives c created := .of_move (.create (.inr ⟨_, _, rfl⟩))
    -- a new receiver can be started
    have hstart : created.start ref = (.ok (), (created.start ref).2) := by
      rw [start, hreplica]
      rfl
    have hstarted : (created.start ref).2.replica ref =
        { Replica.new rc.id rc.address with state := .running, inbound := true } := by
      rw [start, hreplica]
      exact (Fleet.get_set (Fleet.holds_add_self _) ref _).trans (if_pos rfl)
    have hholds : (created.start ref).2.fleet.Holds ref := by
      rw [start, hreplica]
      exact (Fleet.holds_set ..).2 (Fleet.holds_add_self _)
    have hcons : c.startConfigured (rc :: rest) =
        ((created.start ref).2.register ref).2.startConfigured rest := by
      rw [startConfigured, show c.create (.new rc.id rc.address) = (ref, created) from rfl]
      dsimp only
      rw [hstart]
    rw [hcons] at h
    refine ((hcreate.trans (start_leads ref)).trans ?_).trans (ih h)
    exact register_leads hholds (hstarted ▸ hjoins rc.id rc.address)

/-- A node is built from a valid configuration, by moves. -/
theorem ofConfig_spec {config : Config} {now : WallTime}
    (hjoins : ∀ id address,
      joins { Replica.new id address with state := .running, inbound := true })
    (h : ofConfig config now = .ok c) :
    config.validate = .ok () ∧ Leads joins arrives (new config .discard .inMemory now) c := by
  rw [ofConfig] at h
  split at h
  · cases h
  · next hvalid => exact ⟨hvalid, (startConfigured_leads hjoins h).congr_left rfl⟩

end Cluster

end SensorCluster
