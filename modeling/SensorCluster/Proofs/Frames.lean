import SensorCluster.Proofs.Aside
import SensorCluster.Proofs.Runs

/-!
# What operations leave alone

The parts of a cluster are values of their own, and most operations concern few of them. Those on
receivers stand aside from all the other parts. Here is what the other operations leave alone, as
far as somebody relies on it: a registration keeps everybody's shell, a schedule changes no
receiver, and **nobody comes to the coordinator's desk but a route, a pin or the removal of a
sensor** (`step_desk`). The desk is what the coordinator keeps apart from the roster of its
receivers, with what it tells of sensors. So nothing is entered in the ledger but by a route, which
also has the placement to itself (`step_routing`).

The lemmas go along the calls, as those about moves do. For an operation that does not concern the
coordinator at all the frame is the whole coordinator, which is the more useful fact.
-/

namespace SensorCluster

/-- A coordinator without the roster of its receivers. -/
def Coordinator.office (k : Coordinator) : Coordinator := { k with registry := [] }

/-- Does the event tell of a sensor that comes or goes? -/
def Event.isOfSensor : Event → Bool
  | sensorRegistered _ | sensorUnregistered _ => true
  | _ => false

/-- What a coordinator keeps and tells, its receivers apart. -/
structure Desk where
  office : Coordinator
  /-- What was told of sensors, oldest first. -/
  news : List Event

/-- The desk of a cluster. -/
def Cluster.desk (c : Cluster) : Desk :=
  ⟨c.coordinator.office, c.bus.published.toList.filter Event.isOfSensor⟩

namespace Cluster

variable {c : Cluster}

/-! ### Registration -/

/-- A restore takes data, which are not part of the shell. -/
theorem restoreFromBestPeer_shell (ref other : ReplicaRef) :
    ((c.restoreFromBestPeer ref).2.replica other).shell = (c.replica other).shell := by
  rw [restoreFromBestPeer]
  dsimp only
  split
  · rfl
  · next peer _ =>
    have hshell : ((c.restore ref (c.snapshot peer)).2.replica other).shell =
        (c.replica other).shell :=
      Fleet.apply_get_set Replica.shell ((c.replica ref).restore_shell (c.snapshot peer)) other
    split <;> exact hshell

/-- Who joins the pool keeps its shell, restored or not. -/
theorem joinPool_shell (ref other : ReplicaRef) :
    ((c.joinPool ref).2.replica other).shell = (c.replica other).shell := by
  rw [joinPool]
  split
  · rfl
  · dsimp only
    split
    · exact restoreFromBestPeer_shell ref other
    · rfl

/-- A registration adds the receiver at most, and leaves everybody's shell as it is. It is none of
the fault tolerance's business. -/
theorem register_frame (ref : ReplicaRef) :
    (∃ extra : Roster, extra.length ≤ 1 ∧ (∀ other ∈ extra, other = ref) ∧
      (c.register ref).2.coordinator.registry = c.coordinator.registry ++ extra) ∧
    (c.register ref).2.healing = c.healing ∧
    ∀ other, ((c.register ref).2.replica other).shell = (c.replica other).shell := by
  obtain ⟨-, lines, heq⟩ | ⟨-, lines, heq⟩ := c.register_cases ref <;> rw [heq]
  · -- one of its id is registered
    refine ⟨⟨[], Nat.zero_le _, fun _ hother ↦ absurd hother List.not_mem_nil, ?_⟩, rfl,
      fun _ ↦ rfl⟩
    exact (List.append_nil _).symm
  · set c₁ := c.modifyCoordinator fun k ↦ { k with registry := c.coordinator.registry ++ [ref] }
    have hjoined : c₁.Aside (c₁.joinPool ref).2 := joinPool_aside ref
    refine ⟨⟨[ref], Nat.le_refl _, fun _ hother ↦ List.mem_singleton.1 hother, ?_⟩,
      hjoined.healing, joinPool_shell ref⟩
    exact congrArg Coordinator.registry hjoined.coordinator

/-! ### Scheduling -/

/-- A schedule only marks the receiver, which it may be already. -/
theorem scheduleRecovery_frame (id : String) :
    (c.scheduleRecovery id).2.fleet = c.fleet ∧
      (c.scheduleRecovery id).2.coordinator = c.coordinator ∧
      ∀ other, other ∈ (c.scheduleRecovery id).2.healing.pending ↔
        other ∈ c.healing.pending ∨ other = id := by
  rcases c.scheduleRecovery_cases id with ⟨hmarked, lines, heq⟩ | ⟨-, lines, heq⟩ <;> rw [heq]
  · refine ⟨rfl, rfl, fun other ↦ ⟨.inl, fun hother ↦ ?_⟩⟩
    rcases hother with hother | rfl
    · exact hother
    · exact hmarked
  · refine ⟨rfl, rfl, fun other ↦ ?_⟩
    show other ∈ c.healing.pending ++ [id] ↔ _
    rw [List.mem_append, List.mem_singleton]

/-- The schedule changes no receiver, and marks the given ids. -/
theorem scheduleRecoveries_frame (scheduled : Nat) (ids : List String) :
    (c.scheduleRecoveries scheduled ids).2.fleet = c.fleet ∧
      (c.scheduleRecoveries scheduled ids).2.coordinator = c.coordinator ∧
      ∀ other, other ∈ (c.scheduleRecoveries scheduled ids).2.healing.pending ↔
        other ∈ c.healing.pending ∨ other ∈ ids := by
  induction ids generalizing c scheduled with
  | nil => exact ⟨rfl, rfl, fun other ↦ by simp [scheduleRecoveries]⟩
  | cons id rest ih =>
    obtain ⟨hfleet, hcoordinator, hmarks⟩ := scheduleRecovery_frame (c := c) id
    obtain ⟨hfleet', hcoordinator', hmarks'⟩ :=
      ih (c := (c.scheduleRecovery id).2) (scheduled + (c.scheduleRecovery id).1.toNat)
    refine ⟨hfleet'.trans hfleet, hcoordinator'.trans hcoordinator, fun other ↦ ?_⟩
    refine (hmarks' other).trans ?_
    rw [hmarks other, List.mem_cons, or_assoc]

/-- The report names the registered receivers that are not healthy. -/
theorem mem_unhealthyIds {id : String} : id ∈ c.health.unhealthyIds ↔
    ∃ ref ∈ c.coordinator.registry, (c.replica ref).isHealthy = false ∧
      (c.replica ref).id = id := by
  simp [health, and_assoc]

/-- After a health check has scheduled, the unhealthy are marked. -/
theorem afterScheduling_frame (c : Cluster) : c.afterScheduling.fleet = c.fleet ∧
    c.afterScheduling.coordinator = c.coordinator ∧
    ∀ id, id ∈ c.afterScheduling.healing.pending ↔
      id ∈ c.healing.pending ∨ id ∈ c.health.unhealthyIds :=
  scheduleRecoveries_frame _ _

/-! ### The coordinator -/

/-- A slot that is given up is told of, by the fault tolerance. -/
theorem reportAbandoned_coordinator (abandoned : List Abandonment) :
    (c.reportAbandoned abandoned).coordinator = c.coordinator := by
  induction abandoned generalizing c with
  | nil => rfl
  | cons a rest ih => exact ih

/-- A delivered receiver is no registered one. -/
theorem provision_coordinator : c.provision.2.coordinator = c.coordinator := by
  rcases c.provision_cases with ⟨r, lines, -, heq⟩ | ⟨cause, lines, -, heq⟩ |
    ⟨text, lines, -, heq⟩ <;>
    rw [heq]
  · exact reportAbandoned_coordinator _
  · exact reportAbandoned_coordinator _
  · rfl

/-! ### The desk -/

/-- An event that is not of a sensor does not come to the desk. -/
theorem desk_publish {e : Event} (h : e.isOfSensor = false) : (c.publish e).desk = c.desk := by
  refine congrArg (Desk.mk c.coordinator.office) ?_
  rw [published_publish, List.filter_append, List.filter_cons_of_neg (by simp [h])]
  exact List.append_nil _

/-- Operations on receivers alone do not come to the desk, -/
theorem Aside.desk {c' : Cluster} (h : c.Aside c') : c'.desk = c.desk := by
  rw [Cluster.desk, h.coordinator, h.bus]
  rfl

/-- registrations do not, -/
theorem register_desk (ref : ReplicaRef) : (c.register ref).2.desk = c.desk := by
  obtain ⟨-, lines, heq⟩ | ⟨-, lines, heq⟩ := c.register_cases ref <;> rw [heq]
  · rfl
  · refine (desk_publish rfl).trans ?_
    exact (joinPool_aside (c := c.modifyCoordinator _) ref).desk

/-- nor does it matter who is unregistered. -/
theorem unregister_desk (id : String) : (c.unregister id).2.desk = c.desk := by
  obtain heq | ⟨ref, lines, -, heq⟩ := c.unregister_cases id
  · rw [heq]
  · rw [heq]
    exact desk_publish rfl

theorem reportAbandoned_desk (abandoned : List Abandonment) :
    (c.reportAbandoned abandoned).desk = c.desk :=
  List.foldlRecOn (motive := fun c' : Cluster ↦ c'.desk = c.desk) _ _ rfl
    fun _ h _ _ ↦ (desk_publish rfl).trans h

/-- The pool has nothing to do with sensors, -/
theorem provision_desk : c.provision.2.desk = c.desk := by
  rcases c.provision_cases with ⟨r, lines, -, heq⟩ | ⟨cause, lines, -, heq⟩ |
    ⟨text, lines, -, heq⟩ <;>
    rw [heq]
  · exact reportAbandoned_desk _
  · exact reportAbandoned_desk _
  · rfl

theorem releaseSlot_desk (id : String) : (c.releaseSlot id).desk = c.desk :=
  reportAbandoned_desk _

theorem takenOff_desk (ref : ReplicaRef) : (c.takenOff ref).desk = c.desk :=
  (releaseSlot_desk _).trans ((retire_aside ref).desk.trans (unregister_desk _))

/-- so recoveries have not either. -/
theorem recoveryRespects_desk : RecoveryRespects fun c c' : Cluster ↦ c'.desk = c.desk where
  refl _ := rfl
  trans h h' := h'.trans h
  write _ _ := rfl
  restarted _ := rfl
  replaced _ := rfl
  -- of the events none is of a sensor
  tellRecovered _ _ := desk_publish rfl
  tellReplaced _ _ _ := desk_publish rfl
  tellFailure _ _ _ := desk_publish rfl
  recover _ ref := (recover_aside ref).desk
  restore _ ref := (restoreFromBestPeer_aside ref).desk
  takenOff {_ ref} _ := takenOff_desk ref
  refused {c _ _} h := by
    have hprovision : c.provision.2.desk = c.desk := provision_desk
    rwa [h] at hprovision
  delivered {c _ ref} lines h := by
    have hprovision : c.provision.2.desk = c.desk := provision_desk
    rw [h] at hprovision
    exact (register_desk ref).trans hprovision

/-- **No upkeep hears of sensors**, so it leaves the desk alone, and so does the passing of time. -/
theorem nodeRespects_desk : NodeRespects fun c c' : Cluster ↦ c'.desk = c.desk where
  __ := recoveryRespects_desk
  start _ ref := (start_aside ref).desk
  stop _ ref := (stop_aside ref).desk
  detach _ ref := (detach_aside ref).desk
  retire _ ref := (retire_aside ref).desk
  syncCycle _ := syncCycle_aside.desk
  backupCycle _ := (backups_aside 0 _).desk
  recoveryScan _ := recoveryScan_aside.desk
  checked _ := rfl
  marked _ := rfl
  unmarked _ _ := rfl
  flagged _ _ := rfl
  startedReplication _ := rfl
  startedHealing _ := rfl
  withAgenda _ _ := rfl
  subscribe _ _ := rfl
  unsubscribe _ _ := rfl

/-- **Only a route, a pin or the removal of a sensor comes to the desk.** -/
theorem step_desk {op : Operation} (hroute : ∀ m host port, op ≠ .route m host port)
    (hpin : ∀ id, op ≠ .pin id) (hremoval : ∀ sensor, op ≠ .unregisterSensor sensor) :
    (c.step op).desk = c.desk := by
  cases op with
  | register r => exact register_desk _
  | unregister id => exact unregister_desk id
  | route m host port => exact absurd rfl (hroute m host port)
  | pin id => exact absurd rfl (hpin id)
  | unregisterSensor sensor => exact absurd rfl (hremoval sensor)
  | provision => exact provision_desk
  | _ => exact nodeRespects_desk.step c trivial

/-! ### The ledger and the placement -/

/-- To forget a sensor leaves the placement and the counts alone. -/
theorem unregisterSensor_routing (sensor : String) :
    (c.unregisterSensor sensor).2.coordinator.routing = c.coordinator.routing := by
  have hremoved : (c.withdraw sensor).2.coordinator.routing = c.coordinator.routing := by
    rw [(c.withdraw_aside sensor).coordinator]
    rfl
  rcases c.unregisterSensor_cases sensor with ⟨-, -, heq⟩ | ⟨-, lines, heq⟩ <;> rw [heq] <;>
    exact hremoved

/-- **Only a route makes an entry in the ledger**, and only a route or a pin changes the
placement. -/
theorem step_routing {op : Operation} (hroute : ∀ m host port, op ≠ .route m host port)
    (hpin : ∀ id, op ≠ .pin id) : (c.step op).coordinator.routing = c.coordinator.routing := by
  by_cases hremoval : ∃ sensor, op = .unregisterSensor sensor
  · obtain ⟨sensor, rfl⟩ := hremoval
    exact unregisterSensor_routing sensor
  · exact congrArg (·.office.routing)
      (step_desk hroute hpin fun sensor heq ↦ hremoval ⟨sensor, heq⟩)

/-- **Nothing is entered in the ledger but by a route.** -/
theorem step_ledger {op : Operation} (h : ∀ m host port, op ≠ .route m host port) :
    (c.step op).coordinator.ledger = c.coordinator.ledger := by
  cases op with
  | pin id => rfl
  | _ => exact congrArg Routing.ledger (step_routing h fun id hpin ↦ by cases hpin)

end Cluster

end SensorCluster
