import SensorCluster.Proofs.HealingCalls

/-!
# The upkeep of a node

An `Operation` is one call from outside: a receiver is registered, a message routed, a task of the
replication or of the fault tolerance is run by hand, time passes. `Cluster.run` makes several
calls, one after the other.

Time is an operation like any other. Letting it pass is a sequence of moments, in each of which the
clock moves or a task runs (`Host.exists_moments`), so a relation that each duty respects is
respected by the loop over the agenda (`Host.Respects.advance`).

**Most operations are upkeep**: receivers are started and stopped, synced and recovered, tasks run,
and nobody comes or goes but by the fault tolerance. What upkeep consists of is gone through here
once (`NodeRespects`). A theory that relates the clusters before and after an operation says what
the parts of upkeep do; for upkeep it then has `NodeRespects.step`, for the passing of time
`NodeRespects.host`, and it is left with the calls that register a receiver or unregister it, ask
the pool for one, route a message or concern a sensor.
-/

namespace SensorCluster

/-! ### Worlds in time -/

namespace Host

variable {J S : Type} {h : Host J S} {R : S → S → Prop}

/-- What happens while time passes. -/
inductive Moment
  /-- Time begins to pass, and the tasks that cannot run are over. -/
  | settle
  /-- The clock moves. -/
  | wait (now : Nat)
  /-- The task of a number runs. -/
  | run (id : Nat)

/-- What a moment does to a world. -/
def live (h : Host J S) (s : S) : Moment → S
  | .settle => h.modify s Agenda.dropUnrunnable
  | .wait now => h.moveTo s now
  | .run id => h.runTask s id

/-- What several moments do, one after the other. -/
def liveAll (h : Host J S) (s : S) (moments : List Moment) : S := moments.foldl h.live s

theorem liveAll_append (s : S) (moments more : List Moment) :
    h.liveAll s (moments ++ more) = h.liveAll (h.liveAll s moments) more :=
  List.foldl_append

/-- The tasks that are due now run one after the other. -/
theorem runDueOnce_eq_liveAll (s : S) :
    h.runDueOnce s = h.liveAll s ((h.agenda s).due.map .run) := by
  rw [liveAll, List.foldl_map]
  rfl

/-- Tasks may make others due, so there are as many rounds as fuel. -/
theorem exists_moments_runDue (s : S) : ∃ moments, h.runDue s = h.liveAll s moments := by
  refine ⟨(h.agenda s).due.map .run ++ (h.agenda (h.runDueOnce s)).due.map .run, ?_⟩
  rw [liveAll_append, ← runDueOnce_eq_liveAll, ← runDueOnce_eq_liveAll]
  rfl

/-- Up to the horizon the clock moves to the next task, which then runs. -/
theorem exists_moments_runThrough (horizon rounds : Nat) (s : S) :
    ∃ moments, h.runThrough horizon rounds s = h.liveAll s moments := by
  -- one round is a wait, what is due then, and the rounds that are left
  induction rounds generalizing s with
  | zero => exact exists_moments_runDue s
  | succ rounds ih =>
    obtain ⟨moments, hdue⟩ := exists_moments_runDue (h := h) s
    rw [runThrough]
    split
    · exact ⟨moments, hdue⟩
    · next now _ =>
      obtain ⟨more, hrest⟩ := ih (h.moveTo (h.runDue s) now)
      refine ⟨moments ++ .wait now :: more, ?_⟩
      rw [liveAll_append, ← hdue]
      exact hrest

/-- **Letting time pass is a sequence of moments.** -/
theorem exists_moments (ms : Nat) (s : S) : ∃ moments, h.advance ms s = h.liveAll s moments := by
  rw [advance]
  split
  · exact ⟨[], rfl⟩
  · set settled := h.modify s Agenda.dropUnrunnable
    set horizon := (h.agenda settled).now + ms
    obtain ⟨moments, hrun⟩ := exists_moments_runThrough (h := h) horizon ms settled
    refine ⟨.settle :: moments ++ [.wait horizon], ?_⟩
    rw [liveAll_append, show h.liveAll s (.settle :: moments) = h.liveAll settled moments from rfl,
      ← hrun]
    rfl

/-- A relation between earlier and later worlds that holds whatever a task does, and that does not
depend on the agenda and the log. -/
structure Respects (h : Host J S) (R : S → S → Prop) : Prop where
  refl : ∀ s, R s s
  trans : ∀ {s t u}, R s t → R t u → R s u
  withAgenda : ∀ s agenda, R s (h.withAgenda s agenda)
  perform : ∀ job s, R s (h.perform job s).2.2
  log : ∀ s lines, R s (h.log s lines)

/-- A change of the agenda is respected, -/
theorem Respects.modify (hR : h.Respects R) (s : S) (f : Agenda J → Agenda J) :
    R s (h.modify s f) :=
  hR.withAgenda s _

/-- a task that runs is respected, with its outcome noted and logged, -/
theorem Respects.runTask (hR : h.Respects R) (s : S) (id : Nat) : R s (h.runTask s id) := by
  rw [Host.runTask]
  split
  · exact hR.refl s
  · next t _ =>
    -- the agenda is written before and after the duty, and the log at the end
    have hbefore := hR.modify s fun a ↦ a.update id Agenda.afterRun
    have hrun := hR.perform t.job (h.modify s fun a ↦ a.update id Agenda.afterRun)
    exact hR.trans (hR.trans (hR.trans hbefore hrun) (hR.modify _ _)) (hR.log _ _)

/-- so a moment is, -/
theorem Respects.live (hR : h.Respects R) (s : S) (moment : Moment) : R s (h.live s moment) := by
  cases moment with
  | settle => exact hR.modify s Agenda.dropUnrunnable
  | wait now => exact hR.modify s fun a ↦ { a with now }
  | run id => exact hR.runTask s id

/-- and so are several. -/
theorem Respects.liveAll (hR : h.Respects R) (s : S) (moments : List Moment) :
    R s (h.liveAll s moments) := by
  induction moments generalizing s with
  | nil => exact hR.refl s
  | cons moment rest ih => exact hR.trans (hR.live s moment) (ih _)

/-- Whatever each task respects, the passing of time respects. -/
theorem Respects.advance (hR : h.Respects R) (ms : Nat) (s : S) : R s (h.advance ms s) := by
  obtain ⟨moments, heq⟩ := exists_moments (h := h) ms s
  rw [heq]
  exact hR.liveAll s moments

end Host

/-! ### Operations -/

/-- A call from outside. -/
inductive Operation
  /-- A new receiver is created and registered. -/
  | register (r : Replica)
  | unregister (id : String)
  | route (m : Message) (host : String) (port : UInt16)
  /-- From now on messages go to this receiver, until one is not accepted. -/
  | pin (id : String)
  | unregisterSensor (sensor : String)
  | start (ref : ReplicaRef)
  | stop (ref : ReplicaRef)
  | detach (ref : ReplicaRef)
  | recover (ref : ReplicaRef)
  | retire (ref : ReplicaRef)
  | sync
  | backup
  | recoveryScan
  | healthCheck
  | recoverReceiver (id : String)
  /-- The recovery that a health check scheduled is run, at whatever time. -/
  | runRecovery (id : String)
  | enforceFloor
  | provision
  | loadCheck
  | subscribe (observer : Observer)
  | unsubscribe (id : ObserverId)
  | startNode
  | stopReplication (grace : UInt64)
  | stopHealing (grace : UInt64)
  | shutdownNode
  /-- So many milliseconds pass. -/
  | advance (ms : Nat)

/-- Which operations a run may use: only receivers that may join are registered, and only messages
that may arrive are routed. -/
def Operation.Allowed (joins : Replica → Prop) (arrives : Message → Prop) : Operation → Prop
  | register r => joins r
  | route m _ _ => arrives m
  | _ => True

/-- An operation that is allowed routes a message, or it is allowed where no message arrives. -/
theorem Operation.Allowed.route_or {joins : Replica → Prop} {op : Operation}
    (h : op.Allowed joins fun _ ↦ True) :
    (∃ m host port, op = .route m host port) ∨ op.Allowed joins fun _ ↦ False := by
  cases op with
  | route m host port => exact .inl ⟨m, host, port, rfl⟩
  | register r => exact .inr h
  | _ => exact .inr trivial

/-- Does it neither bring in nor remove anybody, route a message or concern a sensor? Most
operations are of this kind. -/
def Operation.IsUpkeep : Operation → Prop
  | register _ | unregister _ | route _ _ _ | pin _ | unregisterSensor _ | provision => False
  | _ => True

namespace Cluster

/-- What an operation does. -/
def step (c : Cluster) : Operation → Cluster
  | .register r => ((c.create r).2.register (c.create r).1).2
  | .unregister id => (c.unregister id).2
  | .route m host port => (c.tryRoute m host port).2
  | .pin id => c.modifyCoordinator fun k ↦
    { k with placement := { k.placement with pin := some id } }
  | .unregisterSensor sensor => (c.unregisterSensor sensor).2
  | .start ref => (c.start ref).2
  | .stop ref => (c.stop ref).2
  | .detach ref => c.detach ref
  | .recover ref => (c.recover ref).2
  | .retire ref => c.retire ref
  | .sync => c.syncCycle.2
  | .backup => c.backupCycle.2
  | .recoveryScan => c.recoveryScan.2
  | .healthCheck => c.healthCheck.2
  | .recoverReceiver id => (c.recoverReceiver id).2
  | .runRecovery id => (c.runRecovery id).2
  | .enforceFloor => c.enforceFloor.2
  | .provision => c.provision.2
  | .loadCheck => c.loadCheck.2
  | .subscribe observer => (c.subscribe observer).2
  | .unsubscribe id => (c.unsubscribe id).2
  | .startNode => c.startNode
  | .stopReplication grace => c.stopReplication grace
  | .stopHealing grace => c.stopHealing grace
  | .shutdownNode => c.shutdownNode
  | .advance ms => c.advance ms

/-- What several operations do, one after the other. -/
def run (c : Cluster) (ops : List Operation) : Cluster := ops.foldl step c

theorem run_append (c : Cluster) (ops more : List Operation) :
    c.run (ops ++ more) = (c.run ops).run more :=
  List.foldl_append

/-- As a task a health check does what it does by hand, however it ends. -/
theorem perform_healthCheck (c : Cluster) :
    (c.perform .healthCheck).2 = (.healthCheck, c.healthCheck.2) := by
  rw [perform]
  rcases c.healthCheck with ⟨(cause | text) | report, c₁⟩ <;> rfl

/-! ### What upkeep respects -/

/-- The parts of which the upkeep of a node consists respect a relation. -/
structure NodeRespects (R : Cluster → Cluster → Prop) : Prop extends RecoveryRespects R where
  start (c : Cluster) (ref : ReplicaRef) : R c (c.start ref).2
  stop (c : Cluster) (ref : ReplicaRef) : R c (c.stop ref).2
  detach (c : Cluster) (ref : ReplicaRef) : R c (c.detach ref)
  retire (c : Cluster) (ref : ReplicaRef) : R c (c.retire ref)
  syncCycle (c : Cluster) : R c c.syncCycle.2
  backupCycle (c : Cluster) : R c c.backupCycle.2
  recoveryScan (c : Cluster) : R c c.recoveryScan.2
  checked (c : Cluster) :
    R c (c.countHealing fun n ↦ { n with healthChecks := n.healthChecks.increment })
  marked {c : Cluster} {id : String} : id ∉ c.healing.pending → R c (c.markedFor id)
  unmarked (c : Cluster) (id : String) :
    R c (c.modifyHealing fun h ↦ { h with pending := h.pending.filter (· ≠ id) })
  flagged (c : Cluster) (flags : UInt64) :
    R c (c.countHealing fun n ↦ { n with imbalanceFlags := n.imbalanceFlags.add flags })
  startedReplication (c : Cluster) :
    R c { c with replication := { c.replication with started := true } }
  startedHealing (c : Cluster) : R c (c.modifyHealing fun h ↦ { h with started := true })
  withAgenda (c : Cluster) (agenda : Agenda Duty) : R c { c with agenda }
  subscribe (c : Cluster) (observer : Observer) : R c (c.subscribe observer).2
  unsubscribe (c : Cluster) (id : ObserverId) : R c (c.unsubscribe id).2

namespace NodeRespects

variable {R : Cluster → Cluster → Prop} (hR : NodeRespects R)

include hR

/-! ### The fault tolerance -/

/-- A recovery that runs is tried, and its failure logged. -/
theorem runRecovery (c : Cluster) (id : String) : R c (c.runRecovery id).2 := by
  obtain ⟨lines, heq⟩ := c.runRecovery_eq id
  rw [heq]
  exact hR.trans (hR.trans (hR.recoverReceiver c id) (hR.write _ lines)) (hR.unmarked _ id)

/-- A recovery is marked and put on the agenda, or nothing is done. -/
theorem scheduleRecovery (c : Cluster) (id : String) : R c (c.scheduleRecovery id).2 := by
  rcases c.scheduleRecovery_cases id with ⟨-, lines, heq⟩ | ⟨hnew, lines, heq⟩ <;> rw [heq]
  · exact hR.write c lines
  · exact hR.trans (hR.marked hnew) (hR.write _ lines)

theorem afterScheduling (c : Cluster) : R c c.afterScheduling :=
  hR.trans (hR.checked c) (scheduleRecoveries_respects hR.refl hR.trans hR.scheduleRecovery _ 0 _)

/-- A health check schedules recoveries and then fills up to the floor. -/
theorem healthCheck (c : Cluster) : R c c.healthCheck.2 := by
  rw [(healthCheck_spec c).1]
  exact hR.trans (hR.afterScheduling c) (hR.enforceFloor _)

/-- A load check tells of an imbalance, and changes nothing. -/
theorem loadCheck (c : Cluster) : R c c.loadCheck.2 := by
  rcases c.loadCheck_cases with heq | ⟨lines, flags, heq⟩ <;> rw [heq]
  · exact hR.refl c
  · exact hR.trans (hR.write c lines) (hR.flagged _ flags)

/-! ### Tasks -/

/-- **Each duty** does one thing that is respected. -/
theorem perform (c : Cluster) (duty : Duty) : R c (c.perform duty).2.2 := by
  cases duty with
  | sync => exact hR.syncCycle c
  | backup => exact hR.backupCycle c
  | recoveryScan => exact hR.trans (hR.recoveryScan c) (hR.write _ _)
  | healthCheck =>
    rw [perform_healthCheck]
    exact hR.healthCheck c
  | loadBalance => exact hR.loadCheck c
  | recover id => exact hR.runRecovery c id
  | statusReport => exact hR.write c _

/-- So the loop over the agenda is respected. -/
theorem host : Cluster.host.Respects R where
  refl := hR.refl
  trans := hR.trans
  withAgenda := hR.withAgenda
  perform duty c := hR.perform c duty
  log := hR.write

/-- To start a group of tasks is to put them on the agenda. -/
theorem startReplication (c : Cluster) : R c c.startReplication := by
  rw [Cluster.startReplication]
  split
  · exact hR.refl c
  · exact hR.trans (hR.trans (hR.startedReplication c) (hR.write _ _)) (hR.withAgenda _ _)

theorem startHealing (c : Cluster) : R c c.startHealing := by
  rw [Cluster.startHealing]
  split
  · exact hR.refl c
  · exact hR.trans (hR.trans (hR.startedHealing c) (hR.write _ _)) (hR.withAgenda _ _)

theorem startNode (c : Cluster) : R c c.startNode :=
  hR.trans (hR.trans (hR.write c _) (hR.startReplication _)) (hR.startHealing _)

theorem stopGroup (c : Cluster) (group : String) (grace : UInt64) : R c (c.stopGroup group grace) :=
  hR.trans (hR.withAgenda c _) (hR.write _ _)

theorem stopReceivers (c : Cluster) : R c c.stopReceivers :=
  List.foldlRecOn (motive := R c) _ _ (hR.refl c) fun _ h ref _ ↦ hR.trans h (hR.stop _ ref)

/-- A shutdown stops the receivers and both groups of tasks. -/
theorem shutdownNode (c : Cluster) : R c c.shutdownNode := by
  have hstopped (c : Cluster) (grace : UInt64) :
      R c ((c.stopHealing grace).stopReplication grace) :=
    hR.trans (hR.stopGroup c _ grace) (hR.stopGroup _ _ grace)
  exact hR.trans (hR.trans (hR.trans (hR.write c _) (hstopped _ _)) (hR.stopReceivers _))
    (hR.write _ _)

/-! ### Operations -/

/-- **Upkeep respects what its parts respect.** -/
theorem step (c : Cluster) {op : Operation} (h : op.IsUpkeep) : R c (c.step op) := by
  -- the six operations of the first line are no upkeep; each other one is a part of it
  cases op with
  | register | unregister | route | pin | unregisterSensor | provision => exact h.elim
  | start ref => exact hR.start c ref
  | stop ref => exact hR.stop c ref
  | detach ref => exact hR.detach c ref
  | recover ref => exact hR.recover c ref
  | retire ref => exact hR.retire c ref
  | sync => exact hR.syncCycle c
  | backup => exact hR.backupCycle c
  | recoveryScan => exact hR.recoveryScan c
  | healthCheck => exact hR.healthCheck c
  | recoverReceiver id => exact hR.recoverReceiver c id
  | runRecovery id => exact hR.runRecovery c id
  | enforceFloor => exact hR.enforceFloor c
  | loadCheck => exact hR.loadCheck c
  | subscribe observer => exact hR.subscribe c observer
  | unsubscribe id => exact hR.unsubscribe c id
  | startNode => exact hR.startNode c
  | stopReplication grace => exact hR.stopGroup c _ grace
  | stopHealing grace => exact hR.stopGroup c _ grace
  | shutdownNode => exact hR.shutdownNode c
  | advance ms => exact hR.host.advance ms c

end NodeRespects

end Cluster

end SensorCluster
