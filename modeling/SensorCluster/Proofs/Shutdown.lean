import SensorCluster.Proofs.SlotRegistry

/-!
# Shutdown is final

A node that was shut down runs none of its receivers, and **time brings none of them back**: however
long and however split it passes, nothing changes but the clock and the log (`shutdown_final`).
There could be recoveries under way, and the loops of the replication and the fault tolerance were
about to restart what the shutdown stopped.

## The way there

Every task that does anything is in one of the two groups that a shutdown stops
(`Agenda.IsGrouped`). That is so after any history. What is left on the agenda afterwards are status
reports (`Agenda.IsIdle`), and a report only writes to the log.
-/

namespace SensorCluster

open Cluster (healingGroup replicationGroup)

namespace Agenda

variable {a : Agenda Duty} {t : Task Duty}

/-- Are there only status reports to come? -/
def IsIdle (a : Agenda Duty) : Prop := ∀ t ∈ a.tasks, t.2.job = .statusReport

/-- Does whatever is more than a status report belong to the replication or to the fault
tolerance? -/
def IsGrouped (a : Agenda Duty) : Prop :=
  ∀ t ∈ a.tasks, t.2.job = .statusReport ∨ t.2.group = replicationGroup ∨ t.2.group = healingGroup

theorem IsGrouped.filter (h : a.IsGrouped) (p : Nat × Task Duty → Bool) :
    IsGrouped { a with tasks := a.tasks.filter p } :=
  fun t ht ↦ h t (List.mem_filter.1 ht).1

/-- A task may join the agenda if it only reports, or is of a group that a shutdown stops. -/
theorem IsGrouped.spawn (h : a.IsGrouped)
    (ht : t.job = .statusReport ∨ t.group = replicationGroup ∨ t.group = healingGroup) :
    (a.spawn t).IsGrouped := by
  intro other hother
  rcases List.mem_append.1 hother with hother | hother
  · exact h other hother
  -- The new task comes last, behind the others.
  · rw [List.mem_singleton.1 hother]
    exact ht

theorem IsGrouped.spawnFirst (h : a.IsGrouped) (ht : t.job = .statusReport) :
    (a.spawnFirst t).IsGrouped :=
  List.forall_mem_cons.2 ⟨.inl ht, h⟩

/-- A task that has run is the task that it was. -/
theorem IsGrouped.update_afterRun (h : a.IsGrouped) (n : Nat) :
    (a.update n afterRun).IsGrouped := by
  intro other hother
  rcases mem_update hother with hother | ⟨t, hother, hrun⟩
  · exact h other hother
  · obtain ⟨p, -, heq⟩ := Option.map_eq_some_iff.1 hrun
    rw [← heq]
    exact h _ hother

/-- **Once both groups are shut down there are only status reports to come.** -/
theorem IsGrouped.isIdle_shutdown (h : a.IsGrouped) :
    ((a.shutdown healingGroup).shutdown replicationGroup).IsIdle := by
  intro t ht
  obtain ⟨hhealing, hreplication⟩ := List.mem_filter.1 ht
  obtain ⟨hmem, hhealing⟩ := List.mem_filter.1 hhealing
  refine (h t hmem).resolve_right (not_or.2 ⟨?_, ?_⟩)
  · simpa using hreplication
  · simpa using hhealing

theorem IsIdle.filter (h : a.IsIdle) (p : Nat × Task Duty → Bool) :
    IsIdle { a with tasks := a.tasks.filter p } :=
  fun t ht ↦ h t (List.mem_filter.1 ht).1

/-- A report whose time is set anew is still a report. -/
theorem IsIdle.update (h : a.IsIdle) (n : Nat) {f : Task Duty → Option (Task Duty)}
    (hf : ∀ t t', t.job = .statusReport → f t = some t' → t'.job = .statusReport) :
    (a.update n f).IsIdle := by
  intro other hother
  rcases mem_update hother with hother | ⟨t, hother, hrun⟩
  · exact h other hother
  · exact hf t other.2 (h _ hother) hrun

end Agenda

namespace Docket

/-- Recoveries are jobs of the fault tolerance, so scheduling them keeps the agenda in groups. -/
theorem isGrouped_scheduleAll {d : Docket} (h : d.agenda.IsGrouped) (delay : Nat)
    (ids : List String) : (d.scheduleAll delay ids).agenda.IsGrouped := by
  induction ids generalizing d with
  | nil => exact h
  | cons id rest ih =>
    by_cases hpending : id ∈ d.pending
    · rw [scheduleAll_cons_mem delay hpending]
      exact ih h
    · rw [scheduleAll_cons_new delay hpending]
      exact ih (h.spawn (.inr (.inr rfl)))

end Docket

namespace Cluster

variable {c c' : Cluster}

/-! ### Who is on the agenda -/

/-- As time passes tasks only run, end or wait, and a health check schedules recoveries. -/
theorem live_isGrouped (htidy : c.docket.Tidy) (h : c.agenda.IsGrouped) (m : Host.Moment) :
    (host.live c m).agenda.IsGrouped := by
  cases m with
  | settle => exact h.filter _
  | wait now => exact h
  | run n =>
    show (host.runTask c n).docket.agenda.IsGrouped
    cases htask : c.agenda.task? n with
    | none =>
      rw [Host.runTask, show (host.agenda c).task? n = none from htask]
      exact h
    | some t =>
      rw [runTask_docket htidy (Agenda.mem_of_task? htask)]
      exact Docket.isGrouped_scheduleAll (d := c.docket.finish n t.job) (h.update_afterRun n) _ _

theorem liveAll_isGrouped (htidy : c.docket.Tidy) (h : c.agenda.IsGrouped)
    (moments : List Host.Moment) : (host.liveAll c moments).agenda.IsGrouped := by
  induction moments generalizing c with
  | nil => exact h
  | cons m rest ih => exact ih (htidy.run (live_docket htidy m)) (live_isGrouped htidy h m)

/-- The loops that a node starts are all in the two groups. -/
theorem startNode_isGrouped (h : c.agenda.IsGrouped) : c.startNode.agenda.IsGrouped := by
  have hreplication : ∀ {c : Cluster}, c.agenda.IsGrouped →
      c.startReplication.agenda.IsGrouped := by
    intro c h
    rw [startReplication]
    split
    · exact h
    -- Three loops of the replication, unless they run already.
    · exact ((h.spawn (.inr (.inl rfl))).spawn (.inr (.inl rfl))).spawn (.inr (.inl rfl))
  have hhealing : ∀ {c : Cluster}, c.agenda.IsGrouped → c.startHealing.agenda.IsGrouped := by
    intro c h
    rw [startHealing]
    split
    · exact h
    -- And two of the fault tolerance.
    · exact (h.spawn (.inr (.inr rfl))).spawn (.inr (.inr rfl))
  exact hhealing (hreplication (c := c.write _) h)

/-- A shutdown stops both groups and leaves the rest of the agenda alone. -/
theorem shutdownNode_agenda :
    c.shutdownNode.agenda = (c.agenda.shutdown healingGroup).shutdown replicationGroup := by
  have hreceivers : ∀ c : Cluster, c.stopReceivers.agenda = c.agenda :=
    fun _ ↦ congrArg Docket.agenda stopReceivers_aside.docket
  exact hreceivers _

/-- A call that schedules anything does so in one of the groups. -/
theorem step_isGrouped (htidy : c.docket.Tidy) (h : c.agenda.IsGrouped) {op : Operation}
    (hcall : Request.IsCall (.operation op)) : (c.step op).agenda.IsGrouped := by
  by_cases hschedules : op.schedules = true
  · cases op with
    | healthCheck =>
      show c.healthCheck.2.docket.agenda.IsGrouped
      rw [healthCheck_docket]
      exact Docket.isGrouped_scheduleAll (d := c.docket) h _ _
    | runRecovery => exact hcall.elim
    | startNode => exact startNode_isGrouped h
    | stopReplication | stopHealing => exact h.filter _
    | shutdownNode =>
      show c.shutdownNode.agenda.IsGrouped
      rw [shutdownNode_agenda]
      exact (h.filter _).filter _
    | advance ms =>
      -- However long it is, the time that passes is a list of moments.
      obtain ⟨moments, heq⟩ := Host.exists_moments (h := host) ms c
      show (host.advance ms c).agenda.IsGrouped
      rw [heq]
      exact liveAll_isGrouped htidy h moments
    | _ => cases hschedules
  · show (c.step op).docket.agenda.IsGrouped
    rw [step_docket_of_not (Bool.eq_false_iff.2 hschedules)]
    exact h

theorem undergo_isGrouped (htidy : c.docket.Tidy) (h : c.agenda.IsGrouped) (e : Happening) :
    (c.undergo e).agenda.IsGrouped := by
  by_cases hschedules : e.schedules = true
  · cases e with
    | request q hcall =>
      cases q with
      | operation op => exact step_isGrouped htidy h hcall
      | _ => cases hschedules
    | moment m => exact live_isGrouped htidy h m
    | startReports => exact h.spawnFirst rfl
    | endReports => exact h.filter _
    | _ => cases hschedules
  · show (c.undergo e).docket.agenda.IsGrouped
    rw [undergo_docket_of_not (Bool.eq_false_iff.2 hschedules)]
    exact h

/-- After any history whatever is more than a status report belongs to one of the two groups. -/
theorem undergoAll_isGrouped (htidy : c.docket.Tidy) (h : c.agenda.IsGrouped)
    (history : List Happening) : (c.undergoAll history).agenda.IsGrouped := by
  induction history generalizing c with
  | nil => exact h
  | cons e rest ih => exact ih (htidy.run (undergo_docket htidy e)) (undergo_isGrouped htidy h e)

/-! ### Nothing but reports -/

/-- Nothing happened but that the clock moved and lines were written, and only reports are to
come. -/
def Rests (c c' : Cluster) : Prop :=
  c'.agenda.IsIdle ∧ c' = { c with agenda := c'.agenda, log := c'.log }

theorem Rests.trans {c'' : Cluster} (h : c.Rests c') (h' : c'.Rests c'') : c.Rests c'' :=
  ⟨h'.1, by rw [h'.2, h.2]⟩

/-- While there are only reports to come, a moment of time is the clock, or a report that is
written. -/
theorem live_rests (h : c.agenda.IsIdle) (m : Host.Moment) : c.Rests (host.live c m) := by
  cases m with
  | settle => exact ⟨h.filter _, rfl⟩
  | wait now => exact ⟨h, rfl⟩
  | run n =>
    show c.Rests (host.runTask c n)
    rw [Host.runTask]
    split
    · exact ⟨h, rfl⟩
    · next t htask =>
      -- There is no other task left that could run.
      have hreport : t.job = .statusReport := h _ (Agenda.mem_of_task? htask)
      rw [hreport]
      have hran : (c.agenda.update n Agenda.afterRun).IsIdle := by
        refine h.update n fun t t' hjob hrun ↦ ?_
        obtain ⟨p, -, rfl⟩ := Option.map_eq_some_iff.1 hrun
        exact hjob
      refine ⟨hran.update n fun t t' _ hback ↦ ?_, rfl⟩
      rw [← Option.some.inj hback]

theorem liveAll_rests (h : c.agenda.IsIdle) (moments : List Host.Moment) :
    c.Rests (host.liveAll c moments) := by
  induction moments generalizing c with
  | nil => exact ⟨h, rfl⟩
  | cons m rest ih =>
    have hlive := live_rests h m
    exact hlive.trans (ih hlive.1)

/-- So it is for any time that passes. -/
theorem advance_rests (h : c.agenda.IsIdle) (ms : Nat) : c.Rests (c.advance ms) := by
  obtain ⟨moments, heq⟩ := Host.exists_moments (h := host) ms c
  rw [advance, heq]
  exact liveAll_rests h moments

/-- However the time is split, nothing but reports happens. -/
theorem advanceAll_rests (h : c.agenda.IsIdle) (waits : List Nat) :
    c.Rests (waits.foldl advance c) := by
  induction waits generalizing c with
  | nil => exact ⟨h, rfl⟩
  | cons ms rest ih =>
    have hadvance := advance_rests h ms
    exact hadvance.trans (ih hadvance.1)

/-! ### Who is stopped -/

/-- To stop receivers one after the other, whoever may be named twice, is to stop each of them. -/
theorem replica_stopAll {refs : List ReplicaRef} (hheld : ∀ ref ∈ refs, c.fleet.Holds ref)
    (other : ReplicaRef) :
    (refs.foldl (fun c ref ↦ (c.stop ref).2) c).replica other =
      if other ∈ refs then (c.replica other).stop.2 else c.replica other := by
  -- To be stopped a second time changes nothing, so it does not matter who is named twice.
  have htwice : ∀ r : Replica, r.stop.2.stop.2 = r.stop.2 := by
    intro r
    simp only [Replica.stop_snd]
    split <;> simp_all [Replica.isRunning, Lifecycle.isRunning]
  induction refs generalizing c with
  | nil => rfl
  | cons ref rest ih =>
    obtain ⟨href, hrest⟩ := List.forall_mem_cons.1 hheld
    have hstop : (c.stop ref).2.replica other =
        if other = ref then (c.replica ref).stop.2 else c.replica other := Fleet.get_set href ..
    rw [List.foldl_cons, ih fun ref' h' ↦ (Fleet.holds_set ..).2 (hrest ref' h'), hstop]
    by_cases hother : other = ref
    · subst hother
      simp [htwice]
    · simp [hother]

/-- A shutdown stops everybody who is registered and nobody else. -/
theorem replica_shutdownNode (hheld : ∀ ref ∈ c.coordinator.registry, c.fleet.Holds ref)
    (ref : ReplicaRef) :
    c.shutdownNode.replica ref =
      if ref ∈ c.coordinator.registry then (c.replica ref).stop.2 else c.replica ref := by
  -- the groups are shut down before, and that concerns neither receivers nor registry
  have hreceivers : ∀ c' : Cluster, c'.fleet = c.fleet → c'.coordinator = c.coordinator →
      c'.stopReceivers.replica ref =
        if ref ∈ c.coordinator.registry then (c.replica ref).stop.2 else c.replica ref := by
    intro c' hfleet hcoordinator
    have hsame : c'.replica ref = c.replica ref := congrArg (·.get ref) hfleet
    rw [← hfleet, ← hcoordinator] at hheld
    rw [stopReceivers, replica_stopAll hheld, hcoordinator, hsame]
  exact hreceivers (((c.write _).stopHealing _).stopReplication _) rfl rfl

theorem not_isRunning_stop (r : Replica) : r.stop.2.isRunning = false := by
  rw [Replica.stop]
  split
  · rfl
  · next h => exact Bool.eq_false_iff.2 h

/-- **Shutdown is final.** Let a node be built from a valid configuration, and let anything happen
to it: tasks are started or not, receivers fail, recoveries are under way. When it has been shut
down, with whatever grace,

* no registered receiver is running. Who is registered is as he is after a `stop`, and somebody else
  is as he was before;
* nobody at all is running, if it was left to the node who comes and who goes;
* as long as nobody calls, however much time passes and however it is split, nothing changes but the
  agenda and the log: no receiver, no registry, no slot and no counter. -/
theorem shutdown_final {config : Config} {now : WallTime} {c₀ : Cluster}
    (h : ofConfig config now = .ok c₀) (history : List Happening) :
    let c := c₀.undergoAll history
    let c' := c.shutdownNode
    (c'.coordinator = c.coordinator ∧
      (∀ ref ∈ c'.coordinator.registry, (c'.replica ref).isRunning = false) ∧
      ∀ ref, c'.replica ref =
        if ref ∈ c.coordinator.registry then (c.replica ref).stop.2 else c.replica ref) ∧
    ((∀ e ∈ history, e.IsOwn) → ∀ ref, (c'.replica ref).isRunning = false) ∧
    ∀ waits : List Nat, let later := waits.foldl advance c'
      later = { c' with agenda := later.agenda, log := later.log } := by
  intro c c'
  obtain ⟨before, heq⟩ := exists_history_ofConfig h
  have hall : c = (new config .discard .inMemory now).undergoAll (before ++ history) := by
    rw [undergoAll_append, ← heq]
  have hholding : c.Holding := hall ▸ (faithful_of_history ..).1
  have hcoordinator : c'.coordinator = c.coordinator := stopReceivers_aside.coordinator
  have hreplica := replica_shutdownNode hholding
  have hstopped : ∀ ref ∈ c.coordinator.registry, (c'.replica ref).isRunning = false := by
    intro ref href
    rw [hreplica ref, if_pos href]
    exact not_isRunning_stop _
  refine ⟨⟨hcoordinator, hcoordinator ▸ hstopped, hreplica⟩, fun hown ref ↦ ?_, fun waits ↦ ?_⟩
  · obtain ⟨hpaired, hattended⟩ := paired_of_ofConfig h
    have hattended' : c.Attended := (undergoAll_keeps hown hpaired).2 hattended
    by_cases hregistered : ref ∈ c.coordinator.registry
    · exact hstopped ref hregistered
    · rw [hreplica ref, if_neg hregistered]
      by_contra hrunning
      -- whoever runs is somebody, and whoever is not registered is retired
      have hrunning : (c.replica ref).isRunning = true := Bool.not_eq_false _ ▸ hrunning
      have hretired := (hattended' ref (Fleet.holds_of_isRunning hrunning)).resolve_left hregistered
      rw [Replica.isRunning, hretired] at hrunning
      cases hrunning
  · have hgrouped : c.agenda.IsGrouped := by
      rw [hall]
      exact undergoAll_isGrouped (new_docket ..).1 (fun _ ht ↦ absurd ht List.not_mem_nil) _
    have hidle : c'.agenda.IsIdle := shutdownNode_agenda ▸ hgrouped.isIdle_shutdown
    exact (advanceAll_rests hidle waits).2

/-- One receiver is stopped, one detached and one retired, and all three have their recoveries under
way. Two seconds later all who are registered would be running again; after a shutdown without any
grace nobody ever is. -/
theorem shutdown_final_underway :
    ∃ c₀, ofConfig { threeReceivers with shutdownGrace := 0 } default = .ok c₀ ∧
      let history : List Happening := [.request (.operation .startNode) trivial,
        .request (.operation (.stop 0)) trivial, .request (.operation (.detach 1)) trivial,
        .request (.operation (.retire 2)) trivial, .request (.operation .healthCheck) trivial]
      let c := c₀.undergoAll history
      let later := c.advance 2000
      c.docket.inFlight = ["r1", "r2", "r3"] ∧
        later.fleet.ids (later.fleet.running later.coordinator.registry) = ["r1", "r2", "b1"] ∧
        ∀ waits : List Nat, ∀ ref,
          ((waits.foldl advance c.shutdownNode).replica ref).isRunning = false := by
  -- the node stays a variable here, so that nothing is evaluated
  have hfinal : ∀ c₀, ofConfig { threeReceivers with shutdownGrace := 0 } default = .ok c₀ →
      ∀ history : List Happening, (∀ e ∈ history, e.IsOwn) → ∀ waits : List Nat, ∀ ref,
        ((waits.foldl advance
          (c₀.undergoAll history).shutdownNode).replica ref).isRunning = false := by
    intro c₀ hbuilt history hown waits ref
    obtain ⟨-, hstopped, hrests⟩ := shutdown_final hbuilt history
    exact (congrArg (fun c : Cluster ↦ (c.replica ref).isRunning) (hrests waits)).trans
      (hstopped hown ref)
  have hbuilt : ofConfig { threeReceivers with shutdownGrace := 0 } default = .ok _ := rfl
  exact ⟨_, hbuilt, by decide +kernel, by decide +kernel,
    hfinal _ hbuilt _ (by simp [Happening.IsOwn])⟩

end Cluster

end SensorCluster
