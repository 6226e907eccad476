import SensorCluster.Proofs.Histories

/-!
# One recovery at a time

However checks, recoveries and calls follow each other, **no receiver has two recoveries in
flight**, and each one in flight has its mark (`single_flight`). A health check schedules a recovery
for exactly those unhealthy receivers that have no mark, and a recovery that has run takes exactly
its own mark away, whether it succeeded, was refused or ended in a panic.

## The way there

Every happening is a run of the docket (`undergo_docket`), so tidiness and the match of marks and
recoveries hold after any history. Two happenings need a closer look.

* A task that runs is taken off the agenda or put back for its next run *before* its duty is done,
  and is written back afterwards. A health check that schedules recoveries meanwhile cannot take its
  number (`Docket.Keeps`), so what is written back is what is there.
* A shutdown of the fault tolerance takes the recoveries off the agenda and leaves their marks.
  `drops` says whom that concerns.
-/

namespace SensorCluster

/-- Does an operation concern the tasks that wait? -/
def Operation.schedules : Operation → Bool
  | healthCheck | runRecovery _ | startNode | stopReplication _ | stopHealing _ | shutdownNode
  | advance _ => true
  | _ => false

/-- Does a happening concern the tasks that wait? -/
def Happening.schedules : Happening → Bool
  | request (.operation op) _ => op.schedules
  | moment _ | startReports _ | endReports => true
  | _ => false

namespace Cluster

variable {c c' : Cluster}

/-! ### Scheduling -/

/-- How long a recovery waits. -/
def recoveryDelay (c : Cluster) : Nat := c.healing.config.recoveryGrace.toNat

/-- A recovery is scheduled for whoever has no mark. For the others nothing happens. -/
theorem scheduleRecovery_spec (c : Cluster) (id : String) :
    (c.scheduleRecovery id).2.recoveryDelay = c.recoveryDelay ∧
      ((id ∈ c.healing.pending ∧ (c.scheduleRecovery id).1 = false ∧
          (c.scheduleRecovery id).2.docket = c.docket) ∨
        (id ∉ c.healing.pending ∧ (c.scheduleRecovery id).1 = true ∧
          (c.scheduleRecovery id).2.docket = c.docket.schedule c.recoveryDelay id)) := by
  rcases c.scheduleRecovery_cases id with ⟨hmarked, lines, heq⟩ | ⟨hnew, lines, heq⟩ <;> rw [heq]
  · exact ⟨rfl, .inl ⟨hmarked, rfl, rfl⟩⟩
  · exact ⟨rfl, .inr ⟨hnew, rfl, rfl⟩⟩

theorem scheduleRecoveries_docket (scheduled : Nat) (ids : List String) :
    (c.scheduleRecoveries scheduled ids).2.docket = c.docket.scheduleAll c.recoveryDelay ids := by
  induction ids generalizing c scheduled with
  | nil => rfl
  | cons id rest ih =>
    rw [scheduleRecoveries]
    dsimp only
    rw [ih]
    obtain ⟨hdelay, ⟨hpending, -, hdocket⟩ | ⟨hnew, -, hdocket⟩⟩ := c.scheduleRecovery_spec id <;>
      rw [hdelay, hdocket]
    · exact (Docket.scheduleAll_cons_mem _ hpending rest).symm
    · exact (Docket.scheduleAll_cons_new _ hnew rest).symm

/-- The answer is by how many the marks have become more. -/
theorem fst_scheduleRecoveries (scheduled : Nat) (ids : List String) :
    (c.scheduleRecoveries scheduled ids).1 + c.healing.pending.length =
      scheduled + (c.scheduleRecoveries scheduled ids).2.healing.pending.length := by
  induction ids generalizing c scheduled with
  | nil => rfl
  | cons id rest ih =>
    rw [scheduleRecoveries]
    dsimp only
    have hrest := ih (c := (c.scheduleRecovery id).2) (scheduled + (c.scheduleRecovery id).1.toNat)
    obtain ⟨-, ⟨-, hanswer, hdocket⟩ | ⟨-, hanswer, hdocket⟩⟩ := c.scheduleRecovery_spec id
    · have hlength : (c.scheduleRecovery id).2.healing.pending.length = c.healing.pending.length :=
        congrArg (fun d : Docket ↦ d.pending.length) hdocket
      rw [hanswer, hlength] at hrest
      rw [hanswer]
      exact hrest
    · have hlength : (c.scheduleRecovery id).2.healing.pending.length =
          c.healing.pending.length + 1 :=
        (congrArg (fun d : Docket ↦ d.pending.length) hdocket).trans List.length_append
      rw [hanswer, hlength] at hrest
      rw [hanswer]
      dsimp only [Bool.toNat_true] at hrest ⊢
      omega

/-! ### The health check -/

/-- The receivers for whom a health check would schedule a recovery: the unhealthy ones without a
mark. -/
def unattended (c : Cluster) : List String :=
  c.health.unhealthyIds.filter (· ∉ c.healing.pending)

/-- What a health check does to the docket is to schedule recoveries for the unhealthy. Filling up
the floor does not concern it. -/
theorem healthCheck_docket :
    c.healthCheck.2.docket = c.docket.scheduleAll c.recoveryDelay c.health.unhealthyIds := by
  rw [(healthCheck_spec c).1, enforceFloor_tells.1]
  exact scheduleRecoveries_docket 0 _

/-- Filling up ends well or in a panic of the provisioner. -/
theorem fst_fillUp (floor rounds added : Nat) :
    (∃ n, (fillUp floor rounds added c).1 = .ok n) ∨
      ∃ text, (fillUp floor rounds added c).1 = .error (.panicked text) := by
  induction rounds generalizing c added with
  | zero => exact .inl ⟨added, rfl⟩
  | succ rounds ih =>
    by_cases hreached : floor ≤ c.runningCount + c.healing.pending.length
    · rw [fillUp_of_reached _ hreached]
      exact .inl ⟨added, rfl⟩
    · rcases h : c.provision with ⟨(cause | text) | ref, c₁⟩
      · obtain ⟨lines, heq⟩ := fillUp_of_refused hreached h
        exact .inl ⟨added, by rw [heq]⟩
      · exact .inr ⟨text, by rw [fillUp_of_panicked hreached h]⟩
      · obtain ⟨lines, heq⟩ := fillUp_of_delivered hreached h
        rw [heq]
        exact ih _

theorem fst_enforceFloor :
    (∃ n, c.enforceFloor.1 = .ok n) ∨ ∃ text, c.enforceFloor.1 = .error (.panicked text) :=
  fst_fillUp ..

/-- A health check reports how many recoveries it scheduled, unless the provisioner panics. -/
theorem fst_healthCheck (hids : c.health.unhealthyIds.Nodup) :
    (∃ report, c.healthCheck.1 = .ok report ∧ report.scheduled = c.unattended.length) ∨
      ∃ text, c.healthCheck.1 = .error (.panicked text) := by
  set counted := c.countHealing fun n ↦ { n with healthChecks := n.healthChecks.increment }
  rcases hschedule : counted.scheduleRecoveries 0 c.health.unhealthyIds with ⟨scheduled, c₁⟩
  have hdocket := scheduleRecoveries_docket (c := counted) 0 c.health.unhealthyIds
  have hcount := fst_scheduleRecoveries (c := counted) 0 c.health.unhealthyIds
  rw [hschedule] at hdocket hcount
  have hmarks : c₁.healing.pending = c.healing.pending ++ c.unattended :=
    congrArg Docket.pending (hdocket.trans (Docket.scheduleAll_spec _ _ hids))
  -- The marks that are new are those of the recoveries that were scheduled.
  have hscheduled : scheduled = c.unattended.length := by
    have hsum : scheduled + c.healing.pending.length = 0 + c₁.healing.pending.length := hcount
    rw [hmarks, List.length_append] at hsum
    omega
  have hfloor := fst_enforceFloor (c := c₁)
  rw [healthCheck]
  dsimp only
  rw [show counted.health = c.health from rfl, hschedule]
  dsimp only
  generalize c₁.enforceFloor = answer at hfloor ⊢
  obtain ⟨fault | n, c₂⟩ := answer
  · obtain ⟨n, hn⟩ | ⟨text, htext⟩ := hfloor
    · cases hn
    · obtain rfl := Except.error.inj htext
      exact .inr ⟨text, rfl⟩
  · exact .inl ⟨_, rfl, hscheduled⟩

/-! ### Running tasks -/

/-- The receivers for whom a duty may schedule recoveries. -/
def calledFor (c : Cluster) : Duty → List String
  | .healthCheck => c.health.unhealthyIds
  | _ => []

/-- **What a duty does to the docket**: its own mark goes, and a health check schedules recoveries.
The duty stays what it is. -/
theorem perform_docket (duty : Duty) :
    (c.perform duty).2.1 = duty ∧
      (c.perform duty).2.2.docket =
        (c.docket.unmark duty).scheduleAll c.recoveryDelay (c.calledFor duty) := by
  cases duty with
  | sync => exact ⟨rfl, syncCycle_aside.docket⟩
  | backup => exact ⟨rfl, (backups_aside 0 _).docket⟩
  | recoveryScan => exact ⟨rfl, recoveryScan_aside.docket⟩
  | healthCheck =>
    rw [perform_healthCheck]
    exact ⟨rfl, healthCheck_docket⟩
  | loadBalance => exact ⟨rfl, loadCheck_tells.1⟩
  | recover id =>
    refine ⟨rfl, ?_⟩
    obtain ⟨lines, heq⟩ := c.runRecovery_eq id
    have hrecover : (c.recoverReceiver id).2.docket = c.docket := (recoverReceiver_tells id).1
    show (c.runRecovery id).2.docket = c.docket.unmark (.recover id)
    rw [heq, ← hrecover]
    rfl
  | statusReport => exact ⟨rfl, rfl⟩

/-- **A task that runs** is finished, and then what it schedules is scheduled. -/
theorem runTask_docket (h : c.docket.Tidy) {n : Nat} {t : Task Duty}
    (hmem : (n, t) ∈ c.agenda.tasks) :
    (host.runTask c n).docket =
      (c.docket.finish n t.job).scheduleAll c.recoveryDelay (c.calledFor t.job) := by
  set c₁ : Cluster := { c with agenda := c.agenda.update n Agenda.afterRun }
  obtain ⟨hduty, hdocket⟩ := perform_docket (c := c₁) t.job
  have htask : (host.agenda c).task? n = some t := Agenda.task?_eq_some hmem h.numbers
  have hdone : (c₁.perform t.job).2.2.docket =
      (c.docket.finish n t.job).scheduleAll c.recoveryDelay (c.calledFor t.job) := hdocket
  have hkeeps := (h.keeps_finish hmem).scheduleAll c.recoveryDelay (c.calledFor t.job)
  rw [← hdone] at hkeeps ⊢
  rw [Host.runTask, htask]
  -- A duty leaves the number of its task alone, so what is written back is what is there.
  have hback : (c₁.perform t.job).2.2.agenda.update n
      (fun t' ↦ some { t' with job := (c₁.perform t.job).2.1 }) =
        (c₁.perform t.job).2.2.agenda := by
    rw [hduty]
    exact Agenda.update_job_eq_self hkeeps.2
  exact congrArg (fun agenda ↦ { (c₁.perform t.job).2.2.docket with agenda }) hback

/-- A recovery that has run, whatever came of it, is off the agenda, and its mark is cleared. -/
theorem runTask_recover (h : c.docket.Tidy) {n : Nat} {id : String}
    (hmem : (n, id) ∈ c.docket.recoveries) :
    Docket.Step c.docket [] (host.runTask c n).docket ∧
      (host.runTask c n).healing.pending = c.healing.pending.filter (· ≠ id) ∧
      (host.runTask c n).docket.recoveries = c.docket.recoveries.filter (·.1 ≠ n) := by
  obtain ⟨t, ht, hid⟩ := mem_recoveriesAmong.1 hmem
  have htaken := Docket.recoveries_finish_of_some h ht hid
  have hrun := runTask_docket h ht
  have hstep : Docket.Step c.docket [] (c.docket.finish n t.job) := .finish ht
  rw [Duty.recovers?_eq_some hid] at htaken hrun hstep
  -- a recovery schedules nothing
  have hfinished : (host.runTask c n).docket = c.docket.finish n (.recover id) := hrun
  rw [hfinished]
  exact ⟨hstep, congrArg Docket.pending hfinished, htaken⟩

/-! ### Histories -/

/-- A moment of time is a run of the docket: a task is run, or those that have ended are taken off,
-/
theorem live_docket (h : c.docket.Tidy) (m : Host.Moment) :
    Docket.Run c.docket [] (host.live c m).docket := by
  cases m with
  | settle => exact .single (.settle c.docket)
  | wait now => exact .single (.wait c.docket now)
  | run n =>
    show Docket.Run c.docket [] (host.runTask c n).docket
    cases htask : c.agenda.task? n with
    | none =>
      rw [Host.runTask, show (host.agenda c).task? n = none from htask]
      exact .refl _
    | some t =>
      have hmem := Agenda.mem_of_task? htask
      rw [runTask_docket h hmem]
      exact (Docket.Run.single (.finish hmem)).trans (Docket.scheduleAll_run ..)

/-- and so is any time that passes. -/
theorem liveAll_docket (h : c.docket.Tidy) (moments : List Host.Moment) :
    Docket.Run c.docket [] (host.liveAll c moments).docket := by
  induction moments generalizing c with
  | nil => exact .refl _
  | cons m rest ih =>
    have hrun := live_docket h m
    exact hrun.trans (ih (h.run hrun))

/-- The loops of a node are spawned, and none of them is a recovery. -/
theorem startNode_docket : Docket.Run c.docket [] c.startNode.docket := by
  -- None of the loops is a recovery, so the docket may spawn them freely.
  have hspawn : ∀ (c : Cluster) (group name : String) (period : UInt64) (duty : Duty),
      duty.recovers? = none →
        Docket.Run c.docket [] (c.spawnPeriodic group name period duty).docket :=
    fun c group name period duty h ↦
      .single (.spawn (t := c.agenda.periodic group name period.toNat duty) h)
  have hreplication : ∀ c : Cluster, Docket.Run c.docket [] c.startReplication.docket := by
    intro c
    rw [startReplication]
    split
    · exact .refl _
    · exact ((hspawn _ _ _ _ .sync rfl).trans (hspawn _ _ _ _ .backup rfl)).trans
        (hspawn _ _ _ _ .recoveryScan rfl)
  have hhealing : ∀ c : Cluster, Docket.Run c.docket [] c.startHealing.docket := by
    intro c
    rw [startHealing]
    split
    · exact .refl _
    · exact (hspawn _ _ _ _ .healthCheck rfl).trans (hspawn _ _ _ _ .loadBalance rfl)
  exact (hreplication (c.write _)).trans (hhealing _)

/-- The receivers whose recoveries a happening takes off the agenda without a run. -/
def drops (c : Cluster) : Happening → List String
  | .request (.operation (.stopHealing _)) _ => c.docket.inFlight
  | .request (.operation .shutdownNode) _ => c.docket.inFlight
  | _ => []

/-- The receivers whose recoveries were taken off the agenda without a run in the course of a
history. -/
def dropped (c : Cluster) : List Happening → List String
  | [] => []
  | e :: rest => c.drops e ++ (c.undergo e).dropped rest

theorem dropped_append (c : Cluster) (history more : List Happening) :
    c.dropped (history ++ more) = c.dropped history ++ (c.undergoAll history).dropped more := by
  induction history generalizing c with
  | nil => rfl
  | cons e rest ih =>
    rw [List.cons_append, dropped, dropped, ih, List.append_assoc]
    rfl

/-- A shutdown stops both groups, and what was in flight is dropped. -/
theorem shutdownNode_docket : Docket.Run c.docket c.docket.inFlight c.shutdownNode.docket := by
  have hhealing : ∀ (c : Cluster) (grace : UInt64),
      Docket.Run c.docket c.docket.inFlight (c.stopHealing grace).docket :=
    fun c _ ↦ .single (.stop c.docket healingGroup)
  have hreplication : ∀ (c : Cluster) (grace : UInt64),
      Docket.Run c.docket [] (c.stopReplication grace).docket :=
    fun c _ ↦ .single (.stop c.docket replicationGroup)
  have hreceivers : ∀ c : Cluster, Docket.Run c.docket [] c.stopReceivers.docket :=
    fun _ ↦ .of_eq stopReceivers_aside.docket
  exact ((hhealing (c.write _) _).trans_nil (hreplication _ _)).trans_nil (hreceivers _)

/-! ### Happenings -/

/-- Most operations leave the docket as it is. -/
theorem step_docket_of_not {op : Operation} (h : op.schedules = false) :
    (c.step op).docket = c.docket := by
  cases op with
  | register r => exact ((create_aside r).tells.trans (register_tells (Fleet.holds_add_self r))).1
  | unregister id => exact (unregister_tells id).1
  | route m host port => exact (tryRoute_tells m host port).1
  | unregisterSensor sensor => exact (unregisterSensor_tells sensor).1
  | start ref => exact (start_aside ref).docket
  | stop ref => exact (stop_aside ref).docket
  | detach ref => exact (detach_aside ref).docket
  | recover ref => exact (recover_aside ref).docket
  | retire ref => exact (retire_aside ref).docket
  | sync => exact syncCycle_aside.docket
  | backup => exact (backups_aside 0 _).docket
  | recoveryScan => exact recoveryScan_aside.docket
  | recoverReceiver id => exact (recoverReceiver_tells id).1
  | enforceFloor => exact enforceFloor_tells.1
  | provision => exact provision_tells.1
  | loadCheck => exact loadCheck_tells.1
  | pin | subscribe | unsubscribe => rfl
  | healthCheck | runRecovery | startNode | stopReplication | stopHealing | shutdownNode
    | advance =>
    cases h

/-- Most happenings leave the docket as it is. -/
theorem undergo_docket_of_not {e : Happening} (h : e.schedules = false) :
    (c.undergo e).docket = c.docket := by
  cases e with
  | request q hcall =>
    cases q with
    | operation op => exact step_docket_of_not h
    | create r => exact (create_aside r).docket
    | enroll ref =>
      show (c.handle (.enroll ref)).docket = c.docket
      rw [handle]
      split
      · next hholds => exact (register_tells hholds).1
      · rfl
    | syncPair a b => exact (syncPair_aside a b).docket
    | restore ref => exact (restoreFromBestPeer_aside ref).docket
  | fail ref => exact (stop_aside ref).docket
  | stopReceivers => exact stopReceivers_aside.docket
  | process ref m => exact (process_aside ref m).docket
  | removeRecord ref sensor => exact (removeRecord_aside ref sensor).docket
  | restore ref s => exact (restore_aside ref s).docket
  | joinPool ref => exact (joinPool_aside ref).docket
  | leavePool id => exact (leavePool_aside id).docket
  | changeSink | tellTime | write | openChannel | closeChannel | drain => rfl
  | moment | startReports | endReports => cases h

/-- Each call is a run of the docket that drops what `drops` says. -/
theorem step_docket (h : c.docket.Tidy) (op : Operation) (hcall : Request.IsCall (.operation op)) :
    Docket.Run c.docket (c.drops (.request (.operation op) hcall)) (c.step op).docket := by
  cases op with
  | healthCheck =>
    show Docket.Run c.docket [] c.healthCheck.2.docket
    rw [healthCheck_docket]
    exact Docket.scheduleAll_run ..
  | runRecovery => exact hcall.elim
  | startNode => exact startNode_docket
  | stopReplication grace => exact .single (.stop c.docket replicationGroup)
  | stopHealing grace => exact .single (.stop c.docket healingGroup)
  | shutdownNode => exact shutdownNode_docket
  | advance ms =>
    obtain ⟨moments, heq⟩ := Host.exists_moments (h := host) ms c
    show Docket.Run c.docket [] (host.advance ms c).docket
    rw [heq]
    exact liveAll_docket h moments
  | _ => exact .of_eq (step_docket_of_not rfl)

/-- **Every happening is a run of the docket.** -/
theorem undergo_docket (h : c.docket.Tidy) (e : Happening) :
    Docket.Run c.docket (c.drops e) (c.undergo e).docket := by
  cases e with
  | request q hcall =>
    cases q with
    | operation op => exact step_docket h op hcall
    | _ => exact .of_eq (undergo_docket_of_not rfl)
  | moment m => exact live_docket h m
  | startReports interval =>
    exact .single (.spawnFirst
      (t := c.agenda.periodic nodeGroup "status" interval.toNat .statusReport) rfl)
  | endReports => exact .single (.stop c.docket nodeGroup)
  | _ => exact .of_eq (undergo_docket_of_not rfl)

/-- And so is a whole history, by induction on it. -/
theorem undergoAll_docket (h : c.docket.Tidy) (history : List Happening) :
    Docket.Run c.docket (c.dropped history) (c.undergoAll history).docket := by
  induction history generalizing c with
  | nil => exact .refl _
  | cons e rest ih =>
    have hrun := undergo_docket h e
    exact hrun.trans (ih (h.run hrun))

/-- As long as the fault tolerance was not shut down, no recovery was dropped. -/
theorem dropped_eq_nil (h : c.docket.Tidy) {history : List Happening}
    (hopen : (c.undergoAll history).agenda.isShutDown healingGroup = false) :
    c.dropped history = [] :=
  (undergoAll_docket h history).isOpen hopen

/-- In a new cluster nothing waits, and nobody is marked. -/
theorem new_docket (config : Config) (sink : SnapshotSink) (provisioner : Provisioner)
    (now : WallTime) :
    (new config sink provisioner now).docket.Tidy ∧
      (new config sink provisioner now).docket.Matched [] where
  left :=
    ⟨List.nodup_nil, fun _ ht ↦ absurd ht List.not_mem_nil,
      fun _ ht ↦ absurd ht List.not_mem_nil⟩
  right := ⟨.refl _, List.nodup_nil⟩

/-- After any history the docket is tidy, and every mark is that of a recovery in flight or of one
that was dropped. -/
theorem docket_of_history (config : Config) (sink : SnapshotSink) (provisioner : Provisioner)
    (now : WallTime) (history : List Happening) :
    let c₀ := new config sink provisioner now
    (c₀.undergoAll history).docket.Tidy ∧
      (c₀.undergoAll history).docket.Matched (c₀.dropped history) := by
  intro c₀
  obtain ⟨htidy, hmatched⟩ : c₀.docket.Tidy ∧ c₀.docket.Matched [] := new_docket ..
  have hrun := undergoAll_docket htidy history
  exact ⟨htidy.run hrun, hmatched.run htidy hrun⟩

/-! ### Single flight -/

/-- Registered receivers have distinct ids, so the unhealthy ones have. -/
theorem unhealthyIds_nodup (hids : (c.fleet.ids c.coordinator.registry).Nodup) :
    c.health.unhealthyIds.Nodup := by
  refine hids.sublist ?_
  have hsub := (List.filter_sublist (p := fun r : Replica ↦ !r.isHealthy)
    (l := c.coordinator.registry.map c.replica)).map (·.id)
  rw [List.map_map] at hsub
  exact hsub

/-- **One recovery at a time.** After any history of a new cluster, whatever its provisioner does:

* no two recoveries in flight are of the same receiver, and each of them has its mark;
* a health check, by hand or as a task of the agenda, schedules one recovery for each unhealthy
  receiver without a mark and for nobody else, marks these receivers and counts them; it reports
  their number, unless the provisioner panics afterwards;
* a recovery that has run, whatever came of it, is no longer in flight, and its mark is the one that
  is cleared. -/
theorem single_flight (config : Config) (sink : SnapshotSink) (provisioner : Provisioner)
    (now : WallTime) (history : List Happening) :
    let c := (new config sink provisioner now).undergoAll history
    (c.docket.inFlight.Nodup ∧ c.docket.inFlight ⊆ c.healing.pending) ∧
    (c.unattended.Nodup ∧
      c.healthCheck.2.docket = c.docket.withRecoveries c.recoveryDelay c.unattended ∧
      c.healthCheck.2.docket.inFlight = c.docket.inFlight ++ c.unattended ∧
      ((∃ report, c.healthCheck.1 = .ok report ∧ report.scheduled = c.unattended.length) ∨
        ∃ text, c.healthCheck.1 = .error (.panicked text))) ∧
    (∀ n t, (n, t) ∈ c.agenda.tasks → t.job = .healthCheck →
      let ready := { c.docket with agenda := c.agenda.update n Agenda.afterRun }
      (host.runTask c n).docket = ready.withRecoveries c.recoveryDelay c.unattended ∧
      (host.runTask c n).docket.inFlight = c.docket.inFlight ++ c.unattended) ∧
    ∀ n id, (n, id) ∈ c.docket.recoveries →
      let c' := host.runTask c n
      id ∈ c.healing.pending ∧ c'.healing.pending = c.healing.pending.filter (· ≠ id) ∧
      c'.docket.recoveries = c.docket.recoveries.filter (·.1 ≠ n) ∧
      c'.docket.inFlight = c.docket.inFlight.filter (· ≠ id) := by
  intro c
  obtain ⟨htidy, hmatched⟩ : c.docket.Tidy ∧ c.docket.Matched _ := docket_of_history ..
  obtain ⟨-, hfaithful⟩ : c.Holding ∧ c.chronicle.Faithful := faithful_of_history ..
  have hids : c.health.unhealthyIds.Nodup := unhealthyIds_nodup hfaithful.distinct
  have hcheck : c.healthCheck.2.docket = c.docket.withRecoveries c.recoveryDelay c.unattended :=
    healthCheck_docket.trans (Docket.scheduleAll_spec _ _ hids)
  refine ⟨⟨hmatched.inFlight_nodup, hmatched.inFlight_subset⟩,
    ⟨hids.filter _, hcheck, ?_, fst_healthCheck hids⟩, fun n t hmem hjob ↦ ?_, fun n id hmem ↦ ?_⟩
  · rw [hcheck]
    exact Docket.inFlight_withRecoveries ..
  · have hother : t.job.recovers? = none := by rw [hjob]; rfl
    -- The health check is no recovery, so its end drops none.
    have hsame := Docket.recoveries_finish_of_none htidy hmem hother
    have hrun := runTask_docket htidy hmem
    rw [hjob] at hsame hrun
    have hscheduled := hrun.trans (Docket.scheduleAll_spec _ _ hids)
    refine ⟨hscheduled, ?_⟩
    rw [hscheduled, Docket.inFlight_withRecoveries, Docket.inFlight, hsame]
    rfl
  · obtain ⟨-, hpending, hrecoveries⟩ := runTask_recover htidy hmem
    refine ⟨hmatched.inFlight_subset (List.mem_map.2 ⟨_, hmem, rfl⟩), hpending, hrecoveries, ?_⟩
    rw [Docket.inFlight, hrecoveries]
    exact hmatched.inFlight_filter htidy hmem

/-- A provisioner that breaks down whenever it is asked. -/
def breaksDown : Provisioner := fun _ _ ↦ .panicked "no capacity"

/-- Two receivers are retired and have their recoveries scheduled. The recovery of the second one
ends in a panic, and only its mark is cleared. -/
theorem single_flight_panic :
    let history : List Happening :=
      [.request (.operation (.register (.new "r1" "r1:1"))) trivial,
        .request (.operation (.register (.new "r2" "r2:1"))) trivial,
        .request (.operation (.retire 0)) trivial, .request (.operation (.retire 1)) trivial,
        .request (.operation .healthCheck) trivial]
    let c := (new oneSlot .discard breaksDown default).undergoAll history
    c.healing.pending = ["r1", "r2"] ∧
      (c.recoverReceiver "r2").1 = .error (.panicked "no capacity") ∧
      (host.runTask c 1).healing.pending = ["r1"] := by
  intro history c
  have hmem : (1, "r2") ∈ c.docket.recoveries := by decide +kernel
  have hmarks : c.healing.pending = ["r1", "r2"] := by decide +kernel
  obtain ⟨-, -, -, hrun⟩ := single_flight oneSlot .discard breaksDown default history
  obtain ⟨-, hpending, -⟩ := hrun 1 "r2" hmem
  refine ⟨hmarks, rfl, hpending.trans ?_⟩
  rw [hmarks]
  decide

end Cluster

end SensorCluster
