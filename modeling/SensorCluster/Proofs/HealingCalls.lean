import SensorCluster.Proofs.CoordinatorCalls

/-!
# What calls to the fault tolerance come to

To ask the backup pool for a receiver, to replace a receiver, to recover one, to schedule
recoveries, to keep the floor, to check the load: like the calls to the coordinator, each of these
has a few outcomes, and this module says which: by one lemma of cases for a call that nobody makes
but for its effect (`provision_cases`, `scheduleRecovery_cases`, `loadCheck_cases`), and by an
equation for each case where the answer decides what comes next (`replace`, `recoverReceiver`,
`fillUp`). **Here the calls are opened.** What is logged on the way matters to nobody.

Much that is proved of a recovery, of the floor and of a health check says only that they respect
some relation between the cluster before and the cluster after. For this there is one lemma each,
whatever the relation is: if their parts respect it, they do (`RecoveryRespects`).
-/

namespace SensorCluster

namespace Cluster

variable {c c' : Cluster} {ref : ReplicaRef}

@[simp]
theorem write_nil (c : Cluster) : c.write [] = c :=
  congrArg (fun log ↦ { c with log }) Array.append_empty

/-! ### The backup pool -/

/-- What a pass through the backup pool comes to. -/
def poolPass (c : Cluster) : PoolPass :=
  BackupPool.tryEach c.healing.provisioner c.healing.asked none c.healing.slots

/-- The pass was made: the slots are as it left them, and who was asked is on record. -/
def afterPass (c : Cluster) : Cluster :=
  c.modifyHealing fun h ↦ { h with slots := c.poolPass.slots, asked := h.asked ++ c.poolPass.asked }

/-- **Provisioning**: the pool was gone through once, and the answer is what became of that pass. A
panic ends the call before the slots that were given up are told of. -/
theorem provision_cases (c : Cluster) :
    (∃ r lines, c.poolPass.outcome = .delivered r ∧ c.provision = (.ok (c.fleet.add r).1,
      ((((c.afterPass.write lines).countHealing fun n ↦
        { n with provisioned := n.provisioned.increment }).create r).2.reportAbandoned
          c.poolPass.abandoned))) ∨
    (∃ cause lines, c.poolPass.outcome = .failed cause ∧ c.provision =
      (.error (.refused cause), (c.afterPass.write lines).reportAbandoned c.poolPass.abandoned)) ∨
    ∃ text lines, c.poolPass.outcome = .panicked text ∧ c.provision =
      (.error (.panicked text), c.afterPass.write lines) := by
  rw [provision]
  dsimp only
  rw [← poolPass]
  cases houtcome : c.poolPass.outcome with
  | delivered r => exact .inl ⟨r, _, rfl, rfl⟩
  | failed cause => exact .inr (.inl ⟨cause, _, rfl, rfl⟩)
  | panicked text => exact .inr (.inr ⟨text, _, rfl, rfl⟩)

/-! ### Replacements -/

/-- The cluster in the middle of a replacement: the receiver is off the roster and retired, and its
slot is given back. -/
def takenOff (c : Cluster) (ref : ReplicaRef) : Cluster :=
  ((c.unregister (c.replica ref).id).2.retire ref).releaseSlot (c.replica ref).id

/-- Who is delivered in the place of the other one is registered. The slot of that one was given
back before, so the same slot may answer. -/
theorem replace_of_delivered {new : ReplicaRef} (h : (c.takenOff ref).provision = (.ok new, c')) :
    ∃ lines, c.replace ref = (.ok (.replaced (c'.replica new).id),
      (((c'.register new).2.countHealing fun n ↦
        { n with replacements := n.replacements.increment }).write lines).publish
          (.receiverReplaced (c.replica ref).id (c'.replica new).id)) := by
  rw [replace]
  dsimp only
  rw [← takenOff, h]
  exact ⟨[_], rfl⟩

/-- The provisioner refuses, and the failure is told. -/
theorem replace_of_refused {cause : ClusterError}
    (h : (c.takenOff ref).provision = (.error (.refused cause), c')) :
    c.replace ref = (.error (.refused cause),
      c'.publish (.receiverFailure (some (c.replica ref).id) cause.message)) := by
  rw [replace]
  dsimp only
  rw [← takenOff, h]

/-- It panics, and the replacement ends in the middle. -/
theorem replace_of_panicked {text : String}
    (h : (c.takenOff ref).provision = (.error (.panicked text), c')) :
    c.replace ref = (.error (.panicked text), c') := by
  rw [replace]
  dsimp only
  rw [← takenOff, h]

/-! ### Recoveries -/

/-- Whoever cannot be brought back up stays as it is. -/
theorem recover_of_error {cause : ClusterError} (h : c.recover ref = (.error cause, c')) :
    c' = c := by
  rw [recover] at h
  split at h
  · cases (Prod.mk.inj h).1
  · exact (Prod.mk.inj h).2.symm

/-- Nobody of the id is registered. -/
theorem recoverReceiver_of_none {id : String} (h : c.registered? id = none) :
    c.recoverReceiver id = (.error (.refused (.unknownReceiver id)), c) := by
  rw [recoverReceiver, h]

/-- A receiver that runs needs no recovery. -/
theorem recoverReceiver_of_healthy {id : String} (h : c.registered? id = some ref)
    (hhealthy : (c.replica ref).isHealthy = true) :
    c.recoverReceiver id = (.ok .alreadyRunning, c) := by
  rw [recoverReceiver, h]
  exact if_pos hhealthy

/-- Who can be started again is restored from its best peer. -/
theorem recoverReceiver_of_restart {id : String} (h : c.registered? id = some ref)
    (hdown : (c.replica ref).isHealthy = false) (hstart : c.recover ref = (.ok (), c')) :
    ∃ lines, c.recoverReceiver id = (.ok .restarted,
      ((((c'.countHealing fun n ↦ { n with restarts := n.restarts.increment }).restoreFromBestPeer
        ref).2.write lines).publish (.receiverRecovered id))) := by
  rw [recoverReceiver, h]
  dsimp only
  rw [if_neg (ne_true_of_eq_false hdown), hstart]
  exact ⟨[_], rfl⟩

/-- Who cannot is replaced. -/
theorem recoverReceiver_of_refusal {id : String} (h : c.registered? id = some ref)
    (hdown : (c.replica ref).isHealthy = false) {cause : ClusterError}
    (hstart : c.recover ref = (.error cause, c')) :
    ∃ lines, c.recoverReceiver id = (c.write lines).replace ref := by
  obtain rfl := recover_of_error hstart
  rw [recoverReceiver, h]
  dsimp only
  rw [if_neg (ne_true_of_eq_false hdown), hstart]
  exact ⟨[_], rfl⟩

/-- **Recovering**: there are no other cases. -/
theorem recoverReceiver_cases (c : Cluster) (id : String) :
    c.recoverReceiver id = (.error (.refused (.unknownReceiver id)), c) ∨
    c.recoverReceiver id = (.ok .alreadyRunning, c) ∨
    ∃ ref, c.registered? id = some ref ∧ (c.replica ref).isHealthy = false ∧
      ((∃ c' lines, c.recover ref = (.ok (), c') ∧ c.recoverReceiver id = (.ok .restarted,
        ((((c'.countHealing fun n ↦ { n with restarts := n.restarts.increment }).restoreFromBestPeer
          ref).2.write lines).publish (.receiverRecovered id)))) ∨
      ∃ lines, c.recoverReceiver id = (c.write lines).replace ref) := by
  cases hfind : c.registered? id with
  | none => exact .inl (recoverReceiver_of_none hfind)
  | some ref =>
    cases hhealthy : (c.replica ref).isHealthy with
    | true => exact .inr (.inl (recoverReceiver_of_healthy hfind hhealthy))
    | false =>
      refine .inr (.inr ⟨ref, rfl, hhealthy, ?_⟩)
      rcases hstart : c.recover ref with ⟨cause | _, c'⟩
      · exact .inr (recoverReceiver_of_refusal hfind hhealthy hstart)
      · obtain ⟨lines, heq⟩ := recoverReceiver_of_restart hfind hhealthy hstart
        exact .inl ⟨c', lines, rfl, heq⟩

/-- A recovery that was scheduled is one that is called for, but for its outcome in the log and for
the mark, which is cleared however it ends. -/
theorem runRecovery_eq (c : Cluster) (id : String) :
    ∃ lines, (c.runRecovery id).2 = ((c.recoverReceiver id).2.write lines).modifyHealing
      fun h ↦ { h with pending := h.pending.filter (· ≠ id) } := by
  rw [runRecovery]
  dsimp only
  rcases c.recoverReceiver id with ⟨(cause | text) | action, c₁⟩
  · exact ⟨_, rfl⟩
  · exact ⟨[], by rw [write_nil]⟩
  · exact ⟨[], by rw [write_nil]⟩

/-! ### The floor -/

/-- Nobody is missing. -/
theorem fillUp_of_reached {floor added : Nat} (rounds : Nat)
    (h : floor ≤ c.runningCount + c.healing.pending.length) :
    fillUp floor rounds added c = (.ok added, c) := by
  cases rounds with
  | zero => rfl
  | succ rounds => rw [fillUp, if_pos h]

/-- A round that is delivered a receiver registers it and goes on. -/
theorem fillUp_of_delivered {floor rounds added : Nat} {c₁ : Cluster}
    (hbelow : ¬floor ≤ c.runningCount + c.healing.pending.length)
    (h : c.provision = (.ok ref, c₁)) :
    ∃ lines, fillUp floor (rounds + 1) added c =
      fillUp floor rounds (added + 1) ((c₁.write lines).register ref).2 := by
  rw [fillUp, if_neg hbelow, h]
  exact ⟨_, rfl⟩

/-- A round that is refused a receiver is the last. -/
theorem fillUp_of_refused {floor rounds added : Nat} {c₁ : Cluster} {cause : ClusterError}
    (hbelow : ¬floor ≤ c.runningCount + c.healing.pending.length)
    (h : c.provision = (.error (.refused cause), c₁)) :
    ∃ lines, fillUp floor (rounds + 1) added c = (.ok added, c₁.write lines) := by
  rw [fillUp, if_neg hbelow, h]
  exact ⟨_, rfl⟩

/-- A panic ends it as well. -/
theorem fillUp_of_panicked {floor rounds added : Nat} {c₁ : Cluster} {text : String}
    (hbelow : ¬floor ≤ c.runningCount + c.healing.pending.length)
    (h : c.provision = (.error (.panicked text), c₁)) :
    fillUp floor (rounds + 1) added c = (.error (.panicked text), c₁) := by
  rw [fillUp, if_neg hbelow, h]

/-! ### Health checks and load checks -/

/-- The recovery of the receiver is scheduled: it is marked, and a task waits. -/
def markedFor (c : Cluster) (id : String) : Cluster :=
  let marked := c.modifyHealing fun h ↦ { h with pending := h.pending ++ [id] }
  let counted := marked.countHealing fun n ↦
    { n with recoveriesScheduled := n.recoveriesScheduled.increment }
  let agenda := c.agenda.spawnDelayed healingGroup ("recover-" ++ id)
    c.healing.config.recoveryGrace.toNat (.recover id)
  { counted with agenda }

/-- **Scheduling**: the receiver has a mark already, or it gets one. -/
theorem scheduleRecovery_cases (c : Cluster) (id : String) :
    (id ∈ c.healing.pending ∧ ∃ lines, c.scheduleRecovery id = (false, c.write lines)) ∨
    (id ∉ c.healing.pending ∧ ∃ lines, c.scheduleRecovery id =
      (true, (c.markedFor id).write lines)) := by
  by_cases hmarked : id ∈ c.healing.pending
  · rw [scheduleRecovery, if_pos hmarked]
    exact .inl ⟨hmarked, _, rfl⟩
  · rw [scheduleRecovery, if_neg hmarked]
    exact .inr ⟨hmarked, [_], rfl⟩

/-- The cluster after the first half of a health check: each unhealthy receiver has its recovery
under way. -/
def afterScheduling (c : Cluster) : Cluster :=
  let counted := c.countHealing fun n ↦ { n with healthChecks := n.healthChecks.increment }
  (counted.scheduleRecoveries 0 counted.health.unhealthyIds).2

/-- The second half of a health check enforces the floor. -/
theorem healthCheck_spec (c : Cluster) :
    c.healthCheck.2 = c.afterScheduling.enforceFloor.2 ∧
      ∀ n, c.afterScheduling.enforceFloor.1 = .ok n →
        ∃ report, c.healthCheck.1 = .ok report := by
  rw [healthCheck, afterScheduling]
  dsimp only
  set c₁ := c.countHealing fun n ↦ { n with healthChecks := n.healthChecks.increment }
  rcases (c₁.scheduleRecoveries 0 c₁.health.unhealthyIds).2.enforceFloor with
    ⟨fault | provisioned, c₂⟩
  · exact ⟨rfl, fun n hn ↦ by cases hn⟩
  · exact ⟨rfl, fun _ _ ↦ ⟨_, rfl⟩⟩

/-- **Checking the load**: at most, flags are counted. -/
theorem loadCheck_cases (c : Cluster) :
    c.loadCheck.2 = c ∨ ∃ lines flags, c.loadCheck.2 = (c.write lines).countHealing fun n ↦
      { n with imbalanceFlags := n.imbalanceFlags.add flags } := by
  rw [loadCheck]
  dsimp only
  split
  · exact .inl rfl
  · split
    · exact .inl rfl
    · exact .inr ⟨_, _, rfl⟩

/-! ### What recoveries respect -/

/-- The parts of which recoveries and the floor consist respect a relation. To take a receiver off
must respect it only where the receiver is registered, and to register one only where the pool has
just delivered it. -/
structure RecoveryRespects (R : Cluster → Cluster → Prop) : Prop where
  refl (c : Cluster) : R c c
  trans {c c' c'' : Cluster} : R c c' → R c' c'' → R c c''
  write (c : Cluster) (lines : List LogLine) : R c (c.write lines)
  restarted (c : Cluster) :
    R c (c.countHealing fun n ↦ { n with restarts := n.restarts.increment })
  replaced (c : Cluster) :
    R c (c.countHealing fun n ↦ { n with replacements := n.replacements.increment })
  tellRecovered (c : Cluster) (id : String) : R c (c.publish (.receiverRecovered id))
  tellReplaced (c : Cluster) (old new : String) : R c (c.publish (.receiverReplaced old new))
  tellFailure (c : Cluster) (id : Option String) (reason : String) :
    R c (c.publish (.receiverFailure id reason))
  recover (c : Cluster) (ref : ReplicaRef) : R c (c.recover ref).2
  restore (c : Cluster) (ref : ReplicaRef) : R c (c.restoreFromBestPeer ref).2
  takenOff {c : Cluster} {ref : ReplicaRef} :
    c.registered? (c.replica ref).id = some ref → R c (c.takenOff ref)
  refused {c c' : Cluster} {fault : Fault} : c.provision = (.error fault, c') → R c c'
  delivered {c c' : Cluster} {ref : ReplicaRef} (lines : List LogLine) :
    c.provision = (.ok ref, c') → R c ((c'.write lines).register ref).2

namespace RecoveryRespects

variable {R : Cluster → Cluster → Prop}

/-- A delivered receiver that is registered is respected, as both parts are. -/
theorem register (hR : RecoveryRespects R) (h : c.provision = (.ok ref, c')) :
    R c (c'.register ref).2 := by
  have hwritten := hR.delivered [] h
  rwa [write_nil] at hwritten

/-- A registered receiver is replaced. -/
theorem replace (hR : RecoveryRespects R) (hfind : c.registered? (c.replica ref).id = some ref) :
    R c (c.replace ref).2 := by
  have htaken : R c (c.takenOff ref) := hR.takenOff hfind
  rcases hprovision : (c.takenOff ref).provision with ⟨(cause | text) | new, c'⟩
  · rw [replace_of_refused hprovision]
    exact hR.trans (hR.trans htaken (hR.refused hprovision)) (hR.tellFailure ..)
  · rw [replace_of_panicked hprovision]
    exact hR.trans htaken (hR.refused hprovision)
  · obtain ⟨lines, heq⟩ := replace_of_delivered hprovision
    rw [heq]
    have hregistered : R c (c'.register new).2 := hR.trans htaken (hR.register hprovision)
    exact hR.trans (hR.trans (hR.trans hregistered (hR.replaced _)) (hR.write _ _))
      (hR.tellReplaced ..)

/-- **A recovery is respected**, in each of its cases. -/
theorem recoverReceiver (hR : RecoveryRespects R) (c : Cluster) (id : String) :
    R c (c.recoverReceiver id).2 := by
  rcases c.recoverReceiver_cases id with heq | heq |
    ⟨ref, hfind, -, ⟨c', lines, hstart, heq⟩ | ⟨lines, heq⟩⟩ <;>
    rw [heq]
  · exact hR.refl c
  · exact hR.refl c
  · have hstarted : R c c' := by
      have hrecover := hR.recover c ref
      rwa [hstart] at hrecover
    have hrestored := hR.trans (hR.trans hstarted (hR.restarted c')) (hR.restore _ ref)
    exact hR.trans (hR.trans hrestored (hR.write _ _)) (hR.tellRecovered _ id)
  · obtain ⟨-, rfl⟩ : ref ∈ c.coordinator.registry ∧ (c.replica ref).id = id :=
      Fleet.mem_of_find? hfind
    exact hR.trans (hR.write c lines) (hR.replace (c := c.write lines) hfind)

/-- **Filling up is respected**: a round delivers and goes on, or is the last one. -/
theorem fillUp (hR : RecoveryRespects R) (c : Cluster) (floor rounds added : Nat) :
    R c (fillUp floor rounds added c).2 := by
  induction rounds generalizing c added with
  | zero => exact hR.refl c
  | succ rounds ih =>
    -- a round is reached only below the floor; then the pool is asked
    by_cases hreached : floor ≤ c.runningCount + c.healing.pending.length
    · rw [fillUp_of_reached _ hreached]
      exact hR.refl c
    · rcases hprovision : c.provision with ⟨(cause | text) | ref, c'⟩
      · obtain ⟨lines, heq⟩ := fillUp_of_refused hreached hprovision
        rw [heq]
        exact hR.trans (hR.refused hprovision) (hR.write c' lines)
      · rw [fillUp_of_panicked hreached hprovision]
        exact hR.refused hprovision
      · obtain ⟨lines, heq⟩ := fillUp_of_delivered hreached hprovision
        rw [heq]
        exact hR.trans (hR.delivered lines hprovision) (ih _ _)

theorem enforceFloor (hR : RecoveryRespects R) (c : Cluster) : R c c.enforceFloor.2 :=
  hR.fillUp c ..

end RecoveryRespects

/-- Scheduling respects what the scheduling of one recovery respects. -/
theorem scheduleRecoveries_respects {R : Cluster → Cluster → Prop} (hrefl : ∀ c, R c c)
    (htrans : ∀ {c c' c'' : Cluster}, R c c' → R c' c'' → R c c'')
    (hone : ∀ (c : Cluster) (id : String), R c (c.scheduleRecovery id).2) (c : Cluster)
    (scheduled : Nat)
    (ids : List String) : R c (c.scheduleRecoveries scheduled ids).2 := by
  induction ids generalizing c scheduled with
  | nil => exact hrefl c
  | cons id rest ih => exact htrans (hone c id) (ih _ _)

end Cluster

end SensorCluster
