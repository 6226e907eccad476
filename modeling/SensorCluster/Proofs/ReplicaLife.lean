import SensorCluster.Proofs.Operations

/-!
# The life of a receiver

A receiver is started, stopped, cut off, brought back and retired, and in between it processes
messages, forgets records and is copied from and restored. Its state and the flag of its inbound
channel are two fields, and some of these calls write one of them only.

**One description serves all calls.** `after_shell` says what a call makes of state and flag: a
start opens both unless the receiver is retired, a stop closes both, a detachment closes the channel
alone, a retirement is for good, and whatever concerns the data leaves both as they are. The order
of the states (`Lifecycle.LeadsTo`), the agreement of state and flag (`Coherent`) and the finality
of a retirement are read off from it.

A call that is refused leaves the receiver as it is, so `after` is defined for every call.
-/

namespace SensorCluster

/-- The ways in which the state of a receiver may change in one call. -/
inductive Lifecycle.LeadsTo : Lifecycle → Lifecycle → Prop
  | stay (s : Lifecycle) : LeadsTo s s
  | launch : LeadsTo .provisioning .running
  | halt : LeadsTo .running .stopped
  | resume : LeadsTo .stopped .running
  | retire (s : Lifecycle) : LeadsTo s .retired

/-- Nothing leads back to the beginning. -/
theorem Lifecycle.LeadsTo.ne_provisioning {s s' : Lifecycle} (h : s.LeadsTo s')
    (hs : s ≠ .provisioning) : s' ≠ .provisioning := by
  cases h with
  | stay => exact hs
  | launch | halt | resume | retire => simp

namespace Replica

/-! ### Calls -/

/-- A call to a receiver. -/
inductive Call
  | start
  | stop
  /-- A stop that is made to look like a failure. -/
  | fail
  | detach
  | recover
  | retire
  | process (m : Message)
  | removeRecord (sensor : String)
  /-- A snapshot is taken. -/
  | backup
  /-- The receiver is restored from a snapshot, of whomever and of whatever time. -/
  | restore (s : Snapshot)

/-- Does a call concern the life of the receiver, and not its data? -/
def Call.isLifecycle : Call → Bool
  | start | stop | fail | detach | recover | retire => true
  | process _ | removeRecord _ | backup | restore _ => false

/-- The receiver after a call. -/
def after (r : Replica) : Call → Replica
  | .start => match r.start with
    | .ok r' => r'
    | .error _ => r
  | .stop => r.stop.2
  | .fail => r.stop.2
  | .detach => r.detach
  | .recover => match r.recover with
    | .ok r' => r'
    | .error _ => r
  | .retire => r.retire
  | .process m => match r.process m with
    | .ok (_, r') => r'
    | .error _ => r
  | .removeRecord sensor => (r.removeRecord sensor).2
  | .backup => r
  | .restore s => (r.restore s).2

/-- The receiver after several calls, one after the other. -/
def afterAll (r : Replica) (calls : List Call) : Replica := calls.foldl after r

variable {r : Replica}

/-! ### What a call makes of state and flag -/

/-- What a start makes of a shell. -/
def Shell.started (s : Shell) : Shell :=
  { s with state := if s.state.canStart then .running else s.state
           inbound := s.state.canStart || s.inbound }

/-- What a stop makes of a shell. -/
def Shell.stopped (s : Shell) : Shell :=
  { s with state := if s.state.isRunning then .stopped else s.state, inbound := false }

/-- What a call makes of a shell. -/
def Shell.after (s : Shell) : Call → Shell
  | .start | .recover => s.started
  | .stop | .fail => s.stopped
  | .detach => { s with inbound := false }
  | .retire => { s with state := .retired, inbound := false }
  | .process _ | .removeRecord _ | .backup | .restore _ => s

/-- A start opens state and flag, or is refused. -/
theorem start_shell (r : Replica) :
    (match r.start with
      | .ok r' => r'
      | .error _ => r).shell = r.shell.started := by
  have hstate : r.shell.state = r.state := rfl
  rw [start, Shell.started, hstate]
  cases r.state.canStart <;> rfl

theorem offer_shell (r : Replica) (candidate : SensorRecord) :
    (r.offer candidate).2.shell = r.shell := by
  rw [offer]
  split
  split <;> rfl

/-- A message concerns the data, and not the life of its receiver. -/
theorem process_shell {m : Message} {outcome : ProcessOutcome} {r' : Replica}
    (h : r.process m = .ok (outcome, r')) : r'.shell = r.shell := by
  rw [process] at h
  split at h
  · cases h
  · split at h
    · obtain ⟨-, rfl⟩ := Prod.mk.inj (Except.ok.inj h)
      exact (r.absorb m).offer_shell (.ofMessage m)
    · obtain ⟨-, rfl⟩ := Prod.mk.inj (Except.ok.inj h)
      rfl

/-- **One call**, as state and flag see it. -/
theorem after_shell (r : Replica) (call : Call) : (r.after call).shell = r.shell.after call := by
  cases call with
  | start | recover => exact start_shell r
  | stop | fail =>
    show r.stop.2.shell = r.shell.stopped
    rw [stop_snd]
    rfl
  | detach | retire | removeRecord | backup => rfl
  -- A restore replaces the data and takes the shell over.
  | restore s => exact r.restore_shell s
  | process m =>
    show (match r.process m with
      | .ok (_, r') => r'
      | .error _ => r).shell = r.shell
    split
    · next h => exact process_shell h
    · rfl

theorem after_state (r : Replica) (call : Call) :
    (r.after call).state = (r.shell.after call).state :=
  congrArg Shell.state (r.after_shell call)

theorem after_inbound (r : Replica) (call : Call) :
    (r.after call).inbound = (r.shell.after call).inbound :=
  congrArg Shell.inbound (r.after_shell call)

/-- Nobody is called otherwise after any calls. -/
theorem afterAll_id (r : Replica) (calls : List Call) : (r.afterAll calls).id = r.id := by
  induction calls generalizing r with
  | nil => rfl
  | cons call rest ih =>
    refine (ih _).trans ((congrArg Shell.id (r.after_shell call)).trans ?_)
    cases call <;> rfl

/-- **One call** takes the state one step further at most. -/
theorem after_leadsTo (r : Replica) (call : Call) : r.state.LeadsTo (r.after call).state := by
  rw [after_state]
  cases call with
  | start | recover =>
    show r.state.LeadsTo (if r.state.canStart then .running else r.state)
    -- A start leads on from two of the four states, and leaves the other two.
    cases r.state with
    | provisioning => exact .launch
    | running => exact .stay _
    | stopped => exact .resume
    | retired => exact .stay _
  | stop | fail =>
    show r.state.LeadsTo (if r.state.isRunning then .stopped else r.state)
    cases r.state with
    | running => exact .halt
    | provisioning | stopped | retired => exact .stay _
  | retire => exact .retire _
  | detach | process | removeRecord | backup | restore => exact .stay _

/-- **One call** retires the receiver if it is a retirement, and leaves a retired one retired. -/
theorem after_retired_iff (r : Replica) (call : Call) :
    (r.after call).state = .retired ↔ call = .retire ∨ r.state = .retired := by
  rw [after_state]
  cases call with
  | start | recover =>
    show (if r.state.canStart then Lifecycle.running else r.state) = _ ↔ _
    cases r.state <;> simp [Lifecycle.canStart]
  | stop | fail =>
    show (if r.state.isRunning then Lifecycle.stopped else r.state) = _ ↔ _
    cases r.state <;> simp [Lifecycle.isRunning]
  | retire | detach | process | removeRecord | backup | restore => simp [Shell.after, shell]

/-! ### State and flag -/

/-- The inbound channel is open at most while the receiver runs. -/
def Coherent (r : Replica) : Prop := r.inbound = true → r.state = .running

theorem Coherent.new (id address : String) : (new id address).Coherent := fun h ↦ by cases h

/-- **One call** opens the channel together with a start only, and closes it whenever it ends a
run. -/
theorem Coherent.after (h : r.Coherent) (call : Call) : (r.after call).Coherent := by
  intro hopen
  rw [after_inbound] at hopen
  rw [after_state]
  cases call with
  | start | recover =>
    show (if r.state.canStart then Lifecycle.running else r.state) = .running
    split
    · rfl
    · next hcan => exact h ((Bool.or_eq_true_iff.1 hopen).resolve_left hcan)
  | stop | fail | detach | retire => cases hopen
  | process | removeRecord | backup | restore => exact h hopen

/-- State and flag agree after any calls, by induction on them. -/
theorem Coherent.afterAll (h : r.Coherent) (calls : List Call) : (r.afterAll calls).Coherent := by
  induction calls generalizing r with
  | nil => exact h
  | cons call rest ih => exact ih (h.after call)

/-- The flag alone tells the health of a coherent receiver. -/
theorem Coherent.isHealthy (h : r.Coherent) : r.isHealthy = r.inbound := by
  rw [Replica.isHealthy, Replica.isRunning]
  cases hinbound : r.inbound with
  | false => exact Bool.and_false _
  | true => rw [h hinbound, Lifecycle.isRunning, Bool.and_true]

/-! ### Any calls -/

/-- The way back to the first state is closed. -/
theorem afterAll_ne_provisioning (hr : r.state ≠ .provisioning) (calls : List Call) :
    (r.afterAll calls).state ≠ .provisioning := by
  induction calls generalizing r with
  | nil => exact hr
  | cons call rest ih => exact ih ((r.after_leadsTo call).ne_provisioning hr)

/-- A receiver is retired after some calls if one of them retired it, or it was so before. -/
theorem afterAll_retired_iff (r : Replica) (calls : List Call) :
    (r.afterAll calls).state = .retired ↔ Call.retire ∈ calls ∨ r.state = .retired := by
  induction calls generalizing r with
  | nil => exact (or_iff_right List.not_mem_nil).symm
  | cons call rest ih =>
    refine (ih (r.after call)).trans ?_
    rw [after_retired_iff, List.mem_cons, eq_comm (a := call), ← or_assoc,
      or_comm (a := Call.retire ∈ rest)]

/-- Who is not running accepts no message. -/
theorem process_of_not_isRunning (h : r.isRunning = false) (m : Message) :
    r.process m = .error (.receiverUnavailable r.id) := by
  rw [process, h, Bool.not_false, if_pos rfl]

/-- Who is retired refuses to start and to process. -/
theorem refuses_of_retired (h : r.state = .retired) :
    r.start = .error (.receiverRetired r.id) ∧ r.recover = .error (.receiverRetired r.id) ∧
      ∀ m, r.process m = .error (.receiverUnavailable r.id) := by
  have hstart : r.start = .error (.receiverRetired r.id) := by
    rw [start, h, Lifecycle.canStart, if_neg Bool.false_ne_true]
  exact ⟨hstart, hstart, process_of_not_isRunning (congrArg Lifecycle.isRunning h)⟩

/-- Who is not retired can be brought back. -/
theorem recover_of_not_retired (h : r.state ≠ .retired) :
    ∃ r', r.recover = .ok r' ∧ r'.isHealthy = true := by
  refine ⟨{ r with state := .running, inbound := true }, ?_, rfl⟩
  have hcan : r.state.canStart = true := by
    cases hstate : r.state with
    | retired => exact absurd hstate h
    | provisioning | running | stopped => rfl
  rw [recover, start, if_pos hcan]

/-- **A call to the life of a receiver** changes its state and its flag at most. -/
theorem after_of_isLifecycle {call : Call} (h : call.isLifecycle = true) :
    ∃ state inbound, r.after call = { r with state, inbound } := by
  cases call with
  | start | recover =>
    show ∃ state inbound, (match r.start with
      | .ok r' => r'
      | .error _ => r) = _
    rw [start]
    cases r.state.canStart
    · exact ⟨r.state, r.inbound, rfl⟩
    · exact ⟨_, _, rfl⟩
  | stop | fail => exact ⟨_, _, r.stop_snd⟩
  | detach => exact ⟨r.state, false, rfl⟩
  | retire => exact ⟨_, _, rfl⟩
  | process | removeRecord | backup | restore => cases h

/-- **The life of a receiver**, from its creation and through any calls. Its channel is open at most
while it runs, so that the flag tells whether it is healthy; a call takes the state one step further
at most, and what has left the beginning never comes back to it. It is retired from the first
retirement on and not before: then it refuses to start, to recover and to process, and until then a
recovery makes it healthy. The calls to its life leave its data alone. -/
theorem life_orderly (id address : String) (calls : List Call) :
    let r := (new id address).afterAll calls
    (r.inbound = true → r.state = .running) ∧
    r.isHealthy = r.inbound ∧
    (∀ call, r.state.LeadsTo (r.after call).state) ∧
    (∀ more, r.state ≠ .provisioning → (r.afterAll more).state ≠ .provisioning) ∧
    (r.state = .retired ↔ Call.retire ∈ calls) ∧
    (Call.retire ∈ calls →
      r.start = .error (.receiverRetired id) ∧ r.recover = .error (.receiverRetired id) ∧
        ∀ m, r.process m = .error (.receiverUnavailable id)) ∧
    (Call.retire ∉ calls → ∃ r', r.recover = .ok r' ∧ r'.isHealthy = true) ∧
    ∀ call : Call, call.isLifecycle = true →
      (r.after call).index = r.index ∧ (r.after call).vector = r.vector ∧
        (r.after call).total = r.total ∧ (r.after call).conflicts = r.conflicts := by
  intro r
  have hcoherent : r.Coherent := (Coherent.new id address).afterAll calls
  have hid : r.id = id := (new id address).afterAll_id calls
  have hretired : r.state = .retired ↔ Call.retire ∈ calls := by
    -- A new receiver is not retired, so it was one of the calls.
    rw [afterAll_retired_iff]
    exact or_iff_left (by simp [new])
  refine ⟨hcoherent, hcoherent.isHealthy, r.after_leadsTo,
    fun more hr ↦ afterAll_ne_provisioning hr more, hretired, fun h ↦ ?_, fun h ↦ ?_,
      fun call h ↦ ?_⟩
  · have hrefuses := refuses_of_retired (hretired.2 h)
    rwa [hid] at hrefuses
  · exact recover_of_not_retired (mt hretired.1 h)
  · obtain ⟨state, inbound, heq⟩ := after_of_isLifecycle (r := r) h
    rw [heq]
    exact ⟨rfl, rfl, rfl, rfl⟩

end Replica

end SensorCluster
