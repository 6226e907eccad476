import SensorCluster.Fault
import SensorCluster.Log

/-!
# Tasks in simulated time

An `Agenda` holds the tasks that wait for their time: periodic ones, which run again and again, and
delayed ones, which run once. Each belongs to a group, and a group is shut down as a whole. **Time
is a number of milliseconds that moves only when it is told to**: `Host.advance` lets so much of it
pass and runs every task at the moment it is due, in the order of time, and at one moment in the
order in which the tasks stand on the agenda: new ones are put at its end, or in front of all
others.

What a task does is up to its `Host`, the world that the agenda is part of. A run can fail or panic;
that is logged and changes neither the task's own later runs nor any other task. A task may spawn
others; what is spawned for the very moment runs at that moment.

A periodic task needs time between its runs. One with a period of zero stands on the agenda until
time passes, and is then over without a run.

Shutting a group down takes no time. With some grace every task stops by itself, without it every
task is aborted; either way none of them runs again. Tasks spawned into the group afterwards run as
usual.
-/

namespace SensorCluster

/-- A task that waits for its time. -/
structure Task (J : Type) where
  group : String
  name : String
  job : J
  /-- The moment of the next run. -/
  due : Nat
  /-- The time between two runs; none for a task that runs once. -/
  period : Option Nat

/-- How a run ended. -/
inductive RunOutcome
  | done
  | failed (cause : ClusterError)
  | panicked
  deriving DecidableEq, Repr, Inhabited

namespace Task

variable {J : Type}

/-- The name of a task with its group. -/
def label (t : Task J) : String := t.group ++ "/" ++ t.name

/-- Can the task run at all? A periodic task without any time between its runs cannot. -/
def isRunnable (t : Task J) : Bool := t.period ≠ some 0

/-- The lines about a run. -/
def runLines (t : Task J) (outcome : RunOutcome) : List LogLine :=
  match t.period, outcome with
  | some _, .failed cause => [.warn (s!"Task {t.label} run failed: " ++ cause.message)]
  | some _, .panicked => [.error s!"Task {t.label} run panicked"]
  | none, .panicked => [.error s!"Task {t.label} panicked"]
  | _, _ => []

/-- The line of a task that stops by itself. -/
def stopLine? (t : Task J) : Option String :=
  if t.isRunnable then t.period.map fun _ ↦ s!"Task {t.label} stopped" else none

end Task

/-- The tasks that wait for their time. -/
structure Agenda (J : Type) where
  /-- The present moment. -/
  now : Nat
  /-- The number of the next task. -/
  nextId : Nat
  /-- The tasks by number, in the order in which they run at one moment. -/
  tasks : List (Nat × Task J)
  /-- The groups that were shut down. -/
  closed : List String

namespace Agenda

variable {J : Type}

/-- The agenda at the beginning of time. -/
def empty : Agenda J := ⟨0, 0, [], []⟩

instance : Inhabited (Agenda J) := ⟨empty⟩

/-- Puts a task on the agenda. -/
def spawn (a : Agenda J) (t : Task J) : Agenda J :=
  { a with nextId := a.nextId + 1, tasks := a.tasks ++ [(a.nextId, t)] }

/-- Puts a task in front of all others on the agenda. -/
def spawnFirst (a : Agenda J) (t : Task J) : Agenda J :=
  { a with nextId := a.nextId + 1, tasks := (a.nextId, t) :: a.tasks }

/-- A task that runs every `period` milliseconds, first after one period. -/
def periodic (a : Agenda J) (group name : String) (period : Nat) (job : J) : Task J :=
  ⟨group, name, job, a.now + period, some period⟩

/-- Puts a periodic task on the agenda. -/
def spawnPeriodic (a : Agenda J) (group name : String) (period : Nat) (job : J) : Agenda J :=
  a.spawn (a.periodic group name period job)

/-- A task that runs once, after `delay` milliseconds. -/
def spawnDelayed (a : Agenda J) (group name : String) (delay : Nat) (job : J) : Agenda J :=
  a.spawn ⟨group, name, job, a.now + delay, none⟩

/-- The task of a number. -/
def task? (a : Agenda J) (id : Nat) : Option (Task J) := a.tasks.lookup id

/-- The numbers of the tasks that are due, in the order of the agenda. -/
def due (a : Agenda J) : List Nat := (a.tasks.filter fun t ↦ t.2.due ≤ a.now).map (·.1)

/-- The next moment after now, up to `horizon`, at which a task is due. -/
def nextDue? (a : Agenda J) (horizon : Nat) : Option Nat :=
  ((a.tasks.map (·.2.due)).filter fun d ↦ a.now < d && d ≤ horizon).min?

/-- The agenda with one task changed, or taken off. -/
def update (a : Agenda J) (id : Nat) (f : Task J → Option (Task J)) : Agenda J :=
  { a with tasks := a.tasks.filterMap fun t ↦
      if t.1 = id then (f t.2).map fun task ↦ (t.1, task) else some t }

/-- A task with a run behind it: a periodic one waits for its next run, another one is finished. -/
def afterRun (t : Task J) : Option (Task J) :=
  t.period.map fun p ↦ { t with due := t.due + p }

/-- Takes the tasks that cannot run off the agenda. -/
def dropUnrunnable (a : Agenda J) : Agenda J :=
  { a with tasks := a.tasks.filter (·.2.isRunnable) }

/-- The number of tasks of a group that are not finished. -/
def active (a : Agenda J) (group : String) : Nat :=
  (a.tasks.filter fun t ↦ t.2.group = group).length

/-- Was the group shut down? -/
def isShutDown (a : Agenda J) (group : String) : Bool := a.closed.contains group

/-- Takes all tasks of a group off the agenda. -/
def shutdown (a : Agenda J) (group : String) : Agenda J :=
  { a with
    tasks := a.tasks.filter fun t ↦ t.2.group ≠ group
    closed := if a.closed.contains group then a.closed else a.closed ++ [group] }

/-- The lines of a shutdown. With some grace the periodic tasks say that they stopped, in the order
of their names; without it every task is warned about. `graceText` is how the grace is written. -/
def shutdownLines (a : Agenda J) (group : String) (grace : UInt64) (graceText : String) :
    List LogLine :=
  let tasks := (a.tasks.filter fun t ↦ t.2.group = group).map (·.2)
  let lines : List LogLine :=
    if grace = 0 then
      tasks.map fun t ↦ .warn s!"Task {t.label} did not stop within {graceText}, aborting"
    else ((tasks.filterMap Task.stopLine?).mergeSort fun a b ↦ decide (a ≤ b)).map LogLine.debug
  lines ++ [.info s!"{group} tasks stopped"]

end Agenda

/-- A world with an agenda, and what the jobs do in it. A job gives back itself as it is for its
next run. -/
structure Host (J S : Type) where
  agenda : S → Agenda J
  withAgenda : S → Agenda J → S
  perform : J → S → RunOutcome × J × S
  log : S → List LogLine → S

namespace Host

variable {J S : Type} (h : Host J S)

/-- Changes the agenda of a world. -/
def modify (s : S) (f : Agenda J → Agenda J) : S := h.withAgenda s (f (h.agenda s))

/-- Runs the task of a number, if it is still there. -/
def runTask (s : S) (id : Nat) : S :=
  match (h.agenda s).task? id with
  | none => s
  | some t =>
    let s := h.modify s (·.update id Agenda.afterRun)
    let (outcome, job, s) := h.perform t.job s
    let s := h.modify s (·.update id fun t ↦ some { t with job })
    h.log s (t.runLines outcome)

/-- Runs every task that is due now. -/
def runDueOnce (s : S) : S := (h.agenda s).due.foldl h.runTask s

/-- Runs every task that is due now, and then those that these spawned for this very moment. -/
def runDue (s : S) : S := h.runDueOnce (h.runDueOnce s)

/-- Moves the clock of a world. -/
def moveTo (s : S) (now : Nat) : S := h.modify s fun a ↦ { a with now }

/-- Runs everything that is due up to the moment `horizon`, moment by moment. Each round moves the
clock, so as many rounds as milliseconds are enough. -/
def runThrough (horizon : Nat) : Nat → S → S
  | 0, s => h.runDue s
  | rounds + 1, s =>
    let s := h.runDue s
    match (h.agenda s).nextDue? horizon with
    | none => s
    | some moment => runThrough horizon rounds (h.moveTo s moment)

/-- Lets `ms` milliseconds pass. As soon as any time passes, the tasks that cannot run are over. -/
def advance (ms : Nat) (s : S) : S :=
  if ms = 0 then s
  else
    let s := h.modify s Agenda.dropUnrunnable
    let horizon := (h.agenda s).now + ms
    h.moveTo (h.runThrough horizon ms s) horizon

end Host

/-! ### Scripted tasks -/

/-- A job that follows a script: the outcomes of its runs, one after the other; past its end all is
well. -/
structure Script where
  name : String
  outcomes : List RunOutcome
  deriving Inhabited

/-- Tasks that follow scripts, what they logged, and when they ran. -/
structure Rehearsal where
  agenda : Agenda Script
  log : Array LogLine
  runs : Array (String × Nat)
  deriving Inhabited

namespace Rehearsal

/-- Nothing spawned, nothing logged, nothing run. -/
def new : Rehearsal := ⟨.empty, #[], #[]⟩

/-- One run of a script. -/
def perform (script : Script) (r : Rehearsal) : RunOutcome × Script × Rehearsal :=
  (script.outcomes.headD .done, { script with outcomes := script.outcomes.drop 1 },
    { r with runs := r.runs.push (script.name, r.agenda.now) })

/-- The world of scripted tasks. -/
def host : Host Script Rehearsal where
  agenda := agenda
  withAgenda r agenda := { r with agenda }
  perform := perform
  log r lines := { r with log := r.log ++ lines.toArray }

end Rehearsal

end SensorCluster
