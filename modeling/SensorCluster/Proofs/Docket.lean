import SensorCluster.Cluster.Node
import Mathlib.Data.List.Nodup
import Mathlib.Data.List.Perm.Basic

/-!
# The docket

A recovery has two sides. On the agenda it is a task; beside it the id of its receiver is marked as
pending, so that no second recovery is scheduled for it. The mark is set when the task is, and
cleared when the task has run. The `Docket` is both, and **all that can happen to it is a `Step`**.

## What the steps keep

* `Tidy`: the tasks have different numbers, and a recovery runs once, in the group of the fault
  tolerance.
* `Matched`: nobody is marked twice, and the marks are those of the recoveries in flight and of
  those that were dropped. A step drops recoveries when it takes them off the agenda without a run;
  it says so itself, by the list that it carries.

`Step.effect` says what a step does to the recoveries and to the marks, and everything else is
proved from that.
-/

namespace SensorCluster

open Cluster (healingGroup)

/-- The receiver that a duty recovers. -/
def Duty.recovers? : Duty → Option String
  | .recover id => some id
  | _ => none

/-- Only a recovery recovers somebody. -/
theorem Duty.recovers?_eq_some {duty : Duty} {id : String} (h : duty.recovers? = some id) :
    duty = .recover id := by
  cases duty with
  | recover => exact congrArg Duty.recover (Option.some.inj h)
  | _ => cases h

/-- The recoveries among some tasks: the number of the task and the id of the receiver. -/
def recoveriesAmong (tasks : List (Nat × Task Duty)) : List (Nat × String) :=
  tasks.filterMap fun t ↦ t.2.job.recovers?.map fun id ↦ (t.1, id)

/-- What a cluster has still to do. -/
structure Docket where
  agenda : Agenda Duty
  /-- The receivers with a recovery under way. -/
  pending : List String
  recoveriesScheduled : Counter

/-! ### Tasks and recoveries -/

theorem recoveriesAmong_append (tasks more : List (Nat × Task Duty)) :
    recoveriesAmong (tasks ++ more) = recoveriesAmong tasks ++ recoveriesAmong more :=
  List.filterMap_append

theorem recoveriesAmong_cons_none {t : Nat × Task Duty} (h : t.2.job.recovers? = none)
    (rest : List (Nat × Task Duty)) : recoveriesAmong (t :: rest) = recoveriesAmong rest :=
  List.filterMap_cons_none (by rw [h]; rfl)

theorem recoveriesAmong_cons_some {t : Nat × Task Duty} {id : String}
    (h : t.2.job.recovers? = some id) (rest : List (Nat × Task Duty)) :
    recoveriesAmong (t :: rest) = (t.1, id) :: recoveriesAmong rest :=
  List.filterMap_cons_some (by rw [h]; rfl)

/-- A recovery among tasks is one of the tasks. -/
theorem mem_recoveriesAmong {tasks : List (Nat × Task Duty)} {n : Nat} {id : String} :
    (n, id) ∈ recoveriesAmong tasks ↔ ∃ t, (n, t) ∈ tasks ∧ t.job.recovers? = some id := by
  simp only [recoveriesAmong, List.mem_filterMap, Option.map_eq_some_iff, Prod.mk.injEq]
  constructor
  · rintro ⟨⟨m, t⟩, hmem, other, hid, rfl, rfl⟩
    exact ⟨t, hmem, hid⟩
  · rintro ⟨t, hmem, hid⟩
    exact ⟨(n, t), hmem, id, hid, rfl, rfl⟩

/-- To take tasks out that are no recoveries takes no recoveries out. -/
theorem recoveriesAmong_filter {tasks : List (Nat × Task Duty)} {p : Nat × Task Duty → Bool}
    (h : ∀ t ∈ tasks, ∀ id, t.2.job.recovers? = some id → p t = true) :
    recoveriesAmong (tasks.filter p) = recoveriesAmong tasks := by
  induction tasks with
  | nil => rfl
  | cons t rest ih =>
    obtain ⟨hhead, hrest⟩ := List.forall_mem_cons.1 h
    cases hid : t.2.job.recovers? with
    | none =>
      rw [recoveriesAmong_cons_none hid, ← ih hrest, List.filter_cons]
      split
      · exact recoveriesAmong_cons_none hid _
      · rfl
    | some id =>
      rw [List.filter_cons_of_pos (hhead id hid), recoveriesAmong_cons_some hid,
        recoveriesAmong_cons_some hid, ih hrest]

/-- Recoveries have the numbers of their tasks, in order. -/
theorem numbers_recoveriesAmong_sublist (tasks : List (Nat × Task Duty)) :
    ((recoveriesAmong tasks).map (·.1)).Sublist (tasks.map (·.1)) := by
  induction tasks with
  | nil => exact .slnil
  | cons t rest ih =>
    cases hid : t.2.job.recovers? with
    | none =>
      rw [recoveriesAmong_cons_none hid]
      exact ih.cons _
    | some id =>
      rw [recoveriesAmong_cons_some hid]
      exact ih.cons_cons _

namespace Agenda

variable {J : Type} {a : Agenda J} {n : Nat} {t : Task J}

/-- An update gives nobody another number. -/
theorem numbers_update_sublist (a : Agenda J) (n : Nat) (f : Task J → Option (Task J)) :
    ((a.update n f).tasks.map (·.1)).Sublist (a.tasks.map (·.1)) := by
  rw [update]
  generalize a.tasks = tasks
  induction tasks with
  | nil => exact .slnil
  | cons t rest ih =>
    rw [List.filterMap_cons, List.map_cons]
    split
    · exact ih.cons _
    · next task heq =>
      have hnumber : task.1 = t.1 := by
        split at heq
        · obtain ⟨_, -, rfl⟩ := Option.map_eq_some_iff.1 heq
          rfl
        · rw [← Option.some.inj heq]
      rw [List.map_cons, hnumber]
      exact ih.cons_cons _

/-- Who is on the agenda after an update was there before, as it is or as what it has become. -/
theorem mem_update {f : Task J → Option (Task J)} {other : Nat × Task J}
    (h : other ∈ (a.update n f).tasks) :
    other ∈ a.tasks ∨ ∃ t, (other.1, t) ∈ a.tasks ∧ f t = some other.2 := by
  obtain ⟨⟨m, t⟩, hmem, heq⟩ := List.mem_filterMap.1 h
  split at heq
  · obtain ⟨task, htask, rfl⟩ := Option.map_eq_some_iff.1 heq
    exact .inr ⟨t, hmem, htask⟩
  · rw [← Option.some.inj heq]
    exact .inl hmem

/-- A task that is given the job that it has is as it was. -/
theorem update_job_eq_self {job : J} (h : ∀ t, (n, t) ∈ a.tasks → t.job = job) :
    (a.update n fun t ↦ some { t with job }) = a := by
  have hsame : ∀ other ∈ a.tasks, (if other.1 = n then
      (some { other.2 with job }).map fun task ↦ (other.1, task) else some other) = some other := by
    rintro ⟨m, t⟩ hother
    split
    · next heq =>
      obtain rfl : m = n := heq
      rw [← h t hother]
      rfl
    · rfl
  have htasks := (List.filterMap_congr hsame).trans List.filterMap_some
  exact congrArg (fun tasks ↦ { a with tasks }) htasks

/-- A task whose number nobody else has stands alone in its place. -/
theorem exists_split (h : (n, t) ∈ a.tasks) (hnumbers : (a.tasks.map (·.1)).Nodup) :
    ∃ front back, a.tasks = front ++ (n, t) :: back ∧ (∀ other ∈ front ++ back, other.1 ≠ n) ∧
      ∀ f, (a.update n f).tasks = front ++ ((f t).map fun task ↦ (n, task)).toList ++ back := by
  obtain ⟨front, back, hsplit⟩ := List.append_of_mem h
  have hothers : ∀ other ∈ front ++ back, other.1 ≠ n := by
    rw [hsplit, List.map_append, List.map_cons, List.nodup_middle, ← List.map_append] at hnumbers
    exact fun other hother heq ↦
      (List.nodup_cons.1 hnumbers).1 (List.mem_map.2 ⟨other, hother, heq⟩)
  refine ⟨front, back, hsplit, hothers, fun f ↦ ?_⟩
  -- the update passes over everybody of another number
  have hsame : ∀ l : List (Nat × Task J), (∀ other ∈ l, other.1 ≠ n) →
      (l.filterMap fun t ↦ if t.1 = n then (f t.2).map fun task ↦ (t.1, task) else some t) = l := by
    intro l hl
    refine (List.filterMap_congr fun other hother ↦ if_neg (hl other hother)).trans ?_
    exact List.filterMap_some
  show a.tasks.filterMap _ = _
  rw [hsplit, List.filterMap_append, List.filterMap_cons,
    hsame front fun other hother ↦ hothers other (List.mem_append_left _ hother),
    hsame back fun other hother ↦ hothers other (List.mem_append_right _ hother), List.append_assoc]
  dsimp only
  rw [if_pos rfl]
  cases f t <;> rfl

/-- A task whose number nobody else has is found under it. -/
theorem task?_eq_some (h : (n, t) ∈ a.tasks) (hnumbers : (a.tasks.map (·.1)).Nodup) :
    a.task? n = some t := by
  obtain ⟨front, back, hsplit, hothers, -⟩ := exists_split h hnumbers
  refine List.lookup_eq_some_iff.2 ⟨front, back, hsplit, fun other hother ↦ bne_iff_ne.2 ?_⟩
  exact Ne.symm (hothers other (List.mem_append_left _ hother))

/-- A task that is found by its number is on the agenda. -/
theorem mem_of_task? (h : a.task? n = some t) : (n, t) ∈ a.tasks := by
  obtain ⟨front, back, hsplit, -⟩ := List.lookup_eq_some_iff.1 h
  exact hsplit ▸ List.mem_append_right _ List.mem_cons_self

end Agenda

namespace Docket

/-- The recoveries that wait on the agenda. -/
def recoveries (d : Docket) : List (Nat × String) := recoveriesAmong d.agenda.tasks

/-- The receivers whose recoveries wait on the agenda. -/
def inFlight (d : Docket) : List String := d.recoveries.map (·.2)

/-! ### Steps -/

/-- The docket with one more recovery. -/
def schedule (d : Docket) (delay : Nat) (id : String) : Docket :=
  ⟨d.agenda.spawnDelayed healingGroup ("recover-" ++ id) delay (.recover id), d.pending ++ [id],
    d.recoveriesScheduled.increment⟩

/-- The docket without the mark that belongs to a duty. -/
def unmark (d : Docket) (duty : Duty) : Docket where
  agenda := d.agenda
  pending :=
    match duty.recovers? with
    | some id => d.pending.filter (· ≠ id)
    | none => d.pending
  recoveriesScheduled := d.recoveriesScheduled

/-- The docket when the run of a task is over. A recovery takes its mark with it. -/
def finish (d : Docket) (n : Nat) (duty : Duty) : Docket :=
  { d with agenda := d.agenda.update n Agenda.afterRun }.unmark duty

/-- One step of a docket, with the receivers whose recoveries it drops. -/
inductive Step : Docket → List String → Docket → Prop
  | schedule {d : Docket} {id : String} (delay : Nat) (h : id ∉ d.pending) :
      Step d [] (d.schedule delay id)
  /-- Another task is put on the agenda, at its end or in front. -/
  | spawn {d : Docket} {t : Task Duty} (h : t.job.recovers? = none) :
      Step d [] { d with agenda := d.agenda.spawn t }
  | spawnFirst {d : Docket} {t : Task Duty} (h : t.job.recovers? = none) :
      Step d [] { d with agenda := d.agenda.spawnFirst t }
  | finish {d : Docket} {n : Nat} {t : Task Duty} (h : (n, t) ∈ d.agenda.tasks) :
      Step d [] (d.finish n t.job)
  | settle (d : Docket) : Step d [] { d with agenda := d.agenda.dropUnrunnable }
  | wait (d : Docket) (now : Nat) : Step d [] { d with agenda := { d.agenda with now } }
  /-- A group is shut down. With the fault tolerance all recoveries are dropped. -/
  | stop (d : Docket) (group : String) :
      Step d (if group = healingGroup then d.inFlight else [])
        { d with agenda := d.agenda.shutdown group }

/-- Steps of a docket, one after the other, with all that they drop. -/
inductive Run : Docket → List String → Docket → Prop
  | refl (d : Docket) : Run d [] d
  | tail {d d' d'' : Docket} {dropped more : List String} (h : Run d dropped d')
      (hstep : Step d' more d'') : Run d (dropped ++ more) d''

variable {d d' d'' : Docket} {dropped more : List String}

theorem Run.single (h : Step d dropped d') : Run d dropped d' := .tail (.refl d) h

theorem Run.of_eq (h : d' = d) : Run d [] d' := h ▸ .refl d

/-- Runs go on, and drop what both drop. -/
theorem Run.trans (h : Run d dropped d') (h' : Run d' more d'') : Run d (dropped ++ more) d'' := by
  induction h' with
  | refl =>
    rw [List.append_nil]
    exact h
  | tail _ hstep ih =>
    rw [← List.append_assoc]
    exact ih.tail hstep

/-- The case in which the second one drops nothing. -/
theorem Run.trans_nil (h : Run d dropped d') (h' : Run d' [] d'') : Run d dropped d'' := by
  rw [← List.append_nil dropped]
  exact h.trans h'

/-! ### Shut down or not -/

/-- Nothing is dropped as long as the fault tolerance was not shut down, and it is never opened
again. -/
theorem Step.isOpen (hstep : Step d dropped d')
    (h : d'.agenda.isShutDown healingGroup = false) :
    d.agenda.isShutDown healingGroup = false ∧ dropped = [] := by
  cases hstep with
  | stop group =>
    -- a group that is shut down is closed afterwards, if it was not before
    have hkept : healingGroup ∉ d.agenda.closed ∧ group ≠ healingGroup := by
      rw [Agenda.isShutDown, List.contains_eq_mem, decide_eq_false_iff_not, Agenda.shutdown] at h
      dsimp only at h
      split at h
      · next hclosed =>
        refine ⟨h, fun heq ↦ h ?_⟩
        rw [← heq]
        simpa using hclosed
      · rw [List.mem_append, List.mem_singleton, not_or] at h
        exact ⟨h.1, Ne.symm h.2⟩
    exact ⟨by simpa [Agenda.isShutDown] using hkept.1, if_neg hkept.2⟩
  | _ => exact ⟨h, rfl⟩

/-- A run that ends before a shutdown drops nothing. -/
theorem Run.isOpen (hrun : Run d dropped d') (h : d'.agenda.isShutDown healingGroup = false) :
    dropped = [] := by
  have hboth : d.agenda.isShutDown healingGroup = false ∧ dropped = [] := by
    induction hrun with
    | refl => exact ⟨h, rfl⟩
    | tail _ hstep ih =>
      obtain ⟨hbefore, rfl⟩ := hstep.isOpen h
      obtain ⟨hstart, rfl⟩ := ih hbefore
      exact ⟨hstart, rfl⟩
  exact hboth.2

/-! ### Order on the agenda -/

/-- How a docket is kept. -/
structure Tidy (d : Docket) : Prop where
  /-- The tasks have different numbers. -/
  numbers : (d.agenda.tasks.map (·.1)).Nodup
  numbers_lt : ∀ t ∈ d.agenda.tasks, t.1 < d.agenda.nextId
  /-- A recovery runs once, in the group of the fault tolerance. -/
  recovery : ∀ t ∈ d.agenda.tasks, ∀ id, t.2.job.recovers? = some id →
    t.2.period = none ∧ t.2.group = healingGroup

/-- Recoveries have different numbers, as tasks have. -/
theorem Tidy.numbers_recoveries (h : d.Tidy) : (d.recoveries.map (·.1)).Nodup :=
  h.numbers.sublist (numbers_recoveriesAmong_sublist _)

/-- Tasks that are taken off leave the others in order. -/
theorem Tidy.filter (h : d.Tidy) {p : Nat × Task Duty → Bool}
    (htasks : d'.agenda.tasks = d.agenda.tasks.filter p)
    (hnext : d'.agenda.nextId = d.agenda.nextId) : d'.Tidy where
  numbers := htasks ▸ h.numbers.sublist (List.filter_sublist.map _)
  numbers_lt t ht := by
    rw [hnext]
    exact h.numbers_lt t (List.mem_filter.1 (htasks ▸ ht)).1
  recovery t ht := h.recovery t (List.mem_filter.1 (htasks ▸ ht)).1

/-- A task with the next number is added, somewhere. -/
theorem Tidy.add (h : d.Tidy) {t : Task Duty}
    (htasks : d'.agenda.tasks.Perm ((d.agenda.nextId, t) :: d.agenda.tasks))
    (hnext : d'.agenda.nextId = d.agenda.nextId + 1)
    (ht : ∀ id, t.job.recovers? = some id → t.period = none ∧ t.group = healingGroup) :
    d'.Tidy where
  numbers := by
    refine (htasks.map _).nodup_iff.2 (List.nodup_cons.2 ⟨fun hmem ↦ ?_, h.numbers⟩)
    obtain ⟨other, hother, heq⟩ := List.mem_map.1 hmem
    exact absurd heq (Nat.ne_of_lt (h.numbers_lt other hother))
  numbers_lt other hother := by
    rw [hnext]
    rcases List.mem_cons.1 (htasks.mem_iff.1 hother) with rfl | hother
    · exact Nat.lt_succ_self _
    · exact Nat.lt_succ_of_lt (h.numbers_lt other hother)
  recovery other hother := by
    rcases List.mem_cons.1 (htasks.mem_iff.1 hother) with rfl | hother
    · exact ht
    · exact h.recovery other hother

/-- A task that has run keeps its number, or is taken off. -/
theorem Tidy.finish (h : d.Tidy) (n : Nat) (duty : Duty) : (d.finish n duty).Tidy where
  numbers := h.numbers.sublist (d.agenda.numbers_update_sublist n Agenda.afterRun)
  numbers_lt other hother := by
    rcases Agenda.mem_update hother with hother | ⟨t, hother, -⟩
    · exact h.numbers_lt other hother
    · exact h.numbers_lt (other.1, t) hother
  recovery other hother id hid := by
    rcases Agenda.mem_update hother with hother | ⟨t, hother, hrun⟩
    · exact h.recovery other hother id hid
    · -- a task that waits for its next run is periodic, and so it is no recovery
      obtain ⟨p, hperiod, heq⟩ := Option.map_eq_some_iff.1 hrun
      rw [← heq] at hid
      rw [(h.recovery _ hother id hid).1] at hperiod
      cases hperiod

/-- **One step** leaves a docket in order. -/
theorem Tidy.step (h : d.Tidy) (hstep : Step d dropped d') : d'.Tidy := by
  -- only two steps bring a task in; the others take tasks off or leave them
  cases hstep with
  | @schedule id delay =>
    let t : Task Duty :=
      ⟨healingGroup, "recover-" ++ id, .recover id, d.agenda.now + delay, none⟩
    exact h.add (t := t) (List.perm_append_singleton _ _) rfl fun _ _ ↦ ⟨rfl, rfl⟩
  | spawn hother =>
    refine h.add (List.perm_append_singleton _ _) rfl fun id hid ↦ ?_
    rw [hother] at hid
    cases hid
  | spawnFirst hother =>
    refine h.add (.refl _) rfl fun id hid ↦ ?_
    rw [hother] at hid
    cases hid
  | finish => exact h.finish _ _
  | settle | stop => exact h.filter rfl rfl
  | wait => exact ⟨h.numbers, h.numbers_lt, h.recovery⟩

/-- A run leaves a docket in order, step by step. -/
theorem Tidy.run (h : d.Tidy) (hrun : Run d dropped d') : d'.Tidy := by
  induction hrun with
  | refl => exact h
  | tail _ hstep ih => exact ih.step hstep

/-! ### Marks and recoveries -/

/-- The recoveries when the run of a task is over: those before it, what is left of it, those
behind. -/
theorem recoveries_finish (h : d.Tidy) {n : Nat} {t : Task Duty} (hmem : (n, t) ∈ d.agenda.tasks) :
    ∃ front back, d.agenda.tasks = front ++ (n, t) :: back ∧
      (∀ other ∈ front ++ back, other.1 ≠ n) ∧
      (d.finish n t.job).recoveries = recoveriesAmong front ++
        recoveriesAmong ((Agenda.afterRun t).map fun task ↦ (n, task)).toList ++
        recoveriesAmong back := by
  obtain ⟨front, back, hsplit, hothers, hupdate⟩ := Agenda.exists_split hmem h.numbers
  refine ⟨front, back, hsplit, hothers, ?_⟩
  rw [← recoveriesAmong_append, ← recoveriesAmong_append]
  exact congrArg recoveriesAmong (hupdate Agenda.afterRun)

/-- A task of another duty leaves the recoveries as they are. -/
theorem recoveries_finish_of_none (h : d.Tidy) {n : Nat} {t : Task Duty}
    (hmem : (n, t) ∈ d.agenda.tasks) (hother : t.job.recovers? = none) :
    (d.finish n t.job).recoveries = d.recoveries := by
  obtain ⟨front, back, hsplit, -, hafter⟩ := recoveries_finish h hmem
  have hnothing : recoveriesAmong ((Agenda.afterRun t).map fun task ↦ (n, task)).toList = [] := by
    rw [Agenda.afterRun]
    cases t.period with
    | none => rfl
    | some p => exact recoveriesAmong_cons_none hother []
  rw [hafter, hnothing, List.append_nil, recoveries, hsplit, recoveriesAmong_append,
    recoveriesAmong_cons_none hother]

/-- A recovery that has run is taken out, and nobody else. -/
theorem recoveries_finish_of_some (h : d.Tidy) {n : Nat} {t : Task Duty} {id : String}
    (hmem : (n, t) ∈ d.agenda.tasks) (hid : t.job.recovers? = some id) :
    (d.finish n t.job).recoveries = d.recoveries.filter (·.1 ≠ n) := by
  obtain ⟨front, back, hsplit, hothers, hafter⟩ := recoveries_finish h hmem
  -- a recovery has no period, so nothing is left of it when it has run
  have hgone : Agenda.afterRun t = none := by
    rw [Agenda.afterRun, (h.recovery _ hmem id hid).1]
    rfl
  have hkept : ∀ tasks : List (Nat × Task Duty), (∀ other ∈ tasks, other.1 ≠ n) →
      (recoveriesAmong tasks).filter (·.1 ≠ n) = recoveriesAmong tasks := by
    intro tasks htasks
    refine List.filter_eq_self.2 fun r hr ↦ ?_
    obtain ⟨other, hother, -⟩ := mem_recoveriesAmong.1 hr
    simpa using htasks _ hother
  rw [hafter, hgone, recoveries, hsplit, recoveriesAmong_append, recoveriesAmong_cons_some hid,
    List.filter_append, List.filter_cons_of_neg (by simp),
    hkept front fun other hother ↦ hothers other (List.mem_append_left _ hother),
    hkept back fun other hother ↦ hothers other (List.mem_append_right _ hother)]
  exact congrArg (· ++ _) (List.append_nil _)

/-- **All that a step can do** to recoveries and marks: nothing; one of each is added; one of each
is taken out; or all recoveries are dropped. -/
theorem Step.effect (h : d.Tidy) (hstep : Step d dropped d') :
    (dropped = [] ∧ d'.recoveries = d.recoveries ∧ d'.pending = d.pending) ∨
    (dropped = [] ∧ ∃ n id, id ∉ d.pending ∧ d'.recoveries = d.recoveries ++ [(n, id)] ∧
      d'.pending = d.pending ++ [id]) ∨
    (dropped = [] ∧ ∃ n id, (n, id) ∈ d.recoveries ∧
      d'.recoveries = d.recoveries.filter (·.1 ≠ n) ∧ d'.pending = d.pending.filter (· ≠ id)) ∨
    (dropped = d.inFlight ∧ d'.recoveries = [] ∧ d'.pending = d.pending) := by
  cases hstep with
  | @schedule id delay hnew =>
    exact .inr (.inl ⟨rfl, d.agenda.nextId, id, hnew, recoveriesAmong_append _ _, rfl⟩)
  | spawn hother =>
    refine .inl ⟨rfl, (recoveriesAmong_append _ _).trans ?_, rfl⟩
    rw [recoveriesAmong_cons_none hother]
    exact List.append_nil _
  | spawnFirst hother => exact .inl ⟨rfl, recoveriesAmong_cons_none hother _, rfl⟩
  | @finish n t hmem =>
    cases hid : t.job.recovers? with
    | none =>
      refine .inl ⟨rfl, recoveries_finish_of_none h hmem hid, ?_⟩
      rw [Docket.finish, unmark, hid]
    | some id =>
      refine .inr (.inr (.inl ⟨rfl, n, id, mem_recoveriesAmong.2 ⟨t, hmem, hid⟩,
        recoveries_finish_of_some h hmem hid, ?_⟩))
      rw [Docket.finish, unmark, hid]
  | settle =>
    refine .inl ⟨rfl, recoveriesAmong_filter fun t ht id hid ↦ ?_, rfl⟩
    rw [Task.isRunnable, (h.recovery t ht id hid).1]
    rfl
  | wait => exact .inl ⟨rfl, rfl, rfl⟩
  | stop group =>
    -- the recoveries are in the group of the fault tolerance, and no other group's shutdown
    -- concerns them
    by_cases hgroup : group = healingGroup
    · subst hgroup
      refine .inr (.inr (.inr ⟨if_pos rfl, ?_, rfl⟩))
      refine List.filterMap_eq_nil_iff.2 fun t ht ↦ ?_
      obtain ⟨hmem, hother⟩ := List.mem_filter.1 ht
      cases hid : t.2.job.recovers? with
      | none => rfl
      | some id => exact absurd (h.recovery t hmem id hid).2 (by simpa using hother)
    · refine .inl ⟨if_neg hgroup, recoveriesAmong_filter fun t ht id hid ↦ ?_, rfl⟩
      rw [(h.recovery t ht id hid).2]
      simpa using Ne.symm hgroup

/-- Every mark is that of a recovery in flight, or of one that was dropped, and nobody is marked
twice. -/
structure Matched (dropped : List String) (d : Docket) : Prop where
  marks : d.pending.Perm (d.inFlight ++ dropped)
  once : d.pending.Nodup

/-- Nobody in flight was dropped, -/
theorem Matched.nodup (h : d.Matched dropped) : (d.inFlight ++ dropped).Nodup :=
  h.marks.nodup_iff.1 h.once

/-- nobody is in flight twice, -/
theorem Matched.inFlight_nodup (h : d.Matched dropped) : d.inFlight.Nodup :=
  (List.nodup_append.1 h.nodup).1

/-- and whoever is in flight is marked. -/
theorem Matched.inFlight_subset (h : d.Matched dropped) : d.inFlight ⊆ d.pending :=
  fun _ hid ↦ h.marks.mem_iff.2 (List.mem_append_left _ hid)

/-- Each recovery in flight has its own receiver, so its number and its receiver name the same
one. -/
theorem Matched.inFlight_filter (h : d.Matched dropped) (htidy : d.Tidy) {n : Nat} {id : String}
    (hmem : (n, id) ∈ d.recoveries) :
    (d.recoveries.filter (·.1 ≠ n)).map (·.2) = d.inFlight.filter (· ≠ id) := by
  rw [inFlight, List.filter_map]
  refine congrArg (List.map _) (List.filter_congr fun r hr ↦ ?_)
  have hiff : r.1 = n ↔ r.2 = id := by
    constructor
    · intro heq
      rw [List.inj_on_of_nodup_map htidy.numbers_recoveries hr hmem heq]
    · intro heq
      rw [List.inj_on_of_nodup_map h.inFlight_nodup hr hmem heq]
  simp [hiff]

/-- **One step** keeps marks and recoveries matched. What it drops keeps its marks. -/
theorem Matched.step (h : d.Matched dropped) (htidy : d.Tidy) (hstep : Step d more d') :
    d'.Matched (dropped ++ more) := by
  rcases hstep.effect htidy with ⟨rfl, hrecoveries, hpending⟩ |
    ⟨rfl, n, id, hnew, hrecoveries, hpending⟩ | ⟨rfl, n, id, hmem, hrecoveries, hpending⟩ |
    ⟨rfl, hrecoveries, hpending⟩
  · rw [List.append_nil]
    exact ⟨by rw [inFlight, hrecoveries, hpending]; exact h.marks, hpending ▸ h.once⟩
  · rw [List.append_nil]
    refine ⟨?_, hpending ▸ List.nodup_append.2 ⟨h.once, List.nodup_singleton id, ?_⟩⟩
    · rw [inFlight, hrecoveries, hpending, List.map_append, List.append_assoc]
      refine (h.marks.append_right [id]).trans ?_
      rw [List.append_assoc]
      exact List.perm_append_comm.append_left _
    · rintro other hother _ hid rfl
      exact hnew (List.mem_singleton.1 hid ▸ hother)
  · -- whoever is in flight was not dropped, so the mark that goes is no dropped one
    have hin : id ∈ d.inFlight := List.mem_map.2 ⟨(n, id), hmem, rfl⟩
    have hkept : dropped.filter (· ≠ id) = dropped := by
      refine List.filter_eq_self.2 fun other hother ↦ ?_
      simpa using Ne.symm ((List.nodup_append.1 h.nodup).2.2 id hin other hother)
    rw [List.append_nil]
    refine ⟨?_, hpending ▸ h.once.filter _⟩
    rw [inFlight, hrecoveries, h.inFlight_filter htidy hmem, hpending]
    refine (h.marks.filter _).trans ?_
    rw [List.filter_append, hkept]
  · refine ⟨?_, hpending ▸ h.once⟩
    rw [inFlight, hrecoveries, hpending]
    exact h.marks.trans List.perm_append_comm

/-- **A run** keeps marks and recoveries matched. -/
theorem Matched.run (h : d.Matched dropped) (htidy : d.Tidy) (hrun : Run d more d') :
    d'.Matched (dropped ++ more) := by
  induction hrun with
  | refl =>
    rw [List.append_nil]
    exact h
  | tail hrun hstep ih =>
    rw [← List.append_assoc]
    exact ih.step (htidy.run hrun) hstep

/-! ### Many at once -/

/-- The docket with a recovery for each of these receivers, all but those that have one under
way. -/
def scheduleAll (delay : Nat) (d : Docket) (ids : List String) : Docket :=
  ids.foldl (fun d id ↦ if id ∈ d.pending then d else d.schedule delay id) d

theorem scheduleAll_cons_mem {id : String} (delay : Nat) (h : id ∈ d.pending) (rest : List String) :
    d.scheduleAll delay (id :: rest) = d.scheduleAll delay rest :=
  congrArg (fun d ↦ scheduleAll delay d rest) (if_pos h)

theorem scheduleAll_cons_new {id : String} (delay : Nat) (h : id ∉ d.pending)
    (rest : List String) :
    d.scheduleAll delay (id :: rest) = (d.schedule delay id).scheduleAll delay rest :=
  congrArg (fun d ↦ scheduleAll delay d rest) (if_neg h)

/-- To schedule many recoveries is to schedule them one after the other. -/
theorem scheduleAll_run (delay : Nat) (d : Docket) (ids : List String) :
    Run d [] (d.scheduleAll delay ids) := by
  induction ids generalizing d with
  | nil => exact .refl d
  | cons id rest ih =>
    by_cases h : id ∈ d.pending
    · rw [scheduleAll_cons_mem delay h]
      exact ih d
    · rw [scheduleAll_cons_new delay h]
      exact (Run.single (.schedule delay h)).trans (ih _)

/-- The docket with one more recovery for each of these receivers. -/
def withRecoveries (d : Docket) (delay : Nat) (ids : List String) : Docket where
  agenda := ids.foldl
    (fun a id ↦ a.spawnDelayed healingGroup ("recover-" ++ id) delay (.recover id)) d.agenda
  pending := d.pending ++ ids
  recoveriesScheduled := d.recoveriesScheduled + .ofNat ids.length

/-- The receivers of new recoveries are in flight, last of all. -/
theorem inFlight_withRecoveries (d : Docket) (delay : Nat) (ids : List String) :
    (d.withRecoveries delay ids).inFlight = d.inFlight ++ ids := by
  have hagenda : ∀ a : Agenda Duty, (recoveriesAmong (ids.foldl
      (fun a id ↦ a.spawnDelayed healingGroup ("recover-" ++ id) delay (.recover id)) a).tasks).map
        (·.2) = (recoveriesAmong a.tasks).map (·.2) ++ ids := by
    induction ids with
    | nil => exact fun a ↦ (List.append_nil _).symm
    | cons id rest ih =>
      intro a
      rw [List.foldl_cons, ih, Agenda.spawnDelayed, Agenda.spawn, recoveriesAmong_append,
        List.map_append, List.append_assoc]
      rfl
  exact hagenda d.agenda

/-- Of receivers that are named once each, those without a recovery under way get one. -/
theorem scheduleAll_spec (delay : Nat) (d : Docket) {ids : List String} (h : ids.Nodup) :
    d.scheduleAll delay ids = d.withRecoveries delay (ids.filter (· ∉ d.pending)) := by
  induction ids generalizing d with
  | nil =>
    rw [List.filter_nil, withRecoveries, List.append_nil]
    exact congrArg (Docket.mk d.agenda d.pending) (UInt64.add_zero _).symm
  | cons id rest ih =>
    obtain ⟨hid, hrest⟩ := List.nodup_cons.1 h
    by_cases hpending : id ∈ d.pending
    · rw [scheduleAll_cons_mem delay hpending, List.filter_cons_of_neg (by simpa using hpending)]
      exact ih d hrest
    · -- the new mark is not that of anybody still to come
      have hsame : rest.filter (· ∉ (d.schedule delay id).pending) =
          rest.filter (· ∉ d.pending) := by
        refine List.filter_congr fun other hother ↦ ?_
        have hne : other ≠ id := fun heq ↦ hid (heq ▸ hother)
        simp [schedule, hne]
      rw [scheduleAll_cons_new delay hpending, ih _ hrest, hsame,
        List.filter_cons_of_pos (by simpa using hpending)]
      simp only [withRecoveries, schedule, List.foldl_cons, List.append_assoc,
        List.singleton_append, List.length_cons, Counter.increment, UInt64.ofNat_add]
      rw [UInt64.add_assoc, UInt64.add_comm 1]
      rfl

/-! ### The task of a number -/

/-- Whatever task of a number is on the agenda has this duty, and nobody else will get the
number. -/
def Keeps (d : Docket) (n : Nat) (duty : Duty) : Prop :=
  n < d.agenda.nextId ∧ ∀ t, (n, t) ∈ d.agenda.tasks → t.job = duty

theorem Tidy.keeps_finish (h : d.Tidy) {n : Nat} {t : Task Duty} (hmem : (n, t) ∈ d.agenda.tasks) :
    (d.finish n t.job).Keeps n t.job := by
  have hsame : ∀ t', (n, t') ∈ d.agenda.tasks → t' = t := fun t' ht' ↦
    congrArg Prod.snd (List.inj_on_of_nodup_map h.numbers ht' hmem rfl)
  refine ⟨h.numbers_lt _ hmem, fun t' ht' ↦ ?_⟩
  rcases Agenda.mem_update ht' with ht' | ⟨before, hbefore, hrun⟩
  · rw [hsame t' ht']
  · obtain ⟨p, -, rfl⟩ := Option.map_eq_some_iff.1 hrun
    rw [hsame before hbefore]

theorem Keeps.schedule {n : Nat} {duty : Duty} (h : d.Keeps n duty) (delay : Nat) (id : String) :
    (d.schedule delay id).Keeps n duty := by
  refine ⟨Nat.lt_succ_of_lt h.1, fun t ht ↦ ?_⟩
  rcases List.mem_append.1 ht with ht | ht
  · exact h.2 t ht
  · exact absurd (congrArg Prod.fst (List.mem_singleton.1 ht)) (Nat.ne_of_lt h.1)

theorem Keeps.scheduleAll {n : Nat} {duty : Duty} (h : d.Keeps n duty) (delay : Nat)
    (ids : List String) : (d.scheduleAll delay ids).Keeps n duty := by
  induction ids generalizing d with
  | nil => exact h
  | cons id rest ih =>
    by_cases hpending : id ∈ d.pending
    · rw [scheduleAll_cons_mem delay hpending]
      exact ih h
    · rw [scheduleAll_cons_new delay hpending]
      exact ih (h.schedule delay id)

end Docket

end SensorCluster
