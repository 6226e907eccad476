import SensorCluster.Duration
import SensorCluster.Proofs.Docket
import Mathlib.Algebra.BigOperators.Group.Multiset.Basic
import Mathlib.Tactic.Abel

/-!
# Tasks keep to their timetable

Tasks are spawned, time passes, groups are shut down. **The runs of a task follow from when it is
spawned, with what period or delay, and when its group is shut down the next time** (`timetable`);
how its runs end does not matter, and the other tasks do not either (`runs_on_time`). Jobs are
scripted here: a script says how each run ends.

## What it rests on

* A run notes itself and leaves the task where it was, with its next moment before it, or takes it
  off (`runTask_eq`). Whoever values tasks by what they have before them therefore finds the same
  total before and after (`balance_runTask`), and so does he when time passes (`advance_spec`): the
  clock stops at every moment at which somebody is due, so nobody is ever overdue (`Orderly`).
* A value that takes into account which calls are to come does not change with a call either, once
  what the calls spawn is added (`Forecast.after`). By induction on the calls, what is there in the
  end is what was forecast in the beginning (`Forecast.afterAll`).

Two forecasts are made: of the runs, as a collection of names with moments, and of the number of
tasks of a group that are not finished.
-/

namespace SensorCluster

/-! ### What a task still has before it -/

namespace Task

variable {J : Type}

/-- The moments up to a horizon at which the task runs. -/
def moments (t : Task J) (horizon : Nat) : List Nat :=
  match t.period with
  | none => if t.due ≤ horizon then [t.due] else []
  | some p => (List.range ((horizon + p - t.due) / p)).map fun k ↦ t.due + k * p

/-- Is the task still there at the horizon? -/
def outlasts (t : Task J) (horizon : Nat) : Bool :=
  t.isRunnable && (t.period.isSome || decide (horizon < t.due))

variable {t : Task J} {horizon : Nat}

/-- A task can run unless its period is zero. -/
theorem isRunnable_iff : t.isRunnable = true ↔ t.period ≠ some 0 := decide_eq_true_iff

/-- Before it is due a task has no moments, -/
theorem moments_of_lt (h : horizon < t.due) : t.moments horizon = [] := by
  rw [moments]
  split
  · exact if_neg (Nat.not_le.2 h)
  · next p _ =>
    rcases Nat.eq_zero_or_pos p with rfl | hp
    · rw [Nat.div_zero]
      rfl
    · rw [Nat.div_eq_of_lt (by omega)]
      rfl

/-- and if it cannot run it never has any. -/
theorem moments_of_not_isRunnable (h : t.isRunnable = false) : t.moments horizon = [] := by
  have hzero : t.period = some 0 := by
    by_contra hperiod
    rw [isRunnable_iff.2 hperiod] at h
    cases h
  rw [moments, hzero]
  show (List.range (_ / 0)).map _ = []
  rw [Nat.div_zero]
  rfl

/-- A task is there until it is due. -/
theorem outlasts_of_lt (hrun : t.isRunnable = true) (h : horizon < t.due) :
    t.outlasts horizon = true := by
  simp [outlasts, hrun, h]

/-- **A task that is due runs, and then has before it what it has after the run.** -/
theorem moments_of_le (hrun : t.isRunnable = true) (h : t.due ≤ horizon) :
    t.moments horizon = t.due :: ((Agenda.afterRun t).map (·.moments horizon)).getD [] := by
  rw [isRunnable_iff] at hrun
  rw [Agenda.afterRun, moments]
  cases hperiod : t.period with
  | none => exact if_pos h
  | some p =>
    have hp : 0 < p := Nat.pos_of_ne_zero fun hzero ↦ hrun (hzero ▸ hperiod)
    -- one period less is left behind this run
    have hcount : (horizon + p - t.due) / p = (horizon + p - (t.due + p)) / p + 1 := by
      rw [show horizon + p - t.due = horizon + p - (t.due + p) + p by omega, Nat.add_div_right _ hp]
    show (List.range _).map _ = t.due :: (List.range _).map _
    rw [hcount, List.range_succ_eq_map, List.map_cons, List.map_map]
    refine List.cons_eq_cons.2 ⟨by omega, List.map_congr_left fun k _ ↦ ?_⟩
    show t.due + (k + 1) * p = t.due + p + k * p
    rw [Nat.add_one_mul]
    omega

end Task

namespace Rehearsal

/-- A scripted task after a run: a periodic one is further on in its script, another one is
finished. -/
def ran (t : Task Script) : Option (Task Script) :=
  (Agenda.afterRun t).map fun next ↦
    { next with job := { t.job with outcomes := t.job.outcomes.drop 1 } }

/-- The tasks have different numbers, new ones will have others, and none is overdue. -/
structure Orderly (r : Rehearsal) : Prop where
  numbers : (r.agenda.tasks.map (·.1)).Nodup
  fresh : ∀ e ∈ r.agenda.tasks, e.1 < r.agenda.nextId
  ahead : ∀ e ∈ r.agenda.tasks, r.agenda.now ≤ e.2.due

variable {r r' r'' : Rehearsal} {n : Nat} {t : Task Script}

/-- Where tasks are taken off and nothing else happens, the others stay in order. -/
theorem Orderly.sublist (hr : r.Orderly) (htasks : r'.agenda.tasks.Sublist r.agenda.tasks)
    (hnext : r'.agenda.nextId = r.agenda.nextId) (hnow : r'.agenda.now = r.agenda.now) :
    r'.Orderly where
  numbers := hr.numbers.sublist (htasks.map _)
  fresh e he := hnext ▸ hr.fresh e (htasks.subset he)
  ahead e he := hnow ▸ hr.ahead e (htasks.subset he)

/-! ### One run -/

/-- Two updates of one task are one. -/
theorem update_update (a : Agenda Script) (n : Nat) (f g : Task Script → Option (Task Script)) :
    (a.update n f).update n g = a.update n fun t ↦ (f t).bind g := by
  have htasks : ((a.tasks.filterMap fun e ↦
        if e.1 = n then (f e.2).map fun t ↦ (e.1, t) else some e).filterMap
      fun e ↦ if e.1 = n then (g e.2).map fun t ↦ (e.1, t) else some e) =
      a.tasks.filterMap fun e ↦
        if e.1 = n then ((f e.2).bind g).map fun t ↦ (e.1, t) else some e := by
    rw [List.filterMap_filterMap]
    refine List.filterMap_congr fun e _ ↦ ?_
    by_cases he : e.1 = n
    · simp only [if_pos he]
      cases f e.2 with
      | none => rfl
      | some t => exact if_pos he
    · simp only [if_neg he, Option.bind_some]
  exact congrArg (fun tasks ↦ { a with tasks }) htasks

/-- **A run** is noted with the present moment. The task goes on as it does after a run, in its
place, and everybody else is where they were. -/
theorem runTask_eq (hnumbers : (r.agenda.tasks.map (·.1)).Nodup) (h : (n, t) ∈ r.agenda.tasks) :
    ∃ front back lines, r.agenda.tasks = front ++ (n, t) :: back ∧ (∀ e ∈ front ++ back, e.1 ≠ n) ∧
      host.runTask r n =
        { agenda :=
            { r.agenda with tasks := front ++ ((ran t).map fun next ↦ (n, next)).toList ++ back }
          log := r.log ++ lines
          runs := r.runs.push (t.job.name, r.agenda.now) } := by
  obtain ⟨front, back, hsplit, hothers, hupdate⟩ := Agenda.exists_split h hnumbers
  have hfound : r.agenda.task? n = some t := Agenda.task?_eq_some h hnumbers
  have hwhole : ∀ f, r.agenda.update n f =
      { r.agenda with tasks := front ++ ((f t).map fun next ↦ (n, next)).toList ++ back } := fun f ↦
    show { r.agenda with tasks := (r.agenda.update n f).tasks } = _ by rw [hupdate]
  -- first the run takes the task off or moves it on, then the script is moved on
  have hran : (r.agenda.update n Agenda.afterRun).update n (fun next ↦
      some { next with job := { t.job with outcomes := t.job.outcomes.drop 1 } }) =
      { r.agenda with tasks := front ++ ((ran t).map fun next ↦ (n, next)).toList ++ back } := by
    rw [update_update, hwhole, ran]
    cases Agenda.afterRun t <;> rfl
  refine ⟨front, back, (t.runLines (t.job.outcomes.headD .done)).toArray, hsplit, hothers, ?_⟩
  rw [Host.runTask, show (host.agenda r).task? n = some t from hfound, ← hran]
  rfl

/-- A run leaves the tasks in order. Whoever is there afterwards was there before, or has run and
waits for a later moment. -/
theorem Orderly.runTask (hr : r.Orderly) (h : (n, t) ∈ r.agenda.tasks) (hrun : t.isRunnable = true)
    (hdue : t.due = r.agenda.now) :
    (host.runTask r n).Orderly ∧ (host.runTask r n).agenda.now = r.agenda.now ∧
      (∀ e ∈ r.agenda.tasks, e.1 ≠ n → e ∈ (host.runTask r n).agenda.tasks) ∧
      ∀ e ∈ (host.runTask r n).agenda.tasks, (e ∈ r.agenda.tasks ∧ e.1 ≠ n) ∨
        (e.2.isRunnable = true ∧ r.agenda.now < e.2.due) := by
  obtain ⟨front, back, lines, hsplit, hothers, heq⟩ := runTask_eq hr.numbers h
  have hback : ∀ e ∈ front ++ back, e ∈ r.agenda.tasks := fun e he ↦ by
    rw [hsplit]
    simp only [List.mem_append, List.mem_cons] at he ⊢
    tauto
  -- a periodic task goes on one period later, and periods are not zero
  have hnext : ∀ next, ran t = some next → next.isRunnable = true ∧ r.agenda.now < next.due := by
    intro next hnext
    obtain ⟨after, hafter, rfl⟩ := Option.map_eq_some_iff.1 hnext
    obtain ⟨p, hp, rfl⟩ := Option.map_eq_some_iff.1 hafter
    have hpos : p ≠ 0 := fun hzero ↦ Task.isRunnable_iff.1 hrun (hzero ▸ hp)
    refine ⟨hrun, ?_⟩
    show r.agenda.now < t.due + p
    omega
  -- who is there afterwards: somebody else, or the task itself, later
  have hmem : ∀ e ∈ front ++ ((ran t).map fun next ↦ (n, next)).toList ++ back,
      e ∈ front ++ back ∨ (e.1 = n ∧ e.2.isRunnable = true ∧ r.agenda.now < e.2.due) := by
    intro e he
    simp only [List.mem_append, Option.mem_toList, Option.map_eq_some_iff] at he ⊢
    rcases he with (he | ⟨next, hran, rfl⟩) | he
    · exact .inl (.inl he)
    · exact .inr ⟨rfl, hnext next hran⟩
    · exact .inl (.inr he)
  rw [heq]
  refine ⟨⟨?_, fun e he ↦ ?_, fun e he ↦ ?_⟩, rfl, fun e he hne ↦ ?_, fun e he ↦ ?_⟩
  · have hnumbers := hr.numbers
    rw [hsplit, List.map_append, List.map_cons] at hnumbers
    refine hnumbers.sublist ?_
    rw [List.map_append, List.map_append, List.append_assoc]
    refine List.Sublist.append_left ?_ _
    cases ran t with
    | none => exact List.sublist_cons_self _ _
    | some next => exact .refl _
  · rcases hmem e he with hold | ⟨hnumber, -⟩
    · exact hr.fresh e (hback e hold)
    · show e.1 < _
      rw [hnumber]
      exact hr.fresh _ h
  · rcases hmem e he with hold | ⟨-, -, hlater⟩
    · exact hr.ahead e (hback e hold)
    · exact Nat.le_of_lt hlater
  · rw [hsplit] at he
    simp only [List.mem_append, List.mem_cons] at he ⊢
    rcases he with he | rfl | he
    · exact .inl (.inl he)
    · exact absurd rfl hne
    · exact .inr he
  · rcases hmem e he with hold | ⟨-, hrunnable, hlater⟩
    · exact .inl ⟨hback e hold, hothers e hold⟩
    · exact .inr ⟨hrunnable, hlater⟩

/-! ### A balance of runs and tasks -/

section Balance

variable {M : Type} [AddCommMonoid M] {note : String × Nat → M} {worth : Task Script → M}
  {limit : Nat}

/-- What the runs so far are worth, and the tasks that wait. -/
def balance (note : String × Nat → M) (worth : Task Script → M) (r : Rehearsal) : M :=
  (r.runs.toList.map note).sum + (r.agenda.tasks.map fun e ↦ worth e.2).sum

/-- Up to a limit, what a task is worth is what its next run is worth and what it is worth
afterwards; a task that cannot run is worth nothing. -/
structure Anticipates (note : String × Nat → M) (worth : Task Script → M) (limit : Nat) : Prop where
  due : ∀ t : Task Script, t.isRunnable = true → t.due ≤ limit →
    worth t = note (t.job.name, t.due) + ((ran t).map worth).getD 0
  unrunnable : ∀ t : Task Script, t.isRunnable = false → worth t = 0

/-- **A run leaves the balance as it is.** -/
theorem balance_runTask (hw : Anticipates note worth limit) (hr : r.Orderly)
    (h : (n, t) ∈ r.agenda.tasks) (hrun : t.isRunnable = true) (hdue : t.due = r.agenda.now)
    (hlimit : r.agenda.now ≤ limit) :
    balance note worth (host.runTask r n) = balance note worth r := by
  obtain ⟨front, back, lines, hsplit, -, heq⟩ := runTask_eq hr.numbers h
  have hworth := hw.due t hrun (hdue ▸ hlimit)
  have hnext : ((((ran t).map fun next ↦ (n, next)).toList).map fun e ↦ worth e.2).sum =
      ((ran t).map worth).getD 0 := by
    cases ran t with
    | none => rfl
    | some next => exact List.sum_singleton
  rw [balance, balance, heq, hsplit]
  simp only [Array.toList_push, List.map_append, List.map_cons, List.map_nil, List.sum_append,
    List.sum_cons, List.sum_nil, hnext, hworth, hdue]
  abel

/-- What is worth nothing is not missed. -/
theorem sum_map_filter {f : Nat × Task Script → M} {p : Nat × Task Script → Bool}
    (tasks : List (Nat × Task Script)) (h : ∀ e ∈ tasks, p e = false → f e = 0) :
    ((tasks.filter p).map f).sum = (tasks.map f).sum := by
  induction tasks with
  | nil => rfl
  | cons e rest ih =>
    obtain ⟨he, hrest⟩ := List.forall_mem_cons.1 h
    rw [List.filter_cons, List.map_cons, List.sum_cons, ← ih hrest]
    split
    · rfl
    · next hp => rw [he (Bool.eq_false_iff.2 hp), zero_add]

/-- Tasks that cannot run are worth nothing. -/
theorem balance_dropUnrunnable (hw : Anticipates note worth limit) (r : Rehearsal) :
    balance note worth (host.modify r Agenda.dropUnrunnable) = balance note worth r :=
  congrArg (_ + ·) (sum_map_filter r.agenda.tasks fun e _ hrun ↦ hw.unrunnable e.2 hrun)

end Balance

/-- Whatever anticipates the runs up to a limit has the same balance in both worlds. -/
def Balanced (limit : Nat) (r r' : Rehearsal) : Prop :=
  ∀ (M : Type) [AddCommMonoid M] (note : String × Nat → M) (worth : Task Script → M),
    Anticipates note worth limit → balance note worth r' = balance note worth r

variable {limit : Nat}

theorem Balanced.refl (r : Rehearsal) : Balanced limit r r := fun _ _ _ _ _ ↦ rfl

/-- A balance is kept from world to world. -/
theorem Balanced.trans (h : Balanced limit r r') (h' : Balanced limit r' r'') :
    Balanced limit r r'' :=
  fun M _ note worth hw ↦ (h' M note worth hw).trans (h M note worth hw)

/-- Every task can run and waits for a moment after now. -/
def Awaits (r : Rehearsal) : Prop :=
  ∀ e ∈ r.agenda.tasks, e.2.isRunnable = true ∧ r.agenda.now < e.2.due

/-! ### The passing of time -/

/-- **All that is due runs**, one after the other. -/
theorem runAll_spec (due : List Nat) (hr : r.Orderly)
    (hrun : ∀ e ∈ r.agenda.tasks, e.2.isRunnable = true) (hnodup : due.Nodup)
    (hdue : ∀ n ∈ due, ∃ t, (n, t) ∈ r.agenda.tasks ∧ t.due = r.agenda.now)
    (hall : ∀ e ∈ r.agenda.tasks, e.2.due = r.agenda.now → e.1 ∈ due)
    (hlimit : r.agenda.now ≤ limit) :
    (due.foldl host.runTask r).Orderly ∧ (due.foldl host.runTask r).Awaits ∧
      (due.foldl host.runTask r).agenda.now = r.agenda.now ∧
        Balanced limit r (due.foldl host.runTask r) := by
  induction due generalizing r with
  | nil =>
    refine ⟨hr, fun e he ↦ ⟨hrun e he, ?_⟩, rfl, .refl r⟩
    exact Nat.lt_of_le_of_ne (hr.ahead e he) fun heq ↦ List.not_mem_nil (hall e he heq.symm)
  | cons n rest ih =>
    obtain ⟨t, ht, hnow⟩ := hdue n List.mem_cons_self
    obtain ⟨hr', hnow', hkept, hwho⟩ := hr.runTask ht (hrun _ ht) hnow
    obtain ⟨hn, hnodup⟩ := List.nodup_cons.1 hnodup
    -- the first run keeps the balance, and leaves the others due as they were
    have hstep : Balanced limit r (host.runTask r n) := fun M _ note worth hw ↦
      balance_runTask hw hr ht (hrun _ ht) hnow hlimit
    obtain ⟨horderly, hawaits, hlast, hbalanced⟩ := ih hr'
      (fun e he ↦ (hwho e he).elim (fun hold ↦ hrun e hold.1) fun hlater ↦ hlater.1) hnodup
      (fun m hm ↦ by
        obtain ⟨other, hother, hdueother⟩ := hdue m (List.mem_cons_of_mem _ hm)
        exact ⟨other, hkept _ hother fun heq ↦ hn (heq ▸ hm), hdueother.trans hnow'.symm⟩)
      (fun e he hdueother ↦ by
        rw [hnow'] at hdueother
        rcases hwho e he with ⟨hold, hne⟩ | ⟨-, hlater⟩
        · exact (List.mem_cons.1 (hall e hold hdueother)).resolve_left hne
        · exact absurd hdueother (Nat.ne_of_gt hlater))
      (hnow'.symm ▸ hlimit)
    exact ⟨horderly, hawaits, hlast.trans hnow', hstep.trans hbalanced⟩

/-- Nothing is due where everybody waits. -/
theorem due_of_awaits (h : r.Awaits) : r.agenda.due = [] := by
  rw [Agenda.due, List.map_eq_nil_iff, List.filter_eq_nil_iff]
  exact fun e he ↦ by simpa using (h e he).2

/-- All that is due runs in one round: whoever has run waits for a later moment. -/
theorem runDue_spec (hr : r.Orderly) (hrun : ∀ e ∈ r.agenda.tasks, e.2.isRunnable = true)
    (hlimit : r.agenda.now ≤ limit) :
    (host.runDue r).Orderly ∧ (host.runDue r).Awaits ∧ (host.runDue r).agenda.now = r.agenda.now ∧
      Balanced limit r (host.runDue r) := by
  have hspec := runAll_spec r.agenda.due hr hrun
    (hr.numbers.sublist (List.filter_sublist.map _))
    (fun n hn ↦ by
      obtain ⟨e, he, rfl⟩ := List.mem_map.1 hn
      obtain ⟨hmem, hle⟩ := List.mem_filter.1 he
      exact ⟨e.2, hmem, Nat.le_antisymm (of_decide_eq_true hle) (hr.ahead e hmem)⟩)
    (fun e he hdue ↦ List.mem_map_of_mem
      (List.mem_filter.2 ⟨he, decide_eq_true (Nat.le_of_eq hdue)⟩)) hlimit
  -- nobody spawns a task for the very moment, so the second time nothing is due
  have honce : host.runDue r = r.agenda.due.foldl host.runTask r := by
    rw [Host.runDue, Host.runDueOnce, show (host.agenda (host.runDueOnce r)).due = [] from
      due_of_awaits hspec.2.1]
    rfl
  rw [honce]
  exact hspec

/-- The clock moves on to any moment at which nobody is overdue. -/
theorem moveTo_spec {now : Nat} (limit : Nat) (hr : r.Orderly)
    (h : ∀ e ∈ r.agenda.tasks, now ≤ e.2.due) :
    (host.moveTo r now).Orderly ∧ Balanced limit r (host.moveTo r now) :=
  ⟨⟨hr.numbers, hr.fresh, h⟩, fun _ _ _ _ _ ↦ rfl⟩

/-- **Everything runs that is due up to the horizon.** -/
theorem runThrough_spec (horizon rounds : Nat) (hr : r.Orderly)
    (hrun : ∀ e ∈ r.agenda.tasks, e.2.isRunnable = true) (hnow : r.agenda.now ≤ horizon)
    (hrounds : horizon ≤ r.agenda.now + rounds) :
    (host.runThrough horizon rounds r).Orderly ∧
      (∀ e ∈ (host.runThrough horizon rounds r).agenda.tasks, e.2.isRunnable = true ∧
        horizon < e.2.due) ∧
      Balanced horizon r (host.runThrough horizon rounds r) := by
  induction rounds generalizing r with
  | zero =>
    obtain ⟨horderly, hawaits, hsame, hbalanced⟩ := runDue_spec hr hrun hnow
    have hlast : r.agenda.now = horizon := Nat.le_antisymm hnow hrounds
    refine ⟨horderly, fun e he ↦ ?_, hbalanced⟩
    rw [← hlast, ← hsame]
    exact hawaits e he
  | succ rounds ih =>
    obtain ⟨horderly, hawaits, hsame, hbalanced⟩ := runDue_spec hr hrun hnow
    rw [Host.runThrough]
    cases hnext : (host.agenda (host.runDue r)).nextDue? horizon with
    | none =>
      refine ⟨horderly, fun e he ↦ ⟨(hawaits e he).1, ?_⟩, hbalanced⟩
      have hempty := List.min?_eq_none_iff.1 hnext
      have hnever := List.filter_eq_nil_iff.1 hempty e.2.due (List.mem_map.2 ⟨e, he, rfl⟩)
      have hlater := (hawaits e he).2
      simp only [Bool.and_eq_true, decide_eq_true_eq, not_and, not_le] at hnever
      exact hnever hlater
    | some moment =>
      obtain ⟨hmem, hleast⟩ := List.min?_eq_some_iff.1 hnext
      obtain ⟨-, hmoment⟩ := List.mem_filter.1 hmem
      simp only [Bool.and_eq_true, decide_eq_true_eq] at hmoment
      have hmoment' : r.agenda.now < moment ∧ moment ≤ horizon := hsame ▸ hmoment
      -- the clock moves to the first moment that is due, so nobody is overdue then
      have hahead : ∀ e ∈ (host.runDue r).agenda.tasks, moment ≤ e.2.due := by
        intro e he
        rcases Nat.lt_or_ge horizon e.2.due with hbeyond | hwithin
        · omega
        · refine hleast _ (List.mem_filter.2 ⟨List.mem_map.2 ⟨e, he, rfl⟩, ?_⟩)
          have hlater := (hawaits e he).2
          simp only [Bool.and_eq_true, decide_eq_true_eq]
          exact ⟨hlater, hwithin⟩
      obtain ⟨hmoved, hbalanced'⟩ := moveTo_spec horizon horderly hahead
      obtain ⟨hlast, hall, hrest⟩ := ih hmoved (fun e he ↦ (hawaits e he).1) hmoment'.2 (by
        show horizon ≤ moment + rounds
        omega)
      exact ⟨hlast, hall, (hbalanced.trans hbalanced').trans hrest⟩

/-- **When time passes, everything runs that becomes due**, and what it was worth before it is worth
in runs and tasks afterwards. -/
theorem advance_spec {ms : Nat} (hr : r.Orderly) (hms : ms ≠ 0) :
    (host.advance ms r).Orderly ∧ (host.advance ms r).Awaits ∧
      (host.advance ms r).agenda.now = r.agenda.now + ms ∧
      Balanced (r.agenda.now + ms) r (host.advance ms r) := by
  set settled := host.modify r Agenda.dropUnrunnable
  have hrun : ∀ e ∈ settled.agenda.tasks, e.2.isRunnable = true :=
    fun e he ↦ (List.mem_filter.1 he).2
  have horderly : settled.Orderly := hr.sublist List.filter_sublist rfl rfl
  have hdropped : Balanced (r.agenda.now + ms) r settled :=
    fun _ _ _ _ hw ↦ balance_dropUnrunnable hw r
  obtain ⟨hthrough, hbeyond, hbalanced⟩ := runThrough_spec (r.agenda.now + ms) ms horderly hrun
    (Nat.le_add_right _ _) (Nat.le_refl _)
  obtain ⟨hmoved, hbalanced'⟩ := moveTo_spec (r.agenda.now + ms) hthrough fun e he ↦
    Nat.le_of_lt (hbeyond e he).2
  have hadvance : host.advance ms r =
      host.moveTo (host.runThrough (r.agenda.now + ms) ms settled) (r.agenda.now + ms) := if_neg hms
  rw [hadvance]
  exact ⟨hmoved, hbeyond, rfl, (hdropped.trans hbalanced).trans hbalanced'⟩

/-! ### Calls -/

/-- When a task is to run. -/
inductive Timing
  /-- Again and again, first after one period. -/
  | every (period : Nat)
  /-- Once, after a delay. -/
  | once (delay : Nat)

/-- A call in the use of task groups. -/
inductive Call
  | spawn (group name : String) (timing : Timing) (outcomes : List RunOutcome)
  | advance (ms : Nat)
  | shutdown (group : String) (grace : UInt64)

/-- What becomes of the tasks by a call. -/
def after (r : Rehearsal) : Call → Rehearsal
  | .spawn group name (.every period) outcomes =>
    { r with agenda := r.agenda.spawnPeriodic group name period ⟨name, outcomes⟩ }
  | .spawn group name (.once delay) outcomes =>
    { r with agenda := r.agenda.spawnDelayed group name delay ⟨name, outcomes⟩ }
  | .advance ms => host.advance ms r
  | .shutdown group grace =>
    { r with
      agenda := r.agenda.shutdown group
      log := r.log ++ (r.agenda.shutdownLines group grace
        (Duration.ofMillis grace).render).toArray }

/-- What becomes of the tasks by several calls, one after the other. -/
def afterAll (r : Rehearsal) (calls : List Call) : Rehearsal := calls.foldl after r

/-- How often a task of that name has run. -/
def runsOf (r : Rehearsal) (name : String) : Nat := r.runs.toList.countP (·.1 = name)

/-! ### What the calls ask for -/

/-- The moments at which a task runs that is spawned at a moment `t` and has so much time. -/
def Timing.moments (t span : Nat) : Timing → List Nat
  | .every period => (List.range (span / period)).map fun k ↦ t + (k + 1) * period
  | .once delay => if delay ≤ span ∧ 0 < span then [t + delay] else []

/-- Is a task not finished after so much time? -/
def Timing.goesOn (span : Nat) : Timing → Bool
  | .every period => span = 0 ∨ 0 < period
  | .once delay => span = 0 ∨ span < delay

/-- The time that passes in some calls. -/
def elapsed : List Call → Nat
  | [] => 0
  | .spawn .. :: rest => elapsed rest
  | .advance ms :: rest => ms + elapsed rest
  | .shutdown .. :: rest => elapsed rest

/-- The time that passes until a group is shut down, or all the time if it is not. -/
def lifetime (group : String) : List Call → Nat
  | [] => 0
  | .spawn .. :: rest => lifetime group rest
  | .advance ms :: rest => ms + lifetime group rest
  | .shutdown other _ :: rest => if other = group then 0 else lifetime group rest

/-- Is a group shut down in some calls? -/
def closes (group : String) : List Call → Bool
  | [] => false
  | .spawn .. :: rest => closes group rest
  | .advance _ :: rest => closes group rest
  | .shutdown other _ :: rest => other = group || closes group rest

/-- **The timetable** of some calls that begin at a moment: the runs of every task, whatever they
come to. -/
def timetable (now : Nat) : List Call → List (String × Nat)
  | [] => []
  | .spawn group name timing _ :: rest =>
    (timing.moments now (lifetime group rest)).map (fun moment ↦ (name, moment)) ++
      timetable now rest
  | .advance ms :: rest => timetable (now + ms) rest
  | .shutdown .. :: rest => timetable now rest

/-- How many tasks of a group are not finished in the end. -/
def unfinished (group : String) : List Call → Nat
  | [] => 0
  | .spawn other _ timing _ :: rest =>
    (if other = group ∧ closes group rest = false ∧ timing.goesOn (lifetime group rest)
      then 1 else 0) + unfinished group rest
  | .advance _ :: rest => unfinished group rest
  | .shutdown .. :: rest => unfinished group rest

/-- The call with tasks whose runs all end well. -/
def Call.faultless : Call → Call
  | .spawn group name timing _ => .spawn group name timing []
  | call => call

/-- The tasks that some calls spawn, each by its group and its name. -/
def spawned : List Call → List (String × String)
  | [] => []
  | .spawn group name _ _ :: rest => (group, name) :: spawned rest
  | .advance _ :: rest => spawned rest
  | .shutdown .. :: rest => spawned rest

/-- The task that is spawned at a moment. -/
def Timing.task (timing : Timing) (now : Nat) (group name : String) (outcomes : List RunOutcome) :
    Task Script :=
  match timing with
  | .every period => ⟨group, name, ⟨name, outcomes⟩, now + period, some period⟩
  | .once delay => ⟨group, name, ⟨name, outcomes⟩, now + delay, none⟩

variable {calls : List Call} {group name : String} {timing : Timing} {outcomes : List RunOutcome}
  {span : Nat}

/-- A spawned task is put on the agenda, whatever its timing. -/
theorem after_spawn (r : Rehearsal) (group name : String) (timing : Timing)
    (outcomes : List RunOutcome) :
    r.after (.spawn group name timing outcomes) =
      { r with agenda := r.agenda.spawn (timing.task r.agenda.now group name outcomes) } := by
  cases timing <;> rfl

theorem group_task : (timing.task n group name outcomes).group = group := by
  cases timing <;> rfl

theorem name_task : (timing.task n group name outcomes).job.name = name := by
  cases timing <;> rfl

/-- A new task is not overdue. -/
theorem le_due_task : n ≤ (timing.task n group name outcomes).due := by
  cases timing <;> exact Nat.le_add_right _ _

/-- A task that is spawned now runs at the moments of its timing. -/
theorem moments_task (hspan : span ≠ 0) :
    (timing.task n group name outcomes).moments (n + span) = timing.moments n span := by
  cases timing with
  | every period =>
    show (List.range ((n + span + period - (n + period)) / period)).map _ = (List.range _).map _
    rw [show n + span + period - (n + period) = span by omega]
    refine List.map_congr_left fun k _ ↦ ?_
    show n + period + k * period = n + (k + 1) * period
    rw [Nat.add_one_mul]
    omega
  | once delay =>
    show (if n + delay ≤ n + span then [n + delay] else []) =
      if delay ≤ span ∧ 0 < span then _ else _
    simp only [Nat.add_le_add_iff_left, Nat.pos_of_ne_zero hspan, and_true]

/-- In no time no task runs, -/
theorem moments_zero (t : Nat) (timing : Timing) : timing.moments t 0 = [] := by
  cases timing with
  | every period =>
    rw [Timing.moments, Nat.zero_div]
    rfl
  | once delay => exact if_neg fun h ↦ Nat.lt_irrefl 0 h.2

/-- and none is finished. -/
theorem goesOn_zero (timing : Timing) : timing.goesOn 0 = true := by
  cases timing <;> rfl

/-- A task that is spawned now is there as long as its timing says. -/
theorem outlasts_task (hspan : span ≠ 0) :
    (timing.task n group name outcomes).outlasts (n + span) = timing.goesOn span := by
  cases timing <;>
    simp [Timing.task, Timing.goesOn, Task.outlasts, Task.isRunnable, hspan, Nat.pos_iff_ne_zero]

/-- A new task takes a new number. -/
theorem Orderly.spawn (hr : r.Orderly) (group name : String) (timing : Timing)
    (outcomes : List RunOutcome) :
    (r.after (.spawn group name timing outcomes)).Orderly := by
  rw [after_spawn]
  refine ⟨?_, fun e he ↦ ?_, fun e he ↦ ?_⟩
  · show (List.map _ (_ ++ [_])).Nodup
    rw [List.map_append]
    refine List.nodup_append.2 ⟨hr.numbers, List.nodup_singleton _, fun n hn m hm ↦ ?_⟩
    obtain ⟨e, he, rfl⟩ := List.mem_map.1 hn
    -- the new number is larger than all others
    have hold := hr.fresh e he
    have hnew : m = r.agenda.nextId := List.mem_singleton.1 hm
    omega
  · rcases List.mem_append.1 he with hold | hnew
    · exact Nat.lt_succ_of_lt (hr.fresh e hold)
    · rw [List.mem_singleton.1 hnew]
      exact Nat.lt_succ_self _
  · rcases List.mem_append.1 he with hold | hnew
    · exact hr.ahead e hold
    · rw [List.mem_singleton.1 hnew]
      exact le_due_task

/-- A shutdown takes tasks off, and leaves the others where they were. -/
theorem Orderly.shutdown (hr : r.Orderly) (group : String) (grace : UInt64) :
    (r.after (.shutdown group grace)).Orderly := hr.sublist List.filter_sublist rfl rfl

/-- In the beginning there are no tasks. -/
theorem orderly_new : new.Orderly :=
  ⟨List.nodup_nil, fun _ he ↦ absurd he List.not_mem_nil, fun _ he ↦ absurd he List.not_mem_nil⟩

/-- Only a call that lets time pass moves the clock. -/
theorem now_after (hr : r.Orderly) (call : Call) :
    (r.after call).agenda.now = r.agenda.now + elapsed [call] := by
  cases call with
  | spawn => rw [after_spawn]; rfl
  | shutdown => rfl
  | advance ms =>
    by_cases hms : ms = 0
    · subst hms
      rfl
    · exact (advance_spec hr hms).2.2.1

/-- **Every call leaves the tasks in order.** -/
theorem Orderly.after (hr : r.Orderly) (call : Call) : (r.after call).Orderly := by
  cases call with
  | spawn => exact hr.spawn ..
  | shutdown => exact hr.shutdown ..
  | advance ms =>
    by_cases hms : ms = 0
    · subst hms
      exact hr
    · exact (advance_spec hr hms).1

theorem afterAll_cons (r : Rehearsal) (call : Call) (rest : List Call) :
    r.afterAll (call :: rest) = (r.after call).afterAll rest := rfl

/-! ### Forecasts -/

section Forecast

variable {M : Type} [AddCommMonoid M] {note : String × Nat → M}
  {worth : Nat → List Call → Task Script → M}

/-- What the tasks are worth that some calls spawn. -/
def asked (worth : Nat → List Call → Task Script → M) : Nat → List Call → M
  | _, [] => 0
  | now, .spawn group name timing outcomes :: rest =>
    worth now rest (timing.task now group name outcomes) + asked worth now rest
  | now, .advance ms :: rest => asked worth (now + ms) rest
  | now, .shutdown .. :: rest => asked worth now rest

/-- What a task that waits is worth, seen from the present moment and in view of the calls to
come. -/
structure Forecast (note : String × Nat → M) (worth : Nat → List Call → Task Script → M) :
    Prop where
  spawn : ∀ now group name timing outcomes rest t,
    worth now (.spawn group name timing outcomes :: rest) t = worth now rest t
  shutdown : ∀ now group grace rest t,
    worth now (.shutdown group grace :: rest) t = if t.group = group then 0 else worth now rest t
  standstill : ∀ now rest t, worth now (.advance 0 :: rest) t = worth now rest t
  anticipates : ∀ now ms rest, ms ≠ 0 →
    Anticipates note (worth now (.advance ms :: rest)) (now + ms)
  later : ∀ now ms rest t, ms ≠ 0 → t.isRunnable = true → now + ms < t.due →
    worth (now + ms) rest t = worth now (.advance ms :: rest) t

/-- What there will have been after some calls: what the runs so far are worth, the tasks that wait,
and the tasks that the calls spawn. -/
def outlook (note : String × Nat → M) (worth : Nat → List Call → Task Script → M)
    (calls : List Call) (r : Rehearsal) : M :=
  balance note (worth r.agenda.now calls) r + asked worth r.agenda.now calls

/-- **No call changes the outlook.** -/
theorem Forecast.after (hw : Forecast note worth) (hr : r.Orderly) (call : Call)
    (rest : List Call) :
    outlook note worth rest (r.after call) = outlook note worth (call :: rest) r := by
  rw [outlook, outlook, balance, balance]
  cases call with
  | spawn group name timing outcomes =>
    simp only [hw.spawn, after_spawn, asked, Agenda.spawn, List.map_append, List.map_cons,
      List.map_nil, List.sum_append, List.sum_singleton]
    abel
  | shutdown group grace =>
    -- with the shutdown ahead, whom it takes off is worth nothing
    have hdropped := sum_map_filter (p := fun e ↦ e.2.group ≠ group)
      (f := fun e ↦ if e.2.group = group then 0 else worth r.agenda.now rest e.2) r.agenda.tasks
      fun e _ hgroup ↦ if_pos (not_not.1 (of_decide_eq_false hgroup))
    have hkept : ((r.agenda.tasks.filter fun e ↦ e.2.group ≠ group).map fun e ↦
        if e.2.group = group then 0 else worth r.agenda.now rest e.2) =
        (r.agenda.tasks.filter fun e ↦ e.2.group ≠ group).map fun e ↦ worth r.agenda.now rest e.2 :=
      List.map_congr_left fun e he ↦ if_neg (of_decide_eq_true (List.mem_filter.1 he).2)
    simp only [hw.shutdown, asked]
    rw [← hdropped, hkept]
    rfl
  | advance ms =>
    by_cases hms : ms = 0
    · subst hms
      simp only [hw.standstill, asked]
      rfl
    · obtain ⟨-, hawaits, hnow, hbalanced⟩ := advance_spec hr hms
      -- while time passes the worth is that of before, and in the end it is the same as that of
      -- after
      have hlater : ((host.advance ms r).agenda.tasks.map fun e ↦
          worth (host.advance ms r).agenda.now rest e.2) =
          (host.advance ms r).agenda.tasks.map fun e ↦
            worth r.agenda.now (.advance ms :: rest) e.2 := by
        refine List.map_congr_left fun e he ↦ ?_
        rw [hnow, hw.later _ _ _ _ hms (hawaits e he).1 (hnow ▸ (hawaits e he).2)]
      rw [show r.after (.advance ms) = host.advance ms r from rfl, hlater, hnow]
      exact congrArg (· + _) (hbalanced _ _ _ (hw.anticipates _ _ _ hms))

/-- **A forecast comes true.** -/
theorem Forecast.afterAll (hw : Forecast note worth) (hr : r.Orderly) (calls : List Call) :
    balance note (worth (r.afterAll calls).agenda.now []) (r.afterAll calls) =
      outlook note worth calls r := by
  induction calls generalizing r with
  | nil => exact (add_zero _).symm
  | cons call rest ih => exact (ih (hr.after call)).trans (hw.after hr call rest)

/-- In the beginning all there is to come are the tasks that the calls spawn. -/
theorem Forecast.afterAll_new (hw : Forecast note worth) (calls : List Call) :
    balance note (worth (new.afterAll calls).agenda.now []) (new.afterAll calls) =
      asked worth 0 calls := by
  rw [hw.afterAll orderly_new, outlook]
  exact (congrArg (· + _) (add_zero 0)).trans (zero_add _)

end Forecast

/-! ### The runs -/

/-- The runs of a waiting task up to a horizon. -/
def runsUpTo (horizon : Nat) (t : Task Script) : List (String × Nat) :=
  (t.moments horizon).map fun moment ↦ (t.job.name, moment)

/-- The runs that a waiting task still has before it in some calls. -/
def remaining (now : Nat) (calls : List Call) (t : Task Script) : Multiset (String × Nat) :=
  if lifetime t.group calls = 0 then 0 else runsUpTo (now + lifetime t.group calls) t

theorem remaining_of_ne (h : lifetime t.group calls ≠ 0) :
    remaining n calls t = runsUpTo (n + lifetime t.group calls) t := if_neg h

/-- When no more time passes, a task that waits for later has nothing before it. -/
theorem remaining_of_lt (h : n < t.due) :
    remaining n calls t = runsUpTo (n + lifetime t.group calls) t := by
  by_cases hspan : lifetime t.group calls = 0
  · rw [remaining, if_pos hspan, hspan, runsUpTo, Task.moments_of_lt (by omega)]
    rfl
  · exact remaining_of_ne hspan

/-- A group that is not shut down at once has time. -/
theorem lifetime_advance (group : String) {ms : Nat} (hms : ms ≠ 0) (calls : List Call) :
    lifetime group (.advance ms :: calls) ≠ 0 := by
  show ms + _ ≠ 0
  omega

/-- While time passes, a task has the runs before it that fall into its lifetime. -/
theorem remaining_advance {ms : Nat} (hms : ms ≠ 0) :
    remaining n (.advance ms :: calls) t = runsUpTo (n + ms + lifetime t.group calls) t := by
  rw [remaining_of_ne (lifetime_advance _ hms calls), lifetime, Nat.add_assoc]

/-- **The runs of a task can be forecast.** -/
theorem forecast_remaining : Forecast (fun run ↦ {run}) remaining where
  spawn _ _ _ _ _ _ _ := rfl
  shutdown now group grace rest t := by
    by_cases hgroup : t.group = group
    · rw [if_pos hgroup]
      exact if_pos (if_pos hgroup.symm)
    · rw [if_neg hgroup, remaining, remaining, lifetime, if_neg (Ne.symm hgroup)]
  standstill now rest t := by rw [remaining, remaining, lifetime, Nat.zero_add]
  anticipates now ms rest hms :=
    -- a task that is due has this run before it, and those of the task as it is afterwards
    { due := fun t hrun hdue ↦ by
        rw [remaining_advance hms, runsUpTo, Task.moments_of_le hrun (by omega), ran]
        cases hnext : Agenda.afterRun t with
        | none => rfl
        | some next =>
          obtain ⟨p, hp, rfl⟩ := Option.map_eq_some_iff.1 hnext
          rw [Option.map_some, Option.map_some, Option.map_some, Option.getD_some,
            remaining_advance hms]
          rfl
      unrunnable := fun t hrun ↦ by
        rw [remaining_advance hms, runsUpTo, Task.moments_of_not_isRunnable hrun]
        rfl }
  later now ms rest t hms _ hlater := by rw [remaining_advance hms, remaining_of_lt hlater]

/-- A task that is spawned has its whole timetable before it. -/
theorem remaining_task : remaining n calls (timing.task n group name outcomes) =
    ((timing.moments n (lifetime group calls)).map
      fun moment ↦ (name, moment) : List (String × Nat)) := by
  by_cases hspan : lifetime group calls = 0
  · rw [remaining, group_task, if_pos hspan, hspan, moments_zero]
    rfl
  · rw [remaining, group_task, if_neg hspan, runsUpTo, moments_task hspan, name_task]

/-- What the spawned tasks are worth is what stands in the timetable. -/
theorem asked_remaining (now : Nat) (calls : List Call) :
    asked remaining now calls = timetable now calls := by
  induction calls generalizing now with
  | nil => rfl
  | cons call rest ih =>
    cases call with
    | spawn => rw [asked, remaining_task, ih, Multiset.coe_add, timetable]
    | advance ms => exact ih (now + ms)
    | shutdown => exact ih now

/-- **The runs are those of the timetable.** -/
theorem runs_perm_timetable (calls : List Call) :
    (new.afterAll calls).runs.toList.Perm (timetable 0 calls) := by
  have hforecast := forecast_remaining.afterAll_new calls
  have hnone : ((new.afterAll calls).agenda.tasks.map fun e ↦
      remaining (new.afterAll calls).agenda.now [] e.2).sum = 0 :=
    List.sum_eq_zero fun x hx ↦ by
      obtain ⟨e, -, rfl⟩ := List.mem_map.1 hx
      rfl
  rw [balance, hnone, add_zero, asked_remaining] at hforecast
  exact Multiset.coe_eq_coe.1 ((Multiset.sum_map_singleton _).symm.trans hforecast)

/-! ### The tasks that are not finished -/

/-- One for a task that is there in the end, after some calls. -/
def lasting (group : String) (now : Nat) (calls : List Call) (t : Task Script) : Nat :=
  if t.group = group ∧ closes group calls = false ∧
    (lifetime group calls = 0 ∨ t.outlasts (now + lifetime group calls) = true) then 1 else 0

theorem lasting_advance {ms : Nat} (hms : ms ≠ 0) : lasting group n (.advance ms :: calls) t =
    if t.group = group ∧ closes group calls = false ∧
      t.outlasts (n + ms + lifetime group calls) = true
    then 1 else 0 := by
  rw [lasting, closes, lifetime, ← Nat.add_assoc]
  simp only [Nat.add_eq_zero_iff, hms, false_and, false_or]

/-- **Whether a task is finished can be forecast.** -/
theorem forecast_lasting (group : String) : Forecast (fun _ ↦ 0) (lasting group) where
  spawn _ _ _ _ _ _ _ := rfl
  shutdown now other grace rest t := by
    rw [lasting, lasting, closes, lifetime]
    -- whether the task is counted at all, and whether its group is the one that is shut down
    by_cases hgroup : t.group = group <;> by_cases hother : other = group <;> grind
  standstill now rest t := by rw [lasting, lasting, closes, lifetime, Nat.zero_add]
  anticipates now ms rest hms :=
    { due := fun t hrun hdue ↦ by
        rw [lasting_advance hms, zero_add, ran]
        cases hnext : Agenda.afterRun t with
        | none =>
          have honce : t.period = none := Option.map_eq_none_iff.1 hnext
          refine if_neg fun h ↦ ?_
          have hover := h.2.2
          simp only [Task.outlasts, hrun, honce, Option.isSome_none, Bool.false_or, Bool.true_and,
            decide_eq_true_eq] at hover
          omega
        | some next =>
          obtain ⟨p, hp, rfl⟩ := Option.map_eq_some_iff.1 hnext
          rw [Option.map_some, Option.map_some, Option.getD_some, lasting_advance hms]
          simp only [Task.outlasts, Task.isRunnable, hp, Option.isSome_some, Bool.true_or]
      unrunnable := fun t hrun ↦ by
        rw [lasting_advance hms]
        exact if_neg fun h ↦ by simp [Task.outlasts, hrun] at h }
  later now ms rest t hms hrun hlater := by
    rw [lasting_advance hms, lasting]
    by_cases hspan : lifetime group rest = 0
    · simp only [hspan, Nat.add_zero, Task.outlasts_of_lt hrun hlater, true_or]
    · simp only [hspan, false_or]

/-- A spawned task counts if its group is not shut down and its timing goes on. -/
theorem lasting_task {other : String} : lasting group n calls (timing.task n other name outcomes) =
    if other = group ∧ closes group calls = false ∧ timing.goesOn (lifetime group calls) = true
    then 1 else 0 := by
  rw [lasting, group_task]
  by_cases hspan : lifetime group calls = 0
  · rw [hspan, goesOn_zero]
    simp only [true_or]
  · simp only [outlasts_task hspan, hspan, false_or]

/-- What the spawned tasks are worth is the number of those that are not finished. -/
theorem asked_lasting (group : String) (now : Nat) (calls : List Call) :
    asked (lasting group) now calls = unfinished group calls := by
  induction calls generalizing now with
  | nil => rfl
  | cons call rest ih =>
    cases call with
    | spawn => rw [asked, lasting_task, ih, unfinished]
    | advance ms => exact ih (now + ms)
    | shutdown => exact ih now

/-- **The tasks of a group that are not finished are those that the calls leave so.** -/
theorem active_eq_unfinished (group : String) (calls : List Call) :
    (new.afterAll calls).agenda.active group = unfinished group calls := by
  set r := new.afterAll calls
  have hforecast := (forecast_lasting group).afterAll_new calls
  have hother : ∀ e ∈ r.agenda.tasks, decide (e.2.group = group) = false →
      lasting group r.agenda.now [] e.2 = 0 := fun e _ he ↦ if_neg fun h ↦ of_decide_eq_false he h.1
  have hone : ∀ e ∈ r.agenda.tasks.filter (·.2.group = group),
      lasting group r.agenda.now [] e.2 = 1 :=
    fun e he ↦ if_pos ⟨of_decide_eq_true (List.mem_filter.1 he).2, rfl, .inl rfl⟩
  rw [asked_lasting, balance, List.sum_map_zero, zero_add, ← sum_map_filter r.agenda.tasks hother,
    List.map_congr_left hone, List.map_const', List.sum_replicate_nat, Nat.mul_one] at hforecast
  exact hforecast

/-! ### One task by itself -/

/-- The clock shows the time that has passed. -/
theorem now_afterAll (hr : r.Orderly) (calls : List Call) :
    (r.afterAll calls).agenda.now = r.agenda.now + elapsed calls := by
  induction calls generalizing r with
  | nil => rfl
  | cons call rest ih =>
    rw [afterAll_cons, ih (hr.after call), now_after hr call]
    cases call <;> simp only [elapsed] <;> omega

theorem now_afterAll_new (calls : List Call) : (new.afterAll calls).agenda.now = elapsed calls :=
  (now_afterAll orderly_new calls).trans (Nat.zero_add _)

/-- Times add up. -/
theorem elapsed_append (calls later : List Call) :
    elapsed (calls ++ later) = elapsed calls + elapsed later := by
  induction calls with
  | nil => exact (Nat.zero_add _).symm
  | cons call rest ih =>
    cases call <;> simp only [List.cons_append, elapsed, ih]
    omega

/-- A group that is not shut down has all the time. -/
theorem lifetime_of_not_closes (h : closes group calls = false) :
    lifetime group calls = elapsed calls := by
  induction calls with
  | nil => rfl
  | cons call rest ih =>
    cases call with
    | spawn => exact ih h
    | advance ms => exact congrArg (ms + ·) (ih h)
    | shutdown other =>
      obtain ⟨hother, hrest⟩ := Bool.or_eq_false_iff.1 h
      rw [lifetime, if_neg (of_decide_eq_false hother)]
      exact ih hrest

/-- The time of a group ends with its shutdown. -/
theorem lifetime_shutdown (group : String) (grace : UInt64) (calls later : List Call) :
    lifetime group (calls ++ .shutdown group grace :: later) = lifetime group calls := by
  induction calls with
  | nil => exact if_pos rfl
  | cons call rest ih => cases call <;> simp only [List.cons_append, lifetime, ih]

/-- A shutdown somewhere among the calls closes its group. -/
theorem closes_shutdown (group : String) (grace : UInt64) (calls later : List Call) :
    closes group (calls ++ .shutdown group grace :: later) = true := by
  induction calls with
  | nil => simp only [List.nil_append, closes, decide_true, Bool.true_or]
  | cons call rest ih => cases call <;> simp only [List.cons_append, closes, ih, Bool.or_true]

/-- After a shutdown only those count that are spawned afterwards. -/
theorem unfinished_shutdown (group : String) (grace : UInt64) (calls later : List Call) :
    unfinished group (calls ++ .shutdown group grace :: later) = unfinished group later := by
  induction calls with
  | nil => rfl
  | cons call rest ih =>
    cases call with
    | spawn other =>
      rw [List.cons_append, unfinished, closes_shutdown, ih, if_neg fun h ↦ Bool.noConfusion h.2.1,
        Nat.zero_add]
    | advance => exact ih
    | shutdown => exact ih

/-- How often the timetable has a task of that name. -/
def planned (name : String) (now : Nat) (calls : List Call) : Nat :=
  (timetable now calls).countP (·.1 = name)

/-- A spawned task adds its moments to the plan of its name. -/
theorem planned_spawn (name : String) (now : Nat) (group other : String) (timing : Timing)
    (outcomes : List RunOutcome) (rest : List Call) :
    planned name now (.spawn group other timing outcomes :: rest) =
      (if other = name then (timing.moments now (lifetime group rest)).length else 0) +
        planned name now rest := by
  rw [planned, timetable, List.countP_append, List.countP_map]
  congr 1
  split
  · next h => exact List.countP_eq_length.2 fun _ _ ↦ decide_eq_true h
  · next h => exact List.countP_eq_zero.2 fun _ _ ↦ h ∘ of_decide_eq_true

/-- Where nobody of that name is spawned, none is planned. -/
theorem planned_of_not_spawned (h : ∀ e ∈ spawned calls, e.2 ≠ name) (now : Nat) :
    planned name now calls = 0 := by
  induction calls generalizing now with
  | nil => rfl
  | cons call rest ih =>
    cases call with
    | spawn =>
      obtain ⟨hown, hrest⟩ := List.forall_mem_cons.1 h
      rw [planned_spawn, ih hrest, if_neg hown]
    | advance ms => exact ih h (now + ms)
    | shutdown => exact ih h now

/-- A task with a name of its own is planned from where it is spawned. -/
theorem planned_append (h : ∀ e ∈ spawned calls, e.2 ≠ name) (now : Nat) (later : List Call) :
    planned name now (calls ++ later) = planned name (now + elapsed calls) later := by
  induction calls generalizing now with
  | nil => rfl
  | cons call rest ih =>
    cases call with
    | spawn =>
      obtain ⟨hown, hrest⟩ := List.forall_mem_cons.1 h
      rw [List.cons_append, planned_spawn, ih hrest, if_neg hown, Nat.zero_add]
      rfl
    | advance ms =>
      rw [elapsed, ← Nat.add_assoc]
      exact ih h (now + ms)
    | shutdown => exact ih h now

/-- What a group has planned ends with its shutdown. -/
theorem planned_shutdown (hgroup : ∀ e ∈ spawned calls, e.2 = name → e.1 = group)
    {later : List Call} (hlater : ∀ e ∈ spawned later, e.2 ≠ name) (now : Nat) (grace : UInt64) :
    planned name now (calls ++ .shutdown group grace :: later) = planned name now calls := by
  induction calls generalizing now with
  | nil => exact planned_of_not_spawned hlater now
  | cons call rest ih =>
    cases call with
    | spawn other own =>
      obtain ⟨hown, hrest⟩ := List.forall_mem_cons.1 hgroup
      rw [List.cons_append, planned_spawn, planned_spawn, ih hrest]
      congr 1
      split
      · next h => rw [show other = group from hown h, lifetime_shutdown]
      · rfl
    | advance ms => exact ih hgroup (now + ms)
    | shutdown => exact ih hgroup now

/-- A task has run as often as the timetable says. -/
theorem runsOf_eq_planned (name : String) (calls : List Call) :
    (new.afterAll calls).runsOf name = planned name 0 calls :=
  (runs_perm_timetable calls).countP_eq _

/-- **A task with a name of its own runs as often as its time allows.** -/
theorem runsOf_spawned {before later : List Call}
    (hname : ∀ e ∈ spawned before ++ spawned later, e.2 ≠ name)
    (hclosed : closes group later = false) :
    (new.afterAll (before ++ .spawn group name timing outcomes :: later)).runsOf name =
      (timing.moments (elapsed before) (elapsed later)).length := by
  obtain ⟨hbefore, hlater⟩ := List.forall_mem_append.1 hname
  rw [runsOf_eq_planned, planned_append hbefore, planned_spawn, planned_of_not_spawned hlater,
    if_pos rfl, lifetime_of_not_closes hclosed, Nat.zero_add, Nat.add_zero]

/-- How runs end is not in the timetable. -/
theorem timetable_faultless (now : Nat) (calls : List Call) :
    timetable now (calls.map Call.faultless) = timetable now calls := by
  have hlifetime : ∀ group (calls : List Call),
      lifetime group (calls.map Call.faultless) = lifetime group calls := fun group calls ↦ by
    induction calls with
    | nil => rfl
    | cons call rest ih => cases call <;> simp only [List.map_cons, Call.faultless, lifetime, ih]
  induction calls generalizing now with
  | nil => rfl
  | cons call rest ih =>
    cases call <;> simp only [List.map_cons, Call.faultless, timetable, hlifetime, ih]

/-- **Task groups keep to their timetable**, whatever the runs come to. A periodic task has run once
for each period since it was spawned, a delayed one as soon as its delay is over. A shutdown leaves
nothing of what was spawned before it: it does not run again and is not counted; what is spawned
afterwards runs and counts. -/
theorem runs_on_time (calls : List Call) :
    (new.afterAll calls).runs.toList.Perm (timetable 0 calls) ∧
    (new.afterAll calls).runs.toList.Perm (new.afterAll (calls.map Call.faultless)).runs.toList ∧
    (∀ group, (new.afterAll calls).agenda.active group = unfinished group calls) ∧
    (∀ before group name period outcomes later,
      calls = before ++ .spawn group name (.every period) outcomes :: later → 0 < period →
      (∀ e ∈ spawned before ++ spawned later, e.2 ≠ name) → closes group later = false →
      (new.afterAll calls).runsOf name =
        ((new.afterAll calls).agenda.now - (new.afterAll before).agenda.now) / period) ∧
    (∀ before group name delay outcomes later,
      calls = before ++ .spawn group name (.once delay) outcomes :: later →
      (∀ e ∈ spawned before ++ spawned later, e.2 ≠ name) → closes group later = false →
      (new.afterAll calls).agenda.now ≠ (new.afterAll before).agenda.now + delay →
      (new.afterAll calls).runsOf name =
        if (new.afterAll before).agenda.now + delay < (new.afterAll calls).agenda.now
        then 1 else 0) ∧
    ∀ before group grace later, calls = before ++ .shutdown group grace :: later →
      (new.afterAll calls).agenda.active group = unfinished group later ∧
      ∀ name, (∀ e ∈ spawned before, e.2 = name → e.1 = group) → (∀ e ∈ spawned later, e.2 ≠ name) →
        (new.afterAll calls).runsOf name = (new.afterAll before).runsOf name := by
  have hnow : ∀ before group name timing outcomes later,
      (new.afterAll (before ++ .spawn group name timing outcomes :: later)).agenda.now =
        elapsed before + elapsed later := fun _ _ _ _ _ _ ↦ by
    rw [now_afterAll_new, elapsed_append, elapsed]
  refine ⟨runs_perm_timetable calls, ?_, fun group ↦ active_eq_unfinished group calls, ?_, ?_, ?_⟩
  · refine (runs_perm_timetable calls).trans ?_
    rw [← timetable_faultless]
    exact (runs_perm_timetable _).symm
  · rintro before group name period outcomes later rfl - hname hclosed
    rw [runsOf_spawned hname hclosed, hnow, now_afterAll_new, Nat.add_sub_cancel_left,
      Timing.moments, List.length_map, List.length_range]
  -- a job that is due just now may have run or not, which is left out here
  · rintro before group name delay outcomes later rfl hname hclosed hdue
    rw [hnow, now_afterAll_new] at hdue
    rw [runsOf_spawned hname hclosed, hnow, now_afterAll_new, Timing.moments]
    by_cases hpast : delay < elapsed later
    · rw [if_pos ⟨Nat.le_of_lt hpast, Nat.zero_lt_of_lt hpast⟩,
        if_pos (Nat.add_lt_add_left hpast _)]
      rfl
    · rw [if_neg fun h ↦ hdue (by omega), if_neg fun h ↦ hpast (Nat.lt_of_add_lt_add_left h)]
      rfl
  · rintro before group grace later rfl
    refine ⟨?_, fun name hgroup hlater ↦ ?_⟩
    · rw [active_eq_unfinished, unfinished_shutdown]
    · rw [runsOf_eq_planned, runsOf_eq_planned, planned_shutdown hgroup hlater]

/-- The first two runs of a periodic task go wrong, a delayed job panics, and one is to come when
the group is shut down. -/
def rehearsal : List Call :=
  [.spawn "ops" "flaky" (.every 100) [.failed (.internal "first run fails"), .panicked],
    .spawn "ops" "once" (.once 250) [.panicked], .spawn "ops" "later" (.once 10000) [],
    .advance 320]

/-- The group is shut down without any grace; then a task is spawned into it, and much time
passes. -/
def encore : List Call :=
  rehearsal ++ .shutdown "ops" 0 :: [.spawn "ops" "fresh" (.every 10) [], .advance 20035]

/-- After the rehearsal the periodic task has run three times, although its first two runs went
wrong, the job that was due has run once and the later one not at all. The shutdown ends the two
that were left. None of them runs in the time that follows, while the task that was spawned after it
runs every ten milliseconds and is the only one that is active. -/
theorem runs_on_time_encore :
    (new.afterAll rehearsal).runsOf "flaky" = 3 ∧ (new.afterAll rehearsal).runsOf "once" = 1 ∧
      (new.afterAll rehearsal).runsOf "later" = 0 ∧
      (new.afterAll rehearsal).agenda.active "ops" = 2 ∧
      (new.afterAll encore).runsOf "flaky" = 3 ∧ (new.afterAll encore).runsOf "later" = 0 ∧
      (new.afterAll encore).runsOf "fresh" = 2003 ∧
      (new.afterAll encore).agenda.active "ops" = 1 := by
  obtain ⟨-, -, hactive, hevery, honce, -⟩ := runs_on_time rehearsal
  obtain ⟨-, -, -, hevery', -, hshutdown⟩ := runs_on_time encore
  have hflaky : (new.afterAll rehearsal).runsOf "flaky" = 3 := by
    rw [hevery [] "ops" "flaky" 100 _ _ rfl (by decide) (by decide) rfl, now_afterAll_new]
    rfl
  have hlater : (new.afterAll rehearsal).runsOf "later" = 0 := by
    rw [honce (rehearsal.take 2) "ops" "later" 10000 _ _ rfl (by decide) rfl
      (by rw [now_afterAll_new, now_afterAll_new]; decide), now_afterAll_new, now_afterAll_new]
    rfl
  obtain ⟨hcount, hsilent⟩ := hshutdown rehearsal "ops" 0 _ rfl
  refine ⟨hflaky, ?_, hlater, hactive "ops", ?_, ?_, ?_, hcount⟩
  · rw [honce (rehearsal.take 1) "ops" "once" 250 _ _ rfl (by decide) rfl
      (by rw [now_afterAll_new, now_afterAll_new]; decide), now_afterAll_new, now_afterAll_new]
    rfl
  · exact (hsilent "flaky" (by decide) (by decide)).trans hflaky
  · exact (hsilent "later" (by decide) (by decide)).trans hlater
  · rw [hevery' (rehearsal ++ [.shutdown "ops" 0]) "ops" "fresh" 10 _ _ rfl (by decide) (by decide)
      rfl, now_afterAll_new, now_afterAll_new]
    rfl

end Rehearsal

end SensorCluster
