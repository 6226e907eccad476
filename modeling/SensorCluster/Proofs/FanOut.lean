import SensorCluster.EventBus
import Mathlib.Data.List.Nodup
import Mathlib.Data.List.Forall2

/-!
# Every event reaches every observer

A bus is used in steps: somebody subscribes or unsubscribes, or an event is published. An observer
may have a state of its own, so between two steps it may change how it reacts (`Step.change`); what
an observer does can therefore depend on everything that happened before. **Whatever the observers
do, each is called once for each event published while it was subscribed, and for no other**
(`fan_out`).

## What it rests on

* The handles are the words from the first one on, so they repeat only when there are more of them
  than words (`handles_eq`, `nodup_handles`).
* The subscriptions that stand are always some of those that were made, in their order
  (`ids_sublist`): ending one takes it out and leaves the others where they are.
* What happens to a subscription depends on the steps that name its handle and on nothing else,
  least of all on the other observers (`calls_of_mem`, `calls_of_not_mem`).

The last point is about one subscription and all steps behind it, so the induction is on these, from
any bus.
-/

namespace SensorCluster

namespace EventBus

/-- A step in the use of a bus. -/
inductive Step
  | subscribe (o : Observer)
  | unsubscribe (id : ObserverId)
  | publish (s : Sighting)
  /-- From now on the observer of a subscription reacts otherwise. -/
  | change (id : ObserverId) (react : Sighting → Reaction)

/-- The bus after a step. -/
def after (b : EventBus) : Step → EventBus
  | .subscribe o => (b.subscribe o).2
  | .unsubscribe id => (b.unsubscribe id).2
  | .publish s => b.publish s
  | .change id react =>
    { b with observers := b.observers.map fun (i, o) ↦ (i, if i = id then { o with react } else o) }

/-- The bus after several steps. -/
def afterAll (b : EventBus) (steps : List Step) : EventBus := steps.foldl after b

/-- The handles that are given in the course of some steps, in order. -/
def handles (b : EventBus) : List Step → List ObserverId
  | [] => []
  | .subscribe o :: rest => (b.subscribe o).1 :: (b.subscribe o).2.handles rest
  | step :: rest => (b.after step).handles rest

/-- What is logged in the course of some steps. -/
def linesOf (b : EventBus) : List Step → List LogLine
  | [] => []
  | .publish s :: rest => b.publishLines s ++ (b.publish s).linesOf rest
  | step :: rest => (b.after step).linesOf rest

/-- The handles of the subscriptions that stand, oldest first. -/
def ids (b : EventBus) : List ObserverId := b.observers.map (·.1)

/-- The calls under a handle, in order. -/
def callsOf (b : EventBus) (id : ObserverId) : List ObserverCall :=
  b.calls.toList.filter (·.observer = id)

/-! ### What the steps ask for -/

/-- What is published in some steps. -/
def sightings : List Step → List Sighting
  | [] => []
  | .publish s :: rest => s :: sightings rest
  | _ :: rest => sightings rest

/-- The calls that an observer has to get under its handle in the steps after its subscription: one
for each event, until the subscription ends. -/
def owed (id : ObserverId) (o : Observer) : List Step → List ObserverCall
  | [] => []
  | .subscribe _ :: rest => owed id o rest
  | .unsubscribe ended :: rest => if ended = id then [] else owed id o rest
  | .publish s :: rest => ⟨id, s.event, o.react s⟩ :: owed id o rest
  | .change changed react :: rest => owed id (if changed = id then { o with react } else o) rest

/-- The lines belong to a call: they are what the observer logged, and one line more if it failed or
panicked. -/
def Logged (call : ObserverCall) (lines : List LogLine) : Prop :=
  match call.reaction.verdict with
  | .accepted => lines = call.reaction.lines
  | .failed cause => ∃ name : String, lines = call.reaction.lines ++
      [.warn (s!"Observer {name} failed on {call.event.kind}: " ++ cause.message)]
  | .panicked => ∃ name : String, lines = call.reaction.lines ++
      [.error s!"Observer {name} panicked on {call.event.kind}"]

variable {b : EventBus} {id : ObserverId} {o : Observer} {s : Sighting} {steps : List Step}

theorem afterAll_append (b : EventBus) (steps more : List Step) :
    b.afterAll (steps ++ more) = (b.afterAll steps).afterAll more :=
  List.foldl_append

/-! ### Handles -/

theorem handles_append (b : EventBus) (steps more : List Step) :
    b.handles (steps ++ more) = b.handles steps ++ (b.afterAll steps).handles more := by
  induction steps generalizing b with
  | nil => rfl
  | cons step rest ih =>
    cases step with
    | subscribe o => exact congrArg (b.nextId :: ·) (ih _)
    | unsubscribe | publish | change => exact ih _

/-- **Handles are given one after the other**, from the next one on. -/
theorem handles_eq (b : EventBus) (steps : List Step) :
    b.handles steps =
      (List.range (b.handles steps).length).map fun k ↦ b.nextId + UInt64.ofNat k := by
  induction steps generalizing b with
  | nil => rfl
  | cons step rest ih =>
    cases step with
    | subscribe o =>
      have hrest := ih (b.subscribe o).2
      rw [handles, List.length_cons, List.range_succ_eq_map, List.map_cons, List.map_map]
      refine List.cons_eq_cons.2 ⟨(UInt64.add_zero _).symm,
        hrest.trans (List.map_congr_left fun k _ ↦ ?_)⟩
      show b.nextId + 1 + UInt64.ofNat k = b.nextId + UInt64.ofNat (k + 1)
      rw [UInt64.ofNat_add, UInt64.add_assoc, UInt64.add_comm 1]
      rfl
    | unsubscribe | publish | change => exact ih _

/-- As long as there are words left, no handle is given twice. -/
theorem nodup_handles (hword : (b.handles steps).length < UInt64.size) :
    (b.handles steps).Nodup := by
  rw [handles_eq]
  refine List.Nodup.map_on (fun i hi j hj heq ↦ ?_) List.nodup_range
  have hofNat : UInt64.ofNat i = UInt64.ofNat j := UInt64.add_right_inj _ |>.1 heq
  rw [List.mem_range] at hi hj
  have htoNat := congrArg UInt64.toNat hofNat
  rwa [UInt64.toNat_ofNat_of_lt' (Nat.lt_trans hi hword),
    UInt64.toNat_ofNat_of_lt' (Nat.lt_trans hj hword)] at htoNat

/-! ### The subscriptions that stand -/

theorem ids_subscribe (b : EventBus) (o : Observer) :
    (b.subscribe o).2.ids = b.ids ++ [b.nextId] := by
  rw [ids, subscribe, List.map_append]
  rfl

theorem ids_unsubscribe (b : EventBus) (id : ObserverId) :
    (b.unsubscribe id).2.ids = b.ids.filter (· ≠ id) := by
  rw [ids, ids, List.filter_map]
  rfl

/-- An observer that reacts otherwise keeps its handle and its place. -/
theorem ids_change (b : EventBus) (id : ObserverId) (react : Sighting → Reaction) :
    (b.after (.change id react)).ids = b.ids := by
  rw [ids, ids, after, List.map_map]
  rfl

/-- **Standing subscriptions keep their order**: after a step those stand that stood before, in the
order they had, some of them ended, and behind them whoever has come. -/
theorem ids_sublist (b : EventBus) (step : Step) (rest : List Step) :
    ((b.after step).ids ++ (b.after step).handles rest).Sublist
      (b.ids ++ b.handles (step :: rest)) := by
  cases step with
  | subscribe o =>
    show List.Sublist ((b.subscribe o).2.ids ++ _) _
    rw [ids_subscribe, List.append_assoc]
    exact .refl _
  | unsubscribe id =>
    show List.Sublist ((b.unsubscribe id).2.ids ++ _) _
    rw [ids_unsubscribe]
    exact List.filter_sublist.append_right _
  | publish s => exact .refl _
  | change id react =>
    rw [ids_change]
    exact .refl _

/-- At the end stand some of the subscriptions that stood or were made, in their order. -/
theorem ids_afterAll_sublist (b : EventBus) (steps : List Step) :
    (b.afterAll steps).ids.Sublist (b.ids ++ b.handles steps) := by
  induction steps generalizing b with
  | nil => exact List.sublist_append_left _ _
  | cons step rest ih => exact (ih (b.after step)).trans (ids_sublist b step rest)

theorem mem_ids : id ∈ b.ids ↔ ∃ o, (id, o) ∈ b.observers := by
  simp [ids]

/-- To end a subscription succeeds just when it stands. -/
theorem unsubscribe_fst : (b.unsubscribe id).1 = true ↔ id ∈ b.ids := by
  simp [unsubscribe, ids]

/-- A handle stands for one subscription. -/
theorem exists_split (hnodup : b.ids.Nodup) (h : (id, o) ∈ b.observers) :
    ∃ older newer, b.observers = older ++ (id, o) :: newer ∧
      ∀ entry ∈ older ++ newer, entry.1 ≠ id := by
  obtain ⟨older, newer, hsplit⟩ := List.append_of_mem h
  refine ⟨older, newer, hsplit, fun entry hentry heq ↦ ?_⟩
  rw [ids, hsplit, List.map_append, List.map_cons, List.nodup_middle, List.nodup_cons,
    ← List.map_append] at hnodup
  exact hnodup.1 (List.mem_map.2 ⟨entry, hentry, heq⟩)

/-- **Ending a subscription** takes it out from between the others. -/
theorem unsubscribe_of_mem (hnodup : b.ids.Nodup) (h : id ∈ b.ids) :
    ∃ older o newer, b.observers = older ++ (id, o) :: newer ∧
      (b.unsubscribe id).2 = { b with observers := older ++ newer } := by
  obtain ⟨o, ho⟩ := mem_ids.1 h
  obtain ⟨older, newer, hsplit, hothers⟩ := exists_split hnodup ho
  refine ⟨older, o, newer, hsplit, ?_⟩
  have hkept : (b.observers.filter fun entry ↦ entry.1 ≠ id) = older ++ newer := by
    rw [hsplit, List.filter_append, List.filter_cons_of_neg (by simp), ← List.filter_append]
    exact List.filter_eq_self.2 fun entry hentry ↦ decide_eq_true (hothers entry hentry)
  rw [unsubscribe, hkept]

theorem unsubscribe_of_not_mem (h : id ∉ b.ids) : (b.unsubscribe id).2 = b := by
  have hkept : (b.observers.filter fun entry ↦ entry.1 ≠ id) = b.observers :=
    List.filter_eq_self.2 fun entry hentry ↦
      decide_eq_true fun heq ↦ h (heq ▸ List.mem_map_of_mem hentry)
  rw [unsubscribe, hkept]

/-! ### One subscription -/

/-- An event is one round over the subscriptions that stand, of which each handle gets its own
calls. -/
theorem callsOf_publish (b : EventBus) (s : Sighting) (id : ObserverId) :
    (b.publish s).callsOf id =
      b.callsOf id ++ (callAll s b.observers).filter (·.observer = id) := by
  rw [callsOf, publish, Array.toList_append, List.filter_append]
  rfl

theorem filter_callAll_of_ne {entries : List (ObserverId × Observer)}
    (h : ∀ entry ∈ entries, entry.1 ≠ id) :
    (callAll s entries).filter (·.observer = id) = [] := by
  refine List.filter_eq_nil_iff.2 fun call hcall ↦ ?_
  obtain ⟨entry, hentry, rfl⟩ := List.mem_map.1 hcall
  simpa using h entry hentry

/-- Among the calls for one event there is one for each subscription. -/
theorem filter_callAll_of_mem (hnodup : b.ids.Nodup) (h : (id, o) ∈ b.observers) :
    (callAll s b.observers).filter (·.observer = id) = [⟨id, s.event, o.react s⟩] := by
  obtain ⟨older, newer, hsplit, hothers⟩ := exists_split hnodup h
  have hcalls : callAll s b.observers =
      callAll s older ++ [⟨id, s.event, o.react s⟩] ++ callAll s newer := by
    rw [hsplit, callAll, List.map_append, List.map_cons, List.append_assoc]
    rfl
  rw [hcalls, List.filter_append, List.filter_append,
    filter_callAll_of_ne fun entry hentry ↦ hothers entry (List.mem_append_left _ hentry),
    filter_callAll_of_ne fun entry hentry ↦ hothers entry (List.mem_append_right _ hentry)]
  simp

/-- **Nobody is called under a handle that does not stand and is not given.** -/
theorem calls_of_not_mem (hid : id ∉ b.ids) (hnew : id ∉ b.handles steps) :
    (b.afterAll steps).callsOf id = b.callsOf id ∧ id ∉ (b.afterAll steps).ids := by
  induction steps generalizing b with
  | nil => exact ⟨rfl, hid⟩
  | cons step rest ih =>
    have hboth : id ∉ b.ids ++ b.handles (step :: rest) := fun hmem ↦
      (List.mem_append.1 hmem).elim hid hnew
    -- A handle that neither stands nor is given later is in the same case after the step.
    have hafter : id ∉ (b.after step).ids ++ (b.after step).handles rest := fun hmem ↦
      hboth ((ids_sublist b step rest).subset hmem)
    obtain ⟨hcalls, hids⟩ := ih (b := b.after step)
      (fun hmem ↦ hafter (List.mem_append_left _ hmem))
      fun hmem ↦ hafter (List.mem_append_right _ hmem)
    refine ⟨Eq.trans hcalls ?_, hids⟩
    cases step with
    | subscribe | unsubscribe | change => rfl
    | publish s =>
      show (b.publish s).callsOf id = _
      rw [callsOf_publish,
        filter_callAll_of_ne fun entry hentry heq ↦ hid (List.mem_map.2 ⟨entry, hentry, heq⟩),
        List.append_nil]

/-- **A subscription gets what it is owed**, and it stands until it is ended. -/
theorem calls_of_mem (hnodup : (b.ids ++ b.handles steps).Nodup) (h : (id, o) ∈ b.observers) :
    (b.afterAll steps).callsOf id = b.callsOf id ++ owed id o steps ∧
      (id ∈ (b.afterAll steps).ids ↔ .unsubscribe id ∉ steps) := by
  induction steps generalizing b o with
  | nil => exact ⟨(List.append_nil _).symm, iff_of_true (mem_ids.2 ⟨o, h⟩) List.not_mem_nil⟩
  | cons step rest ih =>
    have hafter := hnodup.sublist (ids_sublist b step rest)
    have hids : id ∈ b.ids := mem_ids.2 ⟨o, h⟩
    cases step with
    | subscribe other =>
      obtain ⟨hcalls, hstands⟩ := ih hafter (List.mem_append_left _ h)
      refine ⟨hcalls, hstands.trans ?_⟩
      simp
    | unsubscribe ended =>
      by_cases hended : ended = id
      · subst hended
        -- Handles are given once, so after its end this one never comes back.
        have hnew : ended ∉ (b.unsubscribe ended).2.handles rest := fun hmem ↦
          (List.nodup_append.1 hnodup).2.2 ended hids ended hmem rfl
        have hgone : ended ∉ (b.unsubscribe ended).2.ids := by
          rw [ids_unsubscribe]
          simp
        obtain ⟨hcalls, hends⟩ := calls_of_not_mem hgone hnew
        refine ⟨?_, iff_of_false hends fun hnever ↦ hnever List.mem_cons_self⟩
        rw [owed, if_pos rfl, List.append_nil]
        exact hcalls
      · have hmem : (id, o) ∈ (b.unsubscribe ended).2.observers :=
          List.mem_filter.2 ⟨h, decide_eq_true (Ne.symm hended)⟩
        obtain ⟨hcalls, hstands⟩ := ih hafter hmem
        refine ⟨?_, hstands.trans ?_⟩
        · rw [owed, if_neg hended]
          exact hcalls
        · simp [Ne.symm hended]
    | publish s =>
      obtain ⟨hcalls, hstands⟩ := ih hafter h
      refine ⟨hcalls.trans ?_, hstands.trans ?_⟩
      · show (b.publish s).callsOf id ++ _ = _
        rw [callsOf_publish, filter_callAll_of_mem (List.nodup_append.1 hnodup).1 h,
          List.append_assoc]
        rfl
      · simp
    | change changed react =>
      have hmem : (id, if changed = id then { o with react } else o) ∈
          (b.after (.change changed react)).observers := by
        refine List.mem_map.2 ⟨(id, o), h, ?_⟩
        -- The entry under this handle is the one that changes, and no other has the handle.
        simp only [eq_comm]
      obtain ⟨hcalls, hstands⟩ := ih hafter hmem
      refine ⟨hcalls, hstands.trans ?_⟩
      simp

/-- From its subscription on an observer gets what it is owed, on a bus that was used in any way
before. -/
theorem calls_of_subscribe {before later : List Step}
    (hnodup : (new.handles (before ++ .subscribe o :: later)).Nodup) :
    let id := (new.afterAll before).nextId
    let bus := new.afterAll (before ++ .subscribe o :: later)
    bus.callsOf id = owed id o later ∧ (id ∈ bus.ids ↔ .unsubscribe id ∉ later) := by
  intro id bus
  set b := new.afterAll before
  have hbus : bus = (b.subscribe o).2.afterAll later :=
    afterAll_append new before (.subscribe o :: later)
  have hgiven : new.handles (before ++ .subscribe o :: later) =
      new.handles before ++ id :: (b.subscribe o).2.handles later := handles_append new before _
  rw [hgiven] at hnodup
  -- the handle is new to the bus
  have hfresh : id ∉ new.handles before := fun hmem ↦
    (List.nodup_append.1 hnodup).2.2 id hmem id List.mem_cons_self rfl
  have hnone : (b.subscribe o).2.callsOf id = [] :=
    (calls_of_not_mem (b := new) List.not_mem_nil hfresh).1
  have hlater : ((b.subscribe o).2.ids ++ (b.subscribe o).2.handles later).Nodup := by
    rw [ids_subscribe, List.append_assoc]
    have hstanding : b.ids.Sublist (new.handles before) := ids_afterAll_sublist new before
    exact hnodup.sublist (hstanding.append_right _)
  obtain ⟨hown, hstands⟩ :=
    calls_of_mem hlater (List.mem_append_right b.observers List.mem_cons_self)
  rw [← hbus] at hown hstands
  rw [hnone, List.nil_append] at hown
  exact ⟨hown, hstands⟩

/-! ### All subscriptions together -/

/-- **The calls come in rounds**, one for each event, and each round goes along the subscriptions in
the order in which they were made. -/
theorem exists_rounds (b : EventBus) (steps : List Step) :
    ∃ rounds : List (List ObserverCall),
      (b.afterAll steps).calls.toList = b.calls.toList ++ rounds.flatten ∧
      List.Forall₂ (fun s calls ↦ (∀ call ∈ calls, call.event = s.event) ∧
        (calls.map (·.observer)).Sublist (b.ids ++ b.handles steps)) (sightings steps) rounds := by
  induction steps generalizing b with
  | nil => exact ⟨[], (List.append_nil _).symm, .nil⟩
  | cons step rest ih =>
    obtain ⟨rounds, hcalls, hrounds⟩ := ih (b.after step)
    -- The rounds to come go along what stands after the step, and that is part of what stands or is
    -- given now.
    have hwider : List.Forall₂ (fun s calls ↦ (∀ call ∈ calls, call.event = s.event) ∧
        (calls.map (·.observer)).Sublist (b.ids ++ b.handles (step :: rest)))
          (sightings rest) rounds :=
      hrounds.imp fun _ _ h ↦ ⟨h.1, h.2.trans (ids_sublist b step rest)⟩
    cases step with
    | subscribe | unsubscribe | change => exact ⟨rounds, hcalls, hwider⟩
    | publish s =>
      refine ⟨callAll s b.observers :: rounds, ?_, .cons ⟨fun call hcall ↦ ?_, ?_⟩ hwider⟩
      · refine hcalls.trans ?_
        show (b.publish s).calls.toList ++ _ = _
        rw [publish, Array.toList_append, List.append_assoc]
        rfl
      · obtain ⟨entry, -, rfl⟩ := List.mem_map.1 hcall
        rfl
      · have hround : (callAll s b.observers).map (·.observer) = b.ids := by
          rw [callAll, List.map_map]
          rfl
        rw [hround]
        exact List.sublist_append_left _ _

/-- What is logged about one call is what the observer logged and the verdict on it. -/
theorem logged_call (s : Sighting) (id : ObserverId) (o : Observer) :
    Logged ⟨id, s.event, o.react s⟩
      ((o.react s).lines ++ verdictLines o s.event (o.react s).verdict) := by
  cases hverdict : (o.react s).verdict <;> simp only [Logged, hverdict, verdictLines]
  · exact List.append_nil _
  · exact ⟨o.name, rfl⟩
  · exact ⟨o.name, rfl⟩

/-- **Each call is told in the log**, right after what the observer logged itself, if it did not end
well. -/
theorem exists_chunks (b : EventBus) (steps : List Step) :
    ∃ (calls : List ObserverCall) (chunks : List (List LogLine)),
      (b.afterAll steps).calls.toList = b.calls.toList ++ calls ∧ b.linesOf steps = chunks.flatten ∧
      List.Forall₂ Logged calls chunks := by
  induction steps generalizing b with
  | nil => exact ⟨[], [], (List.append_nil _).symm, rfl, .nil⟩
  | cons step rest ih =>
    obtain ⟨calls, chunks, hcalls, hlines, hlogged⟩ := ih (b.after step)
    cases step with
    | subscribe | unsubscribe | change => exact ⟨calls, chunks, hcalls, hlines, hlogged⟩
    | publish s =>
      -- What one observer logs in a round, with the verdict on its call.
      let chunk (entry : ObserverId × Observer) : List LogLine :=
        (entry.2.react s).lines ++ verdictLines entry.2 s.event (entry.2.react s).verdict
      refine ⟨callAll s b.observers ++ calls, b.observers.map chunk ++ chunks, ?_, ?_,
        List.rel_append ?_ hlogged⟩
      · refine hcalls.trans ?_
        show (b.publish s).calls.toList ++ _ = _
        rw [publish, Array.toList_append, List.append_assoc]
      · show callLines s b.observers ++ (b.publish s).linesOf rest = _
        rw [show (b.publish s).linesOf rest = chunks.flatten from hlines, List.flatten_append,
          callLines, List.flatMap_def]
      · rw [callAll, List.forall₂_map_left_iff, List.forall₂_map_right_iff, List.forall₂_same]
        exact fun entry _ ↦ logged_call s entry.1 entry.2

/-- Every event is noted on the bus, whoever listens. -/
theorem published_afterAll (b : EventBus) (steps : List Step) :
    (b.afterAll steps).published.toList = b.published.toList ++
      (sightings steps).map (·.event) := by
  induction steps generalizing b with
  | nil => exact (List.append_nil _).symm
  | cons step rest ih =>
    cases step with
    | subscribe | unsubscribe | change => exact ih _
    | publish s =>
      refine (ih (b.publish s)).trans ?_
      rw [publish, Array.toList_push, List.append_assoc]
      rfl

/-- **Every event reaches every observer.** Let a new bus be used in any steps, with observers that
accept, fail or panic as they like, and let it give fewer handles than there are words. Then

* no handle is given twice;
* the calls come in rounds, one for each event in the order of publication, and each round goes
  along the subscriptions in the order in which they were made;
* under the handle of a subscription the observer is called exactly once for each event that is
  published from then on until the subscription ends; and an attempt to end it now succeeds if and
  only if there was none before;
* under any other handle there is no call, and nothing to end;
* ending a subscription takes it out from between the others and changes nothing else, and where
  there is nothing to end nothing changes;
* every event that is published gets through to the end;
* in the log there is, for each call in turn, what the observer logged itself, and exactly one line
  more if it failed or panicked. -/
theorem fan_out (steps : List Step) (hword : (new.handles steps).length < UInt64.size) :
    let bus := new.afterAll steps
    (new.handles steps).Nodup ∧
    (∃ rounds : List (List ObserverCall), bus.calls.toList = rounds.flatten ∧
      List.Forall₂ (fun s calls ↦ (∀ call ∈ calls, call.event = s.event) ∧
        (calls.map (·.observer)).Sublist (new.handles steps)) (sightings steps) rounds) ∧
    (∀ before o later, steps = before ++ .subscribe o :: later →
      let id := ((new.afterAll before).subscribe o).1
      bus.callsOf id = owed id o later ∧
      ((bus.unsubscribe id).1 = true ↔ .unsubscribe id ∉ later)) ∧
    (∀ id ∉ new.handles steps, bus.callsOf id = [] ∧ (bus.unsubscribe id).1 = false) ∧
    (∀ id, ((bus.unsubscribe id).1 = true →
        ∃ older o newer, bus.observers = older ++ (id, o) :: newer ∧
          (bus.unsubscribe id).2 = { bus with observers := older ++ newer }) ∧
      ((bus.unsubscribe id).1 = false → (bus.unsubscribe id).2 = bus)) ∧
    bus.published.toList = (sightings steps).map (·.event) ∧
    ∃ chunks : List (List LogLine), new.linesOf steps = chunks.flatten ∧
      List.Forall₂ Logged bus.calls.toList chunks := by
  intro bus
  have hnodup : (new.handles steps).Nodup := nodup_handles hword
  have hids : bus.ids.Sublist (new.handles steps) := ids_afterAll_sublist new steps
  obtain ⟨rounds, hcalls, hrounds⟩ := exists_rounds new steps
  obtain ⟨calls, chunks, htold, hlines, hlogged⟩ := exists_chunks new steps
  refine ⟨hnodup, ⟨rounds, hcalls, hrounds⟩, fun before o later hsteps ↦ ?_, fun id hid ↦ ?_,
    fun id ↦ ⟨fun hended ↦ ?_, fun hnone ↦ ?_⟩, published_afterAll new steps, chunks, hlines, ?_⟩
  · subst hsteps
    obtain ⟨hown, hstands⟩ := calls_of_subscribe hnodup
    exact ⟨hown, unsubscribe_fst.trans hstands⟩
  · obtain ⟨hnever, hnobody⟩ := calls_of_not_mem (b := new) List.not_mem_nil hid
    exact ⟨hnever, Bool.eq_false_iff.2 fun hended ↦ hnobody (unsubscribe_fst.1 hended)⟩
  -- Distinct handles that stand split the list at one entry.
  · exact unsubscribe_of_mem (hids.nodup hnodup) (unsubscribe_fst.1 hended)
  · exact unsubscribe_of_not_mem fun hmem ↦ by simp [unsubscribe_fst.2 hmem] at hnone
  · rw [show bus.calls.toList = calls from htold]
    exact hlogged

/-- An observer that fails at each event, and one that panics at each. -/
def failing : Observer := ⟨"failing", fun _ ↦ ⟨[], [], .failed (.internal "broke")⟩⟩

@[inherit_doc failing]
def panicking : Observer := ⟨"panicking", fun _ ↦ ⟨[], [], .panicked⟩⟩

/-- What is shown of a receiver that recovered. -/
def recovered (receiver : String) : Sighting := ⟨.receiverRecovered receiver, default, []⟩

/-- One observer fails and one panics. The one that panics is taken off before the second event, and
one that accepts comes after the first. -/
def drill : List Step :=
  [.subscribe failing, .subscribe panicking, .publish (recovered "r1"),
    .subscribe EventLog.observer, .unsubscribe 2, .publish (recovered "r2")]

/-- The observer that fails is called at both events. The one that panics gets the first and was
taken off before the second, and the last one came between the two. No call is lost to the failure
or the panic next to it, and a subscription that has ended cannot be ended again. -/
theorem fan_out_drill :
    (new.handles drill).length < UInt64.size ∧
      ((new.afterAll drill).callsOf 1).map (·.event) =
        [.receiverRecovered "r1", .receiverRecovered "r2"] ∧
      ((new.afterAll drill).callsOf 2).map (·.event) = [.receiverRecovered "r1"] ∧
      ((new.afterAll drill).callsOf 3).map (·.event) = [.receiverRecovered "r2"] ∧
      ((new.afterAll drill).unsubscribe 2).1 = false ∧
        ((new.afterAll drill).unsubscribe 3).1 = true := by
  obtain ⟨-, -, hcalls, -⟩ := fan_out drill (by decide)
  obtain ⟨hfirst, -⟩ := hcalls [] failing _ rfl
  obtain ⟨hsecond, hended⟩ := hcalls [.subscribe failing] panicking _ rfl
  obtain ⟨hthird, hstands⟩ :=
    hcalls [.subscribe failing, .subscribe panicking, .publish (recovered "r1")]
      EventLog.observer _ rfl
  refine ⟨by decide, congrArg (List.map (·.event)) hfirst, congrArg (List.map (·.event)) hsecond,
    congrArg (List.map (·.event)) hthird, Bool.eq_false_iff.2 fun hagain ↦ hended.1 hagain ?_,
    hstands.2 ?_⟩ <;> simp <;> decide

end EventBus

end SensorCluster
