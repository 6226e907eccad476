import SensorCluster.Proofs.Evolution
import SensorCluster.Proofs.Histories
import Mathlib.Data.List.Infix

/-!
# Deliveries

In the course of a history receivers accept messages, those that were routed and those that were
handed to them directly. Each is a `Delivery`, and `Cluster.deliveries` lists them in order. A
happening delivers one message or lets the fleet evolve without any (`undergo_effect`).

What receivers have can be said relative to the messages delivered so far. If it is heritable, and
no more deliveries can spoil it, it accrues (`Accrues`), and **only the receiver of a message has to
be looked at** to know that all receivers have it after every history (`each_of_history`).

## What it rests on

* Whoever is created or delivered begins with it.
* A snapshot that is put back was taken of some receiver at some earlier time of the same history
  (`Cluster.Authentic`). What that receiver had accrued then, the restored one has now, however the
  two have fared in between. So the induction keeps all earlier states in view.
-/

namespace SensorCluster

/-- A message, and the receiver that accepted it. -/
structure Delivery where
  ref : ReplicaRef
  message : Message

/-- The receiver that comes in by it, if one does, has the property. -/
def Happening.Brings (P : Replica → Prop) : Happening → Prop
  | .request q _ => q.Brings P
  | _ => True

theorem Happening.Brings.mono {P P' : Replica → Prop} {e : Happening} (h : e.Brings P)
    (himp : ∀ r, P r → P' r) : e.Brings P' := by
  cases e with
  | request q _ =>
    cases q with
    | operation op =>
      cases op with
      | register r => exact himp r h
      | _ => trivial
    | create r => exact himp r h
    | enroll | syncPair | restore => trivial
  | _ => trivial

/-- Does it tie all routes to one receiver? -/
def Happening.IsPin : Happening → Prop
  | .request (.operation (.pin _)) _ => True
  | _ => False

/-- The one happening that ties all routes to a receiver is the call `pin`. -/
theorem Happening.IsPin.eq_pin {e : Happening} (h : e.IsPin) :
    ∃ id hcall, e = .request (.operation (.pin id)) hcall := by
  rw [IsPin.eq_def] at h
  split at h
  · exact ⟨_, _, rfl⟩
  · exact h.elim

/-- Does it remove the sensor of an id? -/
def Happening.removes (sensor : String) : Happening → Bool
  | .request (.operation (.unregisterSensor other)) _ => other = sensor
  | _ => false

/-- The one happening that removes a sensor is the call that names it. -/
theorem Happening.eq_unregisterSensor_of_removes {sensor : String} {e : Happening}
    (h : e.removes sensor = true) :
    ∃ hcall, e = .request (.operation (.unregisterSensor sensor)) hcall := by
  rw [removes.eq_def] at h
  split at h
  · obtain rfl := of_decide_eq_true h
    exact ⟨_, rfl⟩
  · cases h

/-- A property of a receiver, given the messages that were delivered to anybody, that is handed on
with the data and that further messages leave alone. -/
structure Accrues (P : List Delivery → Replica → Prop) : Prop where
  heritable : ∀ log, Replica.Heritable (P log)
  more : ∀ {log : List Delivery} {r : Replica}, P log r → ∀ extra, P (log ++ extra) r

namespace Cluster

variable {P joins : Replica → Prop} {c c' : Cluster} {e : Happening} {history more : List Happening}

/-! ### What is delivered -/

/-- The message of a route, if it is accepted. The answer names the receiver. -/
def routed? (c : Cluster) (m : Message) (host : String) (port : UInt16) : Option Delivery :=
  match (c.tryRoute m host port).1 with
  | .ok id => (c.registered? id).map fun ref ↦ ⟨ref, m⟩
  | .error _ => none

/-- The message that is accepted in a happening, and by whom. -/
def delivery? (c : Cluster) : Happening → Option Delivery
  | .request (.operation (.route m host port)) _ => c.routed? m host port
  | .process ref m =>
    match (c.replica ref).process m with
    | .ok _ => some ⟨ref, m⟩
    | .error _ => none
  | _ => none

/-- What a route answers. -/
def answer? (c : Cluster) : Happening → Option (Except ClusterError String)
  | .request (.operation (.route m host port)) _ => some (c.tryRoute m host port).1
  | _ => none

/-- What there is to note in the course of a history. -/
def collect {α : Type} (note? : Cluster → Happening → Option α) (c : Cluster) :
    List Happening → List α
  | [] => []
  | e :: rest => (note? c e).toList ++ collect note? (c.undergo e) rest

/-- The messages that are accepted in the course of a history. -/
def deliveries : Cluster → List Happening → List Delivery := collect delivery?

/-- The answers of the routes in the course of a history. -/
def answers : Cluster → List Happening → List (Except ClusterError String) := collect answer?

section collect

variable {α : Type} (note? : Cluster → Happening → Option α)

/-- What is noted in a history that goes on is what was noted, and then what is noted from where it
had come to. -/
theorem collect_append (c : Cluster) (history more : List Happening) :
    collect note? c (history ++ more) =
      collect note? c history ++ collect note? (c.undergoAll history) more := by
  induction history generalizing c with
  | nil => rfl
  | cons e rest ih =>
    rw [List.cons_append, collect, ih, ← List.append_assoc]
    rfl

theorem collect_concat (c : Cluster) (history : List Happening) (e : Happening) :
    collect note? c (history ++ [e]) =
      collect note? c history ++ (note? (c.undergoAll history) e).toList := by
  rw [collect_append]
  exact congrArg _ (List.append_nil _)

/-- Notes are never taken back. -/
theorem collect_mono (c : Cluster) (h : history <+: more) :
    collect note? c history <+: collect note? c more := by
  obtain ⟨rest, rfl⟩ := h
  rw [collect_append]
  exact List.prefix_append ..

end collect

theorem deliveries_concat (c : Cluster) (history : List Happening) (e : Happening) :
    c.deliveries (history ++ [e]) =
      c.deliveries history ++ ((c.undergoAll history).delivery? e).toList :=
  collect_concat ..

theorem answers_concat (c : Cluster) (history : List Happening) (e : Happening) :
    c.answers (history ++ [e]) = c.answers history ++ ((c.undergoAll history).answer? e).toList :=
  collect_concat ..

theorem deliveries_mono (c : Cluster) (h : history <+: more) :
    c.deliveries history <+: c.deliveries more :=
  collect_mono delivery? c h

theorem undergoAll_concat (c : Cluster) (history : List Happening) (e : Happening) :
    c.undergoAll (history ++ [e]) = (c.undergoAll history).undergo e :=
  c.undergoAll_append history [e]

/-! ### What is no route -/

/-- Only routes answer. -/
theorem route_of_answer {answer : Except ClusterError String} (h : c.answer? e = some answer) :
    ∃ m host port, ∃ h : (Request.operation (.route m host port)).IsCall,
      e = .request (.operation (.route m host port)) h ∧ (c.tryRoute m host port).1 = answer := by
  rw [answer?.eq_def] at h
  split at h
  · exact ⟨_, _, _, _, rfl, Option.some.inj h⟩
  · cases h

/-- What is neither a route nor a pin nor the removal of a sensor does not come to the desk. -/
theorem undergo_desk (hanswer : c.answer? e = none) (hpin : ¬e.IsPin)
    (hremoval : ∀ sensor, e.removes sensor = false) : (c.undergo e).desk = c.desk := by
  cases e with
  | request q hcall =>
    cases q with
    | operation op =>
      refine step_desk (fun m host port heq ↦ ?_) (fun id heq ↦ ?_) fun sensor heq ↦ ?_
      -- The answer, the pin and the removal are the three calls that come to the desk.
      · subst heq
        cases hanswer
      · subst heq
        exact hpin trivial
      · subst heq
        exact absurd (hremoval sensor) (by simp [Happening.removes])
    | create r => rfl
    | enroll ref =>
      rw [undergo, handle]
      split
      · exact register_desk ref
      · rfl
    | syncPair a b => exact (syncPair_aside a b).desk
    | restore ref => exact (restoreFromBestPeer_aside ref).desk
  | moment m => exact nodeRespects_desk.host.live c m
  | stopReceivers => exact stopReceivers_aside.desk
  | process ref m => exact (process_aside ref m).desk
  | joinPool ref => exact (joinPool_aside ref).desk
  | fail | removeRecord | restore | leavePool | changeSink | tellTime | write | openChannel
    | closeChannel | drain | startReports | endReports => rfl

/-- What is neither a route nor a pin leaves the ledger and the placement alone. -/
theorem undergo_routing (hanswer : c.answer? e = none) (hpin : ¬e.IsPin) :
    (c.undergo e).coordinator.routing = c.coordinator.routing := by
  by_cases hremoval : ∃ sensor, e.removes sensor = true
  · obtain ⟨sensor, hremoves⟩ := hremoval
    obtain ⟨hcall, rfl⟩ := Happening.eq_unregisterSensor_of_removes hremoves
    exact unregisterSensor_routing sensor
  · exact congrArg (·.office.routing)
      (undergo_desk hanswer hpin fun sensor ↦ Bool.eq_false_iff.2 fun h ↦ hremoval ⟨sensor, h⟩)

/-- What is no route makes no entry. -/
theorem undergo_ledger (h : c.answer? e = none) :
    (c.undergo e).coordinator.ledger = c.coordinator.ledger := by
  by_cases hpin : e.IsPin
  · obtain ⟨id, hcall, rfl⟩ := hpin.eq_pin
    rfl
  · exact congrArg Routing.ledger (undergo_routing h hpin)

/-! ### One delivery at a time -/

/-- Where messages are only routed, what is delivered is what routes have answered well. -/
theorem length_delivery? (hids : (c.fleet.ids c.coordinator.registry).Nodup)
    (hrouted : ∀ ref m, e ≠ .process ref m) :
    (c.delivery? e).toList.length = (c.answer? e).toList.countP Except.isOk := by
  cases e with
  | request q h =>
    cases q with
    | operation op =>
      cases op with
      | route m host port =>
        show (c.routed? m host port).toList.length = [(c.tryRoute m host port).1].countP Except.isOk
        rw [routed?]
        rcases tryRoute_spec (c := c) m host port with
          ⟨ref, href, -, -, -, hanswer, -, -⟩ | ⟨cause, hanswer, -, -⟩ <;> rw [hanswer]
        -- The answer names a registered receiver, and the id leads back to it.
        · have hfound : c.registered? (c.replica ref).id = some ref := Fleet.find?_of_mem hids href
          simp only [hfound]
          rfl
        · rfl
      | _ => rfl
    | _ => rfl
  | process ref m => exact absurd rfl (hrouted ref m)
  | _ => rfl

/-- What a happening does to the receivers, and which message is delivered by it. -/
inductive Effect (P : Replica → Prop) (c c' : Cluster) : Option Delivery → Prop
  | quiet (h : c.Evolves P c') : Effect P c c' none
  | deliver {ref : ReplicaRef} {m : Message} {outcome : Replica.ProcessOutcome} {r : Replica}
      (h : (c.replica ref).process m = .ok (outcome, r)) (hcore : c'.core = c.core.put ref r) :
      Effect P c c' (some ⟨ref, m⟩)

/-- A route delivers its message to the receiver that accepts it, or leaves everybody alone. That
the ids are distinct makes the receiver that the answer names the one that accepted. -/
theorem route_effect (hids : (c.fleet.ids c.coordinator.registry).Nodup) (m : Message)
    (host : String) (port : UInt16) :
    c.Effect P (c.tryRoute m host port).2 (c.routed? m host port) := by
  rw [routed?]
  rcases tryRoute_spec (c := c) m host port with
    ⟨ref, href, outcome, r, hprocess, hanswer, hcore, -⟩ | ⟨cause, hanswer, hcore, -⟩
  · have hfound : c.registered? (c.replica ref).id = some ref := Fleet.find?_of_mem hids href
    simp only [hanswer, hfound]
    exact .deliver hprocess hcore
  · simp only [hanswer]
    exact .quiet (.of_core_eq hcore)

/-- Among the requests only a route delivers anything. -/
theorem request_effect (hids : (c.fleet.ids c.coordinator.registry).Nodup) {q : Request}
    (h : q.IsCall) (hbrings : q.Brings P) :
    c.Effect P (c.handle q) (c.delivery? (.request q h)) := by
  -- A route is told apart first: for every other call there is nothing to deliver.
  by_cases hroute : ∃ m host port, q = .operation (.route m host port)
  · obtain ⟨m, host, port, rfl⟩ := hroute
    exact route_effect hids m host port
  · have hother : ∀ m host port, q ≠ .operation (.route m host port) :=
      fun m host port heq ↦ hroute ⟨m, host, port, heq⟩
    have hnone : c.delivery? (.request q h) = none := by
      cases q with
      | operation op =>
        cases op with
        | route m host port => exact absurd rfl (hother m host port)
        | _ => rfl
      | _ => rfl
    rw [hnone]
    exact .quiet (handle_evolves hother hbrings)

/-- **What happens delivers one message, or none**, and then receivers only take turns. -/
theorem undergo_effect (hids : (c.fleet.ids c.coordinator.registry).Nodup) (hbrings : e.Brings P)
    (hrestore : ∀ ref s, e = .restore ref s → ∃ source time, P source ∧ s = source.snapshot time) :
    c.Effect P (c.undergo e) (c.delivery? e) := by
  cases e with
  | request q h => exact request_effect hids h hbrings
  | moment m => exact .quiet (nodeRespects_evolves.host.live c m)
  | fail ref => exact .quiet (stop_evolves ref)
  | stopReceivers => exact .quiet (nodeRespects_evolves.stopReceivers c)
  | process ref m =>
    rw [undergo, delivery?]
    cases hprocess : (c.replica ref).process m with
    | ok answer =>
      obtain ⟨c₁, heq, hcore, -⟩ := process_of_ok hprocess
      rw [heq]
      exact .deliver hprocess hcore
    | error cause =>
      rw [process_of_error hprocess]
      exact .quiet (.refl c)
  | removeRecord ref sensor => exact .quiet (removeRecord_evolves ref sensor)
  | restore ref s =>
    -- What is put back is a snapshot of a receiver that has the property, so it is inherited.
    obtain ⟨source, time, hsource, rfl⟩ := hrestore ref s rfl
    exact .quiet (restore_evolves ref time hsource)
  | joinPool ref => exact .quiet (joinPool_evolves ref)
  | leavePool | changeSink | tellTime | write | openChannel | closeChannel | drain | startReports
    | endReports =>
    exact .quiet (.refl c)

/-! ### Whatever happens -/

/-- To ask nothing of the receivers that come in is no restriction. -/
theorem brings_any (e : Happening) : e.Brings fun _ ↦ True := by
  cases e with
  | request q h =>
    cases q with
    | operation op => cases op <;> trivial
    | create | enroll | syncPair | restore => trivial
  | _ => trivial

/-- Any snapshot is one of a receiver that has its data. -/
theorem exists_snapshot_eq (s : Snapshot) : ∃ (source : Replica) (time : WallTime),
    s = source.snapshot time :=
  ⟨⟨s.receiver, "", .provisioning, false, s.index, s.vector, s.total, s.conflicts⟩, s.takenAt, rfl⟩

theorem Effect.provisioner_eq {d : Option Delivery} (h : c.Effect P c' d) :
    c'.healing.provisioner = c.healing.provisioner := by
  cases h with
  | quiet h => exact h.1
  | deliver h hcore => exact congrArg Core.provisioner hcore

/-- Whether or not it delivers a message, a happening strikes nobody off. -/
theorem Effect.grows {d : Option Delivery} (h : c.Effect (fun _ ↦ True) c' d) :
    c.fleet.Grows c'.fleet := by
  cases h with
  | quiet h => exact (h.2 fun _ _ _ _ _ ↦ trivial).grows
  | deliver h hcore =>
    rw [show c'.fleet = _ from congrArg Core.fleet hcore]
    exact Fleet.grows_set (Replica.process_eq_ok h).2.1

/-- No two registered receivers have one id, whatever happens. -/
def StaysDistinct (c : Cluster) : Prop :=
  ∀ history, ((c.undergoAll history).fleet.ids (c.undergoAll history).coordinator.registry).Nodup

/-- In a new cluster ids stay distinct, since the coordinator refuses an id that is taken. -/
theorem new_staysDistinct (config : Config) (sink : SnapshotSink) (provisioner : Provisioner)
    (now : WallTime) : (new config sink provisioner now).StaysDistinct :=
  fun history ↦ (faithful_of_history config sink provisioner now history).2.distinct

/-- Where ids stay distinct, each happening of a history delivers one message or none. -/
theorem StaysDistinct.effect (h : c.StaysDistinct) (history : List Happening) (e : Happening) :
    (c.undergoAll history).Effect (fun _ ↦ True) (c.undergoAll (history ++ [e]))
      ((c.undergoAll history).delivery? e) := by
  rw [undergoAll_concat]
  refine undergo_effect (h history) (brings_any e) fun _ s _ ↦ ?_
  obtain ⟨source, time, heq⟩ := exists_snapshot_eq s
  exact ⟨source, time, trivial, heq⟩

/-- If messages only come in by routes, as many are delivered as routes are answered well. -/
theorem StaysDistinct.length_deliveries (h : c.StaysDistinct)
    (hrouted : ∀ e ∈ history, ∀ ref m, e ≠ .process ref m) :
    (c.deliveries history).length = (c.answers history).countP Except.isOk := by
  induction history using List.reverseRecOn with
  | nil => rfl
  | append_singleton history e ih =>
    rw [deliveries_concat, answers_concat, List.length_append, List.countP_append,
      length_delivery? (h history) (hrouted e (by simp))]
    exact congrArg (· + _) (ih fun e he ↦ hrouted e (List.mem_append_left _ he))

/-- The provisioner is given once and for all. -/
theorem StaysDistinct.provisioner_eq (h : c.StaysDistinct) (history : List Happening) :
    (c.undergoAll history).healing.provisioner = c.healing.provisioner := by
  induction history using List.reverseRecOn with
  | nil => rfl
  | append_singleton history e ih => exact (h.effect history e).provisioner_eq.trans ih

/-- In the course of a history receivers come, and nobody is renamed or lost. -/
theorem StaysDistinct.grows (h : c.StaysDistinct) (hmore : history <+: more) :
    (c.undergoAll history).fleet.Grows (c.undergoAll more).fleet := by
  obtain ⟨rest, rfl⟩ := hmore
  induction rest using List.reverseRecOn with
  | nil =>
    rw [List.append_nil]
    exact .refl _
  | append_singleton rest e ih =>
    rw [← List.append_assoc]
    exact ih.trans (h.effect (history ++ rest) e).grows

/-! ### What comes in -/

/-- Each snapshot that is put back was taken of a receiver before, at whatever time. -/
def Authentic (c : Cluster) (history : List Happening) : Prop :=
  ∀ before ref s, before ++ [.restore ref s] <+: history →
    ∃ earlier, earlier <+: before ∧
      ∃ source time, s = ((c.undergoAll earlier).replica source).snapshot time

/-- What comes in from outside: receivers have the property as they are created or delivered, and
snapshots were taken of receivers of the cluster. -/
structure Intake (joins : Replica → Prop) (c : Cluster) (history : List Happening) : Prop where
  delivers : c.Delivers joins
  brings : ∀ e ∈ history, e.Brings joins
  authentic : c.Authentic history

theorem authentic_nil (c : Cluster) : c.Authentic [] := by
  intro before ref s h
  exact absurd (List.prefix_nil.1 h) (by simp)

/-- Where no snapshot is put back, none has to be accounted for. -/
theorem Authentic.append (h : c.Authentic history)
    (hmore : ∀ e ∈ more, ∀ ref s, e ≠ .restore ref s) :
    c.Authentic (history ++ more) := by
  induction more using List.reverseRecOn with
  | nil => rwa [List.append_nil]
  | append_singleton more e ih =>
    intro before ref s hbefore
    rw [← List.append_assoc, List.prefix_concat_iff] at hbefore
    rcases hbefore with heq | hbefore
    · obtain ⟨-, heq⟩ := List.append_inj' heq rfl
      exact absurd (List.singleton_inj.1 heq).symm (hmore e (by simp) ref s)
    · exact ih (fun e he ↦ hmore e (List.mem_append_left _ he)) before ref s hbefore

/-- A snapshot that was taken may be put back. -/
theorem Authentic.restore (h : c.Authentic history) {earlier : List Happening}
    (hearlier : earlier <+: history) (ref source : ReplicaRef) (time : WallTime) :
    c.Authentic
      (history ++ [.restore ref (((c.undergoAll earlier).replica source).snapshot time)]) := by
  intro before ref' s hbefore
  rcases List.prefix_concat_iff.1 hbefore with heq | hbefore
  · obtain ⟨rfl, hlast⟩ := List.append_inj' heq rfl
    obtain ⟨-, rfl⟩ := Happening.restore.inj (List.singleton_inj.1 hlast)
    exact ⟨earlier, hearlier, source, time, rfl⟩
  · exact h before ref' s hbefore

/-! ### What everybody has -/

/-- What everybody has accrued, everybody has after one more happening, provided that the receiver
of its message does. Nobody else has to be looked at. -/
theorem Effect.each {P : List Delivery → Replica → Prop} (hP : Accrues P) {log : List Delivery}
    {d : Option Delivery} (h : c.Effect (P log) c' d) (hdelivers : c.Delivers (P log))
    (hall : ∀ ref, P log (c.replica ref))
    (hprocess : ∀ ref m outcome r, d = some ⟨ref, m⟩ →
      (c.replica ref).process m = .ok (outcome, r) → P (log ++ [⟨ref, m⟩]) r)
    (ref : ReplicaRef) : P (log ++ d.toList) (c'.replica ref) := by
  cases h with
  | quiet h =>
    rw [Option.toList_none, List.append_nil]
    exact (h.2 hdelivers).each (hP.heritable log) hall ref
  | @deliver target m outcome r h hcore =>
    rw [replica, show c'.fleet = c.fleet.set target r from congrArg Core.fleet hcore]
    exact Fleet.forall_get_set (fun ref ↦ hP.more (hall ref) [⟨target, m⟩])
      (hprocess target m outcome r rfl h) target ref

/-- What accrued until a happening, everybody has after it, if the receiver of its message does. -/
theorem Intake.each_concat {P : List Delivery → Replica → Prop} (hP : Accrues P)
    (hdistinct : c.StaysDistinct) (hjoins : ∀ r, joins r → P [] r)
    (hintake : c.Intake joins history)
    {before : List Happening} (hbefore : before ++ [e] <+: history)
    (hall : ∀ earlier, earlier <+: before → ∀ ref,
      P (c.deliveries earlier) ((c.undergoAll earlier).replica ref))
    (hprocess : ∀ ref m outcome r,
      ((c.undergoAll before).replica ref).process m = .ok (outcome, r) →
      c.deliveries (before ++ [e]) = c.deliveries before ++ [⟨ref, m⟩] →
      P (c.deliveries before ++ [⟨ref, m⟩]) r) (ref : ReplicaRef) :
    P (c.deliveries (before ++ [e])) ((c.undergoAll (before ++ [e])).replica ref) := by
  have hjoins' : ∀ r, joins r → P (c.deliveries before) r := fun r hr ↦ hP.more (hjoins r hr) _
  have hbrings : e.Brings (P (c.deliveries before)) :=
    (hintake.brings e (hbefore.subset (by simp))).mono hjoins'
  have hdelivers : (c.undergoAll before).Delivers (P (c.deliveries before)) := by
    rw [Delivers, hdistinct.provisioner_eq]
    exact fun asked slot r lines h ↦ hjoins' r (hintake.delivers asked slot r lines h)
  have hrestore : ∀ ref s, e = .restore ref s →
      ∃ source time, P (c.deliveries before) source ∧ s = source.snapshot time := by
    rintro ref s rfl
    -- The source of the snapshot may have changed since. What counts is what it had accrued when
    -- the snapshot was taken, and that is spoiled by no delivery since.
    obtain ⟨earlier, hearlier, source, time, rfl⟩ := hintake.authentic before ref s hbefore
    obtain ⟨extra, hextra⟩ := c.deliveries_mono hearlier
    refine ⟨_, time, ?_, rfl⟩
    rw [← hextra]
    exact hP.more (hall earlier hearlier source) extra
  rw [deliveries_concat] at hprocess ⊢
  rw [undergoAll_concat]
  refine (undergo_effect (hdistinct before) hbrings hrestore).each hP hdelivers
    (hall before (List.prefix_refl _)) (fun ref m outcome r hdelivery h ↦ ?_) ref
  exact hprocess ref m outcome r h (by rw [hdelivery]; rfl)

/-- **What accrues, everybody has** after every history, if the receiver of each message has it
afterwards. -/
theorem each_of_history {P : List Delivery → Replica → Prop} (hP : Accrues P)
    (hdistinct : c.StaysDistinct) (hjoins : ∀ r, joins r → P [] r)
    (hfirst : ∀ ref, P [] (c.replica ref)) (hintake : c.Intake joins history)
    (hprocess : ∀ before, before <+: history → ∀ ref m outcome r,
      ((c.undergoAll before).replica ref).process m = .ok (outcome, r) →
      c.deliveries before ++ [⟨ref, m⟩] <+: c.deliveries history →
      P (c.deliveries before) ((c.undergoAll before).replica ref) →
      P (c.deliveries before ++ [⟨ref, m⟩]) r) (ref : ReplicaRef) :
    P (c.deliveries history) ((c.undergoAll history).replica ref) := by
  -- the induction is on what has happened, and what it says it says of all states up to then
  have hall : ∀ before, before <+: history → ∀ earlier, earlier <+: before → ∀ ref,
      P (c.deliveries earlier) ((c.undergoAll earlier).replica ref) := by
    intro before
    induction before using List.reverseRecOn with
    | nil =>
      intro _ earlier hearlier
      rw [List.prefix_nil.1 hearlier]
      exact hfirst
    | append_singleton before e ih =>
      intro hbefore earlier hearlier
      have hshorter : before <+: history := (List.prefix_append before [e]).trans hbefore
      rcases List.prefix_concat_iff.1 hearlier with rfl | hearlier
      · refine hintake.each_concat hP hdistinct hjoins hbefore (ih hshorter)
          fun ref m outcome r h hdelivered ↦ ?_
        refine hprocess before hshorter ref m outcome r h ?_
          (ih hshorter before (List.prefix_refl _) ref)
        rw [← hdelivered]
        exact c.deliveries_mono hbefore
      · exact ih hshorter earlier hearlier
  exact hall history (List.prefix_refl _) history (List.prefix_refl _) ref

end Cluster

end SensorCluster
