import SensorCluster.Proofs.Deliveries
import SensorCluster.Proofs.FairRotation

/-!
# What one route does

A route passes through four hands: the sender is tracked, a receiver is chosen, it processes the
message, and the coordinator merges its answer, counts and tells. **It touches one receiver or
none** (`tryRoute_touches_one`). In round robin the chosen receiver is running, so it accepts, and
the branch of a receiver that refuses is never taken. Which of the two outcomes comes about depends
only on whether a registered receiver is running.

## What it rests on

* What comes before the choice makes one cluster, `handedOver`. It differs from the one before in
  what the coordinator knows of the sender, in the count of messages, and in the event of a sensor
  that is new (`handedOver_spec`).
* After a failure the rotation stands at its beginning. Nothing but a route moves it and a failing
  one puts it back there, so it is still there when the next choice is made, however long that takes
  (`placement_of_failing`).
-/

namespace SensorCluster

namespace Cluster

variable {c c' : Cluster} {e : Happening} {history : List Happening} {ref : ReplicaRef}
  {m : Message} {host : String} {port : UInt16}

/-! ### Before the choice -/

/-- A new sensor is told of, and nothing else. -/
theorem published_trackSender (c : Cluster) (m : Message) (host : String) (port : UInt16) :
    (c.trackSender m host port).bus.published.toList =
      c.bus.published.toList ++ (c.announcement? m host port).toList := by
  rcases c.trackSender_cases m host port with ⟨hnone, heq⟩ | ⟨info, lines, hnew, heq⟩ <;> rw [heq]
  · rw [hnone]
    exact (List.append_nil _).symm
  · rw [hnew]
    exact published_publish _

/-- **Before the choice** the message is counted and a new sensor told of. No receiver is concerned,
nor is the placement. -/
theorem handedOver_spec (c : Cluster) (m : Message) (host : String) (port : UInt16) :
    (c.handedOver m host port).core.fleet = c.fleet ∧
      (c.handedOver m host port).core.registry = c.coordinator.registry ∧
      (c.handedOver m host port).coordinator.routing =
        ⟨c.coordinator.ledger.counted, c.coordinator.placement⟩ ∧
      (c.handedOver m host port).bus.published.toList =
        c.bus.published.toList ++ (c.announcement? m host port).toList := by
  have hcore : (c.handedOver m host port).core = c.core := trackSender_core m host port
  exact ⟨congrArg Core.fleet hcore, congrArg Core.registry hcore, trackSender_routing m host port,
    published_trackSender _ m host port⟩

/-! ### The two outcomes -/

/-- The message was accepted by a receiver, and nobody else was touched. -/
structure Accepted (c : Cluster) (m : Message) (host : String) (port : UInt16) (ref : ReplicaRef)
    (c' : Cluster) : Prop where
  /-- The receiver is what it becomes by processing the message. -/
  processed : ∃ outcome, (c.replica ref).process m = .ok (outcome, c'.replica ref)
  counted : (c'.replica ref).total = (c.replica ref).total + 1
  others : ∀ other, other ≠ ref → c'.replica other = c.replica other
  registry : c'.coordinator.registry = c.coordinator.registry
  merged : c'.coordinator.globalVector = c.coordinator.globalVector.merge (c'.replica ref).vector
  failedRoutes : c'.coordinator.failedRoutes = c.coordinator.failedRoutes
  rotation : c'.coordinator.placement = c.coordinator.placement.movedOn 1
  told : c'.bus.published.toList = c.bus.published.toList ++ (c.announcement? m host port).toList ++
    [.messageRouted m.id m.sensor (c.replica ref).id]

/-- Nobody was there to accept the message, and nobody was touched. -/
structure Unrouted (c : Cluster) (m : Message) (host : String) (port : UInt16)
    (c' : Cluster) : Prop where
  fleet : c'.fleet = c.fleet
  registry : c'.coordinator.registry = c.coordinator.registry
  globalVector : c'.coordinator.globalVector = c.coordinator.globalVector
  failedRoutes : c'.coordinator.failedRoutes = c.coordinator.failedRoutes + 1
  rotation : c'.coordinator.placement = .start
  told : c'.bus.published.toList = c.bus.published.toList ++ (c.announcement? m host port).toList ++
    [.routingFailed m.id m.sensor ClusterError.noHealthyReceivers.message]

/-- Every message that is handed over is counted, whatever becomes of it. -/
theorem totalMessages_tryRoute (c : Cluster) (m : Message) (host : String) (port : UInt16) :
    (c.tryRoute m host port).2.coordinator.totalMessages = c.coordinator.totalMessages + 1 := by
  rcases tryRoute_spec (c := c) m host port with ⟨_, _, _, _, _, _, _, hledger⟩ |
    ⟨_, _, _, hledger⟩ <;>
    exact congrArg Ledger.totalMessages hledger

/-- What a route comes to when the chosen receiver accepts. -/
theorem tryRoute_of_ok {placement : Placement} {outcome : Replica.ProcessOutcome} {r : Replica}
    (hselect : (c.handedOver m host port).coordinator.placement.select
      (c.handedOver m host port).fleet
      (c.handedOver m host port).coordinator.registry = (some ref, placement))
    (hprocess : ((c.handedOver m host port).replica ref).process m = .ok (outcome, r)) :
    let chosen := (c.handedOver m host port).modifyCoordinator fun k ↦ { k with placement }
    ∃ lines, c.tryRoute m host port = (.ok (chosen.replica ref).id,
      (((chosen.setReplica ref r).write lines).modifyCoordinator fun k ↦
        { k with globalVector := k.globalVector.merge outcome.vector }).publish
          (.messageRouted m.id m.sensor (chosen.replica ref).id)) := by
  intro chosen
  obtain ⟨c₂, hc₂, hcases⟩ := c.tryRoute_cases m host port
  rw [hselect] at hc₂ hcases
  obtain rfl : c₂ = chosen := hc₂
  obtain ⟨hnone, -⟩ | ⟨other, hother, ⟨cause, lines, hrefused, -⟩ |
    ⟨_, _, lines, hprocess', heq⟩⟩ := hcases
  · cases hnone
  · cases hother
    cases hrefused.symm.trans hprocess
  · cases hother
    cases hprocess'.symm.trans hprocess
    exact ⟨lines, heq⟩

/-- **Whoever is chosen while somebody is running accepts.** -/
theorem tryRoute_of_running (hpin : c.coordinator.placement.pin = none)
    (hrunning : c.fleet.running c.coordinator.registry ≠ []) (m : Message) (host : String)
    (port : UInt16) :
    ∃ ref ∈ c.fleet.running c.coordinator.registry,
      (c.coordinator.placement.round c.fleet c.coordinator.registry).head? = some ref ∧
      (c.tryRoute m host port).1 = .ok (c.replica ref).id ∧
      c.Accepted m host port ref (c.tryRoute m host port).2 := by
  obtain ⟨hfleet, hregistry, hrouting, htold⟩ := c.handedOver_spec m host port
  obtain ⟨ref, href, hhead, hchoice⟩ := Placement.exists_select hpin hrunning
  obtain ⟨outcome, r, hprocess⟩ := Replica.exists_process (Fleet.mem_running.1 href).2 m
  have hreplica : (c.handedOver m host port).replica ref = c.replica ref :=
    congrArg (Fleet.get · ref) hfleet
  have hselect : (c.handedOver m host port).coordinator.placement.select
      (c.handedOver m host port).fleet (c.handedOver m host port).coordinator.registry =
        (some ref, c.coordinator.placement.movedOn 1) := by
    rw [show (c.handedOver m host port).coordinator.placement = _ from
        congrArg Routing.placement hrouting,
      show (c.handedOver m host port).fleet = _ from hfleet,
      show (c.handedOver m host port).coordinator.registry = _ from hregistry]
    exact hchoice
  have hprocess' : ((c.handedOver m host port).replica ref).process m = .ok (outcome, r) := by
    rw [hreplica]
    exact hprocess
  obtain ⟨lines, heq⟩ := tryRoute_of_ok hselect hprocess'
  rw [heq]
  set chosen := (c.handedOver m host port).modifyCoordinator fun k ↦
    { k with placement := c.coordinator.placement.movedOn 1 }
  set c' := Cluster.publish _ _
  have hother : ∀ other, c'.replica other = if other = ref then r else c.replica other := by
    have hput : c'.fleet = c.fleet.set ref r := congrArg (Fleet.set · ref r) hfleet
    intro other
    rw [replica, hput, Fleet.get_set (Fleet.holds_of_mem_running href)]
    rfl
  have htarget : c'.replica ref = r := (hother ref).trans (if_pos rfl)
  obtain ⟨hvector, htotal, -⟩ := Replica.vector_of_process hprocess
  refine ⟨ref, href, hhead, congrArg (Except.ok ·.id) hreplica, ?_⟩
  exact {
    processed := ⟨outcome, htarget ▸ hprocess⟩
    counted := htarget ▸ htotal
    others := fun other hne ↦ (hother other).trans (if_neg hne)
    registry := hregistry
    merged := by
      rw [htarget, ← hvector]
      exact congrArg (·.ledger.globalVector.merge outcome.vector) hrouting
    failedRoutes := congrArg (·.ledger.failedRoutes) hrouting
    rotation := rfl
    told := by
      rw [← hreplica, ← htold]
      exact published_publish _ }

/-- **Where nobody is running, nobody is chosen.** -/
theorem tryRoute_of_none (hpin : c.coordinator.placement.pin = none)
    (hnone : c.fleet.running c.coordinator.registry = []) (m : Message) (host : String)
    (port : UInt16) :
    (c.tryRoute m host port).1 = .error .noHealthyReceivers ∧
      c.Unrouted m host port (c.tryRoute m host port).2 := by
  obtain ⟨hfleet, hregistry, hrouting, htold⟩ := c.handedOver_spec m host port
  have hselect : (c.handedOver m host port).coordinator.placement.select
      (c.handedOver m host port).fleet (c.handedOver m host port).coordinator.registry =
        (none, c.coordinator.placement) := by
    rw [show (c.handedOver m host port).coordinator.placement = _ from
        congrArg Routing.placement hrouting,
      show (c.handedOver m host port).fleet = _ from hfleet,
      show (c.handedOver m host port).coordinator.registry = _ from hregistry]
    exact Placement.select_of_none hpin hnone
  have heq : c.tryRoute m host port = (.error .noHealthyReceivers,
      (((c.handedOver m host port).modifyCoordinator fun k ↦
        { k with placement := c.coordinator.placement }).failRoute none).publishRoutingFailure m
          .noHealthyReceivers) := by
    obtain ⟨c₂, hc₂, hcases⟩ := c.tryRoute_cases m host port
    rw [hselect] at hc₂ hcases
    rw [← hc₂]
    obtain ⟨-, heq⟩ | ⟨ref, href, -⟩ := hcases
    · exact heq
    · cases href
  rw [heq]
  exact ⟨rfl, {
    fleet := hfleet
    registry := hregistry
    globalVector := congrArg (·.ledger.globalVector) hrouting
    failedRoutes := congrArg (·.ledger.failedRoutes + 1) hrouting
    rotation := rfl
    told := by
      rw [← htold]
      exact published_publish _ }⟩

/-! ### After a failure -/

/-- A route that fails puts the rotation at its beginning. -/
theorem placement_of_error {cause : ClusterError} (h : (c.tryRoute m host port).1 = .error cause) :
    (c.tryRoute m host port).2.coordinator.placement = .start := by
  obtain ⟨c₂, -, ⟨-, heq⟩ | ⟨ref, -, ⟨cause, lines, -, heq⟩ | ⟨outcome, r, lines, -, heq⟩⟩⟩ :=
    c.tryRoute_cases m host port <;> rw [heq] at h ⊢
  · rfl
  · rfl
  · cases h

/-- **It stays there** until a message is accepted, whatever else happens. -/
theorem placement_of_failing (hstart : c.coordinator.placement = .start)
    (hfails : ∀ answer ∈ c.answers history, answer.isOk = false) (hpin : ∀ e ∈ history, ¬e.IsPin) :
    (c.undergoAll history).coordinator.placement = .start := by
  induction history generalizing c with
  | nil => exact hstart
  | cons e rest ih =>
    have hfails' : ∀ answer ∈ (c.answer? e).toList ++ (c.undergo e).answers rest,
        answer.isOk = false := hfails
    refine ih ?_ (fun answer h ↦ hfails' answer (List.mem_append_right _ h))
      fun e he ↦ hpin e (List.mem_cons_of_mem _ he)
    cases hanswer : c.answer? e with
    | none =>
      have hsame := undergo_routing hanswer (hpin e List.mem_cons_self)
      exact (congrArg Routing.placement hsame).trans hstart
    | some answer =>
      have hfailed : answer.isOk = false :=
        hfails' answer (List.mem_append_left _ (by simp [hanswer]))
      obtain ⟨m, host, port, -, rfl, rfl⟩ := route_of_answer hanswer
      cases herror : (c.tryRoute m host port).1 with
      | ok id =>
        rw [herror] at hfailed
        cases hfailed
      | error cause => exact placement_of_error herror

/-- **A route touches one receiver or none.** In round robin, whatever the message and whatever the
state of the cluster, `tryRoute` counts the message, and no receiver is ever found unavailable.

* If a registered receiver is running, one that is registered and running accepts the message, and
  its id is the answer. It counts one message more and its new vector is merged into the global one;
  every other receiver is as before, no failure is counted, the rotation moves on by one, and the
  one event beside that of a new sensor tells that the message was routed to it.
* If none is running, the answer is that there are no healthy receivers. No receiver changes, nor
  does the global vector; one failure is counted, and the one event beside that of a new sensor
  tells that the message was not routed. Whatever happens from then on, so long as no message is
  accepted and nothing is pinned, the receiver that accepts the next one is the first in
  registration order of those that are running by then. -/
theorem tryRoute_touches_one (c : Cluster) (m : Message) (host : String) (port : UInt16)
    (hpin : c.coordinator.placement.pin = none) :
    let answer := (c.tryRoute m host port).1
    let c' := (c.tryRoute m host port).2
    c'.coordinator.totalMessages = c.coordinator.totalMessages + 1 ∧
    (∀ id, answer ≠ .error (.receiverUnavailable id)) ∧
    ((∃ ref ∈ c.coordinator.registry, (c.replica ref).isRunning = true) →
      ∃ ref ∈ c.coordinator.registry, (c.replica ref).isRunning = true ∧
        answer = .ok (c.replica ref).id ∧ c.Accepted m host port ref c') ∧
    ((∀ ref ∈ c.coordinator.registry, (c.replica ref).isRunning = false) →
      answer = .error .noHealthyReceivers ∧ c.Unrouted m host port c' ∧
      ∀ history, (∀ answer ∈ c'.answers history, answer.isOk = false) →
        (∀ e ∈ history, ¬e.IsPin) →
        let c'' := c'.undergoAll history
        ∀ first, (c''.fleet.running c''.coordinator.registry).head? = some first →
          ∀ m host port, (c''.tryRoute m host port).1 = .ok (c''.replica first).id) := by
  intro answer c'
  refine ⟨totalMessages_tryRoute c m host port, fun id hanswer ↦ ?_, ?_, fun hnone ↦ ?_⟩
  · by_cases hrunning : c.fleet.running c.coordinator.registry = []
    · cases (tryRoute_of_none hpin hrunning m host port).1.symm.trans hanswer
    · obtain ⟨ref, -, -, hok, -⟩ := tryRoute_of_running hpin hrunning m host port
      cases hok.symm.trans hanswer
  · rintro ⟨ref, href, hup⟩
    have hrunning : c.fleet.running c.coordinator.registry ≠ [] :=
      List.ne_nil_of_mem (Fleet.mem_running.2 ⟨href, hup⟩)
    obtain ⟨target, htarget, -, hanswer, haccepted⟩ := tryRoute_of_running hpin hrunning m host port
    obtain ⟨hlisted, hup⟩ := Fleet.mem_running.1 htarget
    exact ⟨target, hlisted, hup, hanswer, haccepted⟩
  · have hrunning : c.fleet.running c.coordinator.registry = [] :=
      List.filter_eq_nil_iff.2 fun ref href ↦ Bool.eq_false_iff.1 (hnone ref href)
    obtain ⟨hanswer, hunrouted⟩ := tryRoute_of_none hpin hrunning m host port
    refine ⟨hanswer, hunrouted, fun history hfails hpins ↦ ?_⟩
    intro c'' first hfirst m host port
    have hstart : c''.coordinator.placement = .start :=
      placement_of_failing hunrouted.rotation hfails hpins
    have hup : c''.fleet.running c''.coordinator.registry ≠ [] := by
      intro heq
      rw [heq] at hfirst
      cases hfirst
    obtain ⟨ref, -, hhead, hok, -⟩ := tryRoute_of_running (by rw [hstart]; rfl) hup m host port
    rw [hstart, Placement.round_start, hfirst] at hhead
    rw [hok, Option.some.inj hhead]

/-- A cluster whose only receiver was stopped. -/
def onlyStopped : Cluster :=
  (new .default .discard .inMemory default).handleAll
    [.operation (.register { Replica.new "a" "" with state := .running, inbound := true }),
      .operation (.stop 0)]

/-- The message is refused, and the next one accepted when the receiver is back. -/
theorem tryRoute_touches_one_onlyStopped :
    let m := Message.data "m" "s" "t" 0.0 7 5
    let c' := (onlyStopped.tryRoute m "host" 1).2
    let c'' := c'.undergoAll [.request (.operation (.recover 0)) trivial]
    (onlyStopped.tryRoute m "host" 1).1 = .error .noHealthyReceivers ∧
      (c''.tryRoute m "host" 1).1 = .ok "a" := by
  intro m c' c''
  obtain ⟨-, -, -, hnone⟩ := tryRoute_touches_one onlyStopped m "host" 1 rfl
  obtain ⟨hanswer, -, hnext⟩ := hnone (by decide +kernel)
  refine ⟨hanswer,
    hnext _ (fun answer h ↦ absurd h List.not_mem_nil) (fun e he ↦ ?_) 0 ?_ m "host" 1⟩
  · rw [List.mem_singleton.1 he]
    exact id
  · decide +kernel

end Cluster

end SensorCluster
