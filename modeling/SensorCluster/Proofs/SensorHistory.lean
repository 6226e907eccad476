import SensorCluster.Proofs.OneRoute
import SensorCluster.Proofs.SensorRemoval
import Mathlib.Data.List.DropRight

/-!
# What the registry remembers of a sensor

Of all that a sensor ever sent the registry keeps a few words, and whoever reads them knows which
messages they come from (`sensors_of_history`). **Only those count that were handed over since the
sensor was last removed.** The first announcement among them says since when the sensor is
registered, the latest one what it is and where it announced itself from, and the last message of
any kind when it was heard of. Whether the messages found a receiver does not matter.

## What it rests on

* Of one sensor a cluster has a `Page`: what the registry holds, and what was told of its
  registrations. A message of the sensor that is handed over changes the page, its removal empties
  it, and nothing else that happens concerns it (`undergo_page`). For a route this is so because all
  that comes after the sender is tracked leaves the page alone (`tryRoute_page`).
* What a page comes to by one message after the other can be read off all of them at once
  (`Page.foldl_hear`). That is where the first, the latest and the last one come in.
-/

namespace SensorCluster

/-- A message that was handed over to be routed, the address it came from and the reading of the
clock. -/
structure Handover where
  message : Message
  host : String
  port : UInt16
  now : UInt64

namespace Handover

/-- Does the sensor announce itself by it? -/
def isAnnouncement (h : Handover) : Bool := h.message.kind = .register

/-- The sensor as it is registered when it was not known. -/
def newcomer (h : Handover) : SensorInfo :=
  ⟨h.message.sensor, h.message.sensorType, h.host, h.port, h.now, h.now⟩

/-- What is known of a sensor after one more message. -/
def renew (h : Handover) (info : SensorInfo) : SensorInfo :=
  if h.isAnnouncement = true then
    { info with
      sensorType := h.message.sensorType, host := h.host, port := h.port, lastSeen := h.now }
  else { info with lastSeen := h.now }

/-- The registration that the messages of one sensor come to. -/
def registration? (heard : List Handover) : Option SensorInfo := do
  let announced := heard.filter isAnnouncement
  let first ← announced.head?
  let latest ← announced.getLast?
  let last ← heard.getLast?
  return ⟨first.message.sensor, latest.message.sensorType, latest.host, latest.port,
    first.now, last.now⟩

variable {heard : List Handover} {info : SensorInfo}

theorem isSome_registration?_iff :
    (registration? heard).isSome = true ↔ ∃ h ∈ heard, h.message.kind = .register := by
  rw [registration?]
  cases hannounced : heard.filter isAnnouncement with
  | nil =>
    refine iff_of_false Bool.false_ne_true ?_
    rintro ⟨h, hh, hkind⟩
    exact List.filter_eq_nil_iff.1 hannounced h hh (decide_eq_true hkind)
  | cons first rest =>
    obtain ⟨hfirst, hkind⟩ :=
      List.mem_filter.1 (hannounced ▸ List.mem_cons_self : first ∈ heard.filter _)
    have hne : heard ≠ [] := List.ne_nil_of_mem hfirst
    refine iff_of_true ?_ ⟨first, hfirst, of_decide_eq_true hkind⟩
    simp [List.getLast?_eq_some_getLast, hne]

theorem exists_of_registration? (h : registration? heard = some info) :
    ∃ first latest last, (heard.filter isAnnouncement).head? = some first ∧
      (heard.filter isAnnouncement).getLast? = some latest ∧ heard.getLast? = some last ∧
      info = ⟨first.message.sensor, latest.message.sensorType, latest.host, latest.port, first.now,
        last.now⟩ := by
  obtain ⟨first, hfirst, h⟩ := Option.bind_eq_some_iff.1 h
  obtain ⟨latest, hlatest, h⟩ := Option.bind_eq_some_iff.1 h
  obtain ⟨last, hlast, h⟩ := Option.bind_eq_some_iff.1 h
  exact ⟨first, latest, last, hfirst, hlatest, hlast, (Option.some.inj h).symm⟩

end Handover

/-- Does the event tell of the registration of the sensor of an id? -/
def Event.announces (sensor : String) : Event → Bool
  | sensorRegistered info => info.sensor = sensor
  | _ => false

/-- What a cluster has of one sensor. -/
structure Page where
  /-- What the registry holds. -/
  info : Option SensorInfo
  /-- What was told of its registrations, oldest first. -/
  told : List Event

namespace Page

/-- The page after one more message of its sensor. -/
def hear (p : Page) (h : Handover) : Page :=
  match p.info with
  | some info => { p with info := some (h.renew info) }
  | none =>
    if h.isAnnouncement = true
    then ⟨some h.newcomer, p.told ++ [.sensorRegistered h.newcomer]⟩ else p

/-- **All messages at once.** An empty page comes to the registration that the messages say, and to
the event of the first announcement. -/
theorem foldl_hear (told : List Event) (heard : List Handover) :
    heard.foldl hear ⟨none, told⟩ = ⟨Handover.registration? heard,
      told ++ ((heard.filter Handover.isAnnouncement).head?.map
        fun first ↦ .sensorRegistered first.newcomer).toList⟩ := by
  -- the induction is on the last message, which is the one that the page has just heard
  induction heard using List.reverseRecOn with
  | nil => exact congrArg (Page.mk none) (List.append_nil told).symm
  | append_singleton heard h ih =>
    rw [List.foldl_append, ih, Handover.registration?, Handover.registration?, List.filter_append,
      List.getLast?_concat]
    cases hannounced : heard.filter Handover.isAnnouncement with
    | nil =>
      cases hkind : h.isAnnouncement <;> simp [hear, hkind, Handover.newcomer]
    | cons first rest =>
      have hne : heard ≠ [] := by
        rintro rfl
        cases hannounced
      cases hkind : h.isAnnouncement <;>
        simp [hear, hkind, Handover.renew, List.getLast?_eq_some_getLast, hne]

end Page

namespace Cluster

variable {c c' : Cluster} {e : Happening} {history : List Happening} {sensor other : String}

/-- What the cluster has of a sensor. -/
def page (c : Cluster) (sensor : String) : Page :=
  ⟨c.coordinator.sensors.get? sensor, c.bus.published.toList.filter (Event.announces sensor)⟩

/-! ### What leaves a page alone -/

theorem page_publish {event : Event} (h : event.announces sensor = false) :
    (c.publish event).page sensor = c.page sensor := by
  refine congrArg (Page.mk _) ?_
  rw [published_publish, List.filter_append, List.filter_cons_of_neg (by simp [h])]
  exact List.append_nil _

/-- The page lies on the desk. -/
theorem page_eq_of_desk (h : c'.desk = c.desk) : c'.page sensor = c.page sensor := by
  have hnews : ∀ c : Cluster, c.desk.news.filter (Event.announces sensor) =
      c.bus.published.toList.filter (Event.announces sensor) := by
    intro c
    rw [desk, List.filter_filter]
    refine List.filter_congr fun event _ ↦ ?_
    cases event <;> simp [Event.announces, Event.isOfSensor]
  rw [page, page, ← hnews, ← hnews, h]
  exact congrArg (fun d : Desk ↦ Page.mk (d.office.sensors.get? sensor) _) h

/-- The removal of another sensor. -/
theorem unregisterSensor_page (h : sensor ≠ other) :
    (c.unregisterSensor other).2.page sensor = c.page sensor := by
  have hwithdrawn : (c.withdraw other).2.page sensor = c.page sensor := by
    rw [page, (c.withdraw_forgotten other).sensors sensor h, (c.withdraw_aside other).bus]
    rfl
  rcases c.unregisterSensor_cases other with ⟨-, -, heq⟩ | ⟨-, lines, heq⟩ <;> rw [heq]
  · exact hwithdrawn
  · exact (page_publish rfl).trans hwithdrawn

/-! ### What a route does to a page -/

theorem sensors_handedOver (c : Cluster) (m : Message) (host : String) (port : UInt16) :
    (c.handedOver m host port).coordinator.sensors = c.tracked m host port := by
  set counted := c.modifyCoordinator fun k ↦ { k with totalMessages := k.totalMessages.increment }
  rcases counted.trackSender_cases m host port with ⟨-, heq⟩ | ⟨info, lines, -, heq⟩ <;>
    exact congrArg (·.coordinator.sensors) heq

/-- **The sender is tracked** on its own page. -/
theorem handedOver_page (c : Cluster) (m : Message) (host : String) (port : UInt16)
    (sensor : String) :
    (c.handedOver m host port).page sensor =
      if m.sensor = sensor then (c.page sensor).hear ⟨m, host, port, c.now.millis⟩
      else c.page sensor := by
  obtain ⟨-, -, -, htold⟩ := c.handedOver_spec m host port
  rw [page, sensors_handedOver, htold, List.filter_append, tracked, announcement?]
  by_cases hsensor : m.sensor = sensor
  · subst hsensor
    rw [if_pos rfl]
    -- what becomes of the entry depends on the kind of the message and on whether there was one
    by_cases hkind : m.kind = .register <;>
      cases hknown : c.coordinator.sensors.get? m.sensor <;>
        simp [page, Page.hear, Handover.isAnnouncement, Handover.renew, Handover.newcomer, hkind,
          hknown, SensorRegistry.get?_register, SensorRegistry.get?_touch, Event.announces]
  · have hother : sensor ≠ m.sensor := Ne.symm hsensor
    by_cases hkind : m.kind = .register
    · by_cases hknown : c.coordinator.sensors.get? m.sensor = none <;>
        simp [page, hsensor, hother, hkind, hknown, SensorRegistry.get?_register, Event.announces]
    · simp [page, hsensor, hother, hkind, SensorRegistry.get?_touch]

/-- What comes after that is no page's business. -/
theorem tryRoute_page (c : Cluster) (m : Message) (host : String) (port : UInt16)
    (sensor : String) :
    (c.tryRoute m host port).2.page sensor = (c.handedOver m host port).page sensor := by
  obtain ⟨c₂, hc₂, hcases⟩ := c.tryRoute_cases m host port
  have hchosen : c₂.page sensor = (c.handedOver m host port).page sensor := hc₂ ▸ rfl
  obtain ⟨-, heq⟩ | ⟨ref, -, ⟨cause, lines, -, heq⟩ | ⟨outcome, r, lines, hprocess, heq⟩⟩ :=
    hcases <;>
    rw [heq]
  · exact (page_publish rfl).trans hchosen
  · exact (page_publish rfl).trans ((page_publish rfl).trans hchosen)
  · refine (page_publish rfl).trans ?_
    exact (page_eq_of_desk (processed_aside hprocess lines).desk).trans hchosen

/-! ### What happens to a page -/

/-- The message that is handed over in a happening. -/
def handover? (c : Cluster) : Happening → Option Handover
  | .request (.operation (.route m host port)) _ => some ⟨m, host, port, c.now.millis⟩
  | _ => none

/-- The messages of a sensor that are handed over in the course of a history, accepted or not. -/
def heard (c : Cluster) (sensor : String) (history : List Happening) : List Handover :=
  (c.collect handover? history).filter (·.message.sensor = sensor)

theorem heard_cons (c : Cluster) (sensor : String) (e : Happening) (rest : List Happening) :
    c.heard sensor (e :: rest) = c.heard sensor [e] ++ (c.undergo e).heard sensor rest := by
  rw [heard, heard, heard, ← List.filter_append]
  exact congrArg _ (collect_append handover? c [e] rest)

/-- Only a route hands over a message. -/
theorem heard_of_answer (h : c.answer? e = none) : c.heard sensor [e] = [] := by
  rw [answer?.eq_def] at h
  split at h
  · cases h
  · next hroute =>
    rw [heard, collect, handover?.eq_def]
    split
    · exact (hroute _ _ _ _ rfl).elim
    · rfl

/-- **One happening**: unless the sensor is removed, its page changes by its own messages alone. -/
theorem undergo_page (h : e.removes sensor = false) :
    (c.undergo e).page sensor = (c.heard sensor [e]).foldl Page.hear (c.page sensor) := by
  cases hanswer : c.answer? e with
  | some answer =>
    obtain ⟨m, host, port, hcall, rfl, -⟩ := route_of_answer hanswer
    refine (tryRoute_page ..).trans ((handedOver_page ..).trans ?_)
    split
    · next heq => simp [heard, collect, handover?, heq]
    · next hne => simp [heard, collect, handover?, hne]
  | none =>
    rw [heard_of_answer hanswer]
    by_cases hpin : e.IsPin
    · obtain ⟨id, hcall, rfl⟩ := hpin.eq_pin
      rfl
    by_cases hremoval : ∃ other, e.removes other = true
    · obtain ⟨other, hremoves⟩ := hremoval
      obtain ⟨hcall, rfl⟩ := Happening.eq_unregisterSensor_of_removes hremoves
      refine unregisterSensor_page ?_
      rintro rfl
      rw [hremoves] at h
      cases h
    · exact page_eq_of_desk
        (undergo_desk hanswer hpin fun other ↦ Bool.eq_false_iff.2 fun h ↦ hremoval ⟨other, h⟩)

/-- **A whole history** without a removal. -/
theorem undergoAll_page (h : ∀ e ∈ history, e.removes sensor = false) :
    (c.undergoAll history).page sensor =
      (c.heard sensor history).foldl Page.hear (c.page sensor) := by
  induction history generalizing c with
  | nil => rfl
  | cons e rest ih =>
    obtain ⟨he, hrest⟩ := List.forall_mem_cons.1 h
    show ((c.undergo e).undergoAll rest).page sensor = _
    rw [ih hrest, undergo_page he, ← List.foldl_append, ← heard_cons]

theorem get?_undergo_of_removes (h : e.removes sensor = true) :
    (c.undergo e).coordinator.sensors.get? sensor = none := by
  obtain ⟨hcall, rfl⟩ := Happening.eq_unregisterSensor_of_removes h
  show (c.unregisterSensor sensor).2.coordinator.sensors.get? sensor = none
  have hforgotten := (c.withdraw_forgotten sensor).unregistered
  rcases c.unregisterSensor_cases sensor with ⟨-, -, heq⟩ | ⟨-, lines, heq⟩ <;> rw [heq] <;>
    exact hforgotten

/-! ### Since the last removal -/

/-- What happened since the sensor was last removed. -/
def sinceRemoval (sensor : String) (history : List Happening) : List Happening :=
  history.rtakeWhile fun e ↦ !e.removes sensor

/-- What happened up to the last removal of the sensor, or nothing if there was none. -/
def uptoRemoval (sensor : String) (history : List Happening) : List Happening :=
  history.rdropWhile fun e ↦ !e.removes sensor

/-- A sensor is not registered straight after its removal, nor in the beginning. -/
theorem get?_uptoRemoval (hnew : c.coordinator.sensors.get? sensor = none)
    (history : List Happening) :
    (c.undergoAll (uptoRemoval sensor history)).coordinator.sensors.get? sensor = none := by
  by_cases hnever : uptoRemoval sensor history = []
  · rw [hnever]
    exact hnew
  · have hlast : ((uptoRemoval sensor history).getLast hnever).removes sensor = true := by
      by_contra hother
      exact List.rdropWhile_last_not _ history hnever
        (Bool.not_eq_true' _ ▸ Bool.eq_false_iff.2 hother)
    rw [← List.dropLast_concat_getLast hnever, undergoAll_concat]
    exact get?_undergo_of_removes hlast

/-- **The page after any history.** It begins empty at the last removal. -/
theorem page_of_history (hnew : c.coordinator.sensors.get? sensor = none)
    (history : List Happening) :
    let c₀ := c.undergoAll (uptoRemoval sensor history)
    let heard := c₀.heard sensor (sinceRemoval sensor history)
    (c.undergoAll history).page sensor = ⟨Handover.registration? heard,
      (c₀.page sensor).told ++ ((heard.filter Handover.isAnnouncement).head?.map
        fun first ↦ .sensorRegistered first.newcomer).toList⟩ := by
  intro c₀ heard
  have hafter : c.undergoAll history = c₀.undergoAll (sinceRemoval sensor history) := by
    rw [← undergoAll_append]
    exact congrArg c.undergoAll (List.rdropWhile_append_rtakeWhile ..).symm
  have hkept : ∀ e ∈ sinceRemoval sensor history, e.removes sensor = false := fun e he ↦ by
    simpa using List.mem_rtakeWhile_imp he
  have hempty : c₀.page sensor = ⟨none, (c₀.page sensor).told⟩ :=
    congrArg (Page.mk · _) (get?_uptoRemoval hnew history)
  rw [hafter, undergoAll_page hkept, hempty]
  exact Page.foldl_hear ..

/-- Who is registered announced himself since his last removal. -/
theorem isSome_get?_of_history (hnew : c.coordinator.sensors.get? sensor = none)
    (history : List Happening) :
    ((c.undergoAll history).coordinator.sensors.get? sensor).isSome = true ↔
      ∃ h ∈ (c.undergoAll (uptoRemoval sensor history)).heard sensor (sinceRemoval sensor history),
        h.message.kind = .register := by
  have hpage := page_of_history hnew history
  rw [show (c.undergoAll history).coordinator.sensors.get? sensor = _ from congrArg Page.info hpage]
  exact Handover.isSome_registration?_iff

/-- Which messages an entry of the registry comes from. -/
theorem get?_of_history {info : SensorInfo} (hnew : c.coordinator.sensors.get? sensor = none)
    (hget : (c.undergoAll history).coordinator.sensors.get? sensor = some info) :
    let c₀ := c.undergoAll (uptoRemoval sensor history)
    let heard := c₀.heard sensor (sinceRemoval sensor history)
    let announced := heard.filter Handover.isAnnouncement
    ∃ first latest last, announced.head? = some first ∧ announced.getLast? = some latest ∧
      heard.getLast? = some last ∧
      info = ⟨sensor, latest.message.sensorType, latest.host, latest.port, first.now, last.now⟩ ∧
      (c.undergoAll history).bus.published.toList.filter (Event.announces sensor) =
        c₀.bus.published.toList.filter (Event.announces sensor) ++
          [.sensorRegistered ⟨sensor, first.message.sensorType, first.host, first.port, first.now,
            first.now⟩] := by
  intro c₀ heard announced
  have hpage : (c.undergoAll history).page sensor = _ := page_of_history hnew history
  have hinfo : Handover.registration? heard = some info :=
    (congrArg Page.info hpage).symm.trans hget
  obtain ⟨first, latest, last, hfirst, hlatest, hlast, rfl⟩ :=
    Handover.exists_of_registration? hinfo
  have hsensor : first.message.sensor = sensor := by
    have hheard : first ∈ heard := List.mem_of_mem_filter (List.mem_of_head? hfirst)
    exact of_decide_eq_true (List.mem_filter.1 hheard).2
  have hnewcomer : first.newcomer =
      ⟨sensor, first.message.sensorType, first.host, first.port, first.now, first.now⟩ := by
    rw [Handover.newcomer, hsensor]
  refine ⟨first, latest, last, hfirst, hlatest, hlast, by rw [hsensor], ?_⟩
  rw [← hnewcomer]
  refine (congrArg Page.told hpage).trans ?_
  rw [hfirst]
  rfl

/-- **The registry reflects what was routed**, after any history of a new cluster: whatever messages
were handed over, accepted or not, whatever sensors were removed and whatever the clock read, also
if it went back.

A sensor is registered when an announcement of it was handed over since its last removal, and only
then. Then the first such announcement says since when, the latest one its type and where it
announced itself from, and the last message of any kind since then when it was heard of. Of its
registration was told once since its last removal.

The listed sensors increase in their ids, and each registered one is listed once. -/
theorem sensors_of_history (config : Config) (sink : SnapshotSink) (provisioner : Provisioner)
    (now : WallTime) (history : List Happening) :
    let c := (new config sink provisioner now).undergoAll history
    let sensors := c.coordinator.sensors
    (∀ sensor,
      let c₀ := (new config sink provisioner now).undergoAll (uptoRemoval sensor history)
      let heard := c₀.heard sensor (sinceRemoval sensor history)
      let announced := heard.filter Handover.isAnnouncement
      ((sensors.get? sensor).isSome = true ↔ ∃ h ∈ heard, h.message.kind = .register) ∧
      ∀ info, sensors.get? sensor = some info →
        ∃ first latest last, announced.head? = some first ∧ announced.getLast? = some latest ∧
          heard.getLast? = some last ∧
          info = ⟨sensor, latest.message.sensorType, latest.host, latest.port,
            first.now, last.now⟩ ∧
          c.bus.published.toList.filter (Event.announces sensor) =
            c₀.bus.published.toList.filter (Event.announces sensor) ++
              [.sensorRegistered ⟨sensor, first.message.sensorType, first.host, first.port,
                first.now, first.now⟩]) ∧
    (sensors.list.Pairwise fun a b ↦ a.sensor < b.sensor) ∧
    ∀ sensor, sensors.list.filter (·.sensor = sensor) = (sensors.get? sensor).toList := by
  intro c sensors
  have hfiled : sensors.Filed := by
    intro sensor info hget
    obtain ⟨first, latest, last, -, -, -, rfl, -⟩ := get?_of_history rfl hget
    rfl
  exact ⟨fun sensor ↦ ⟨isSome_get?_of_history rfl history, fun info ↦ get?_of_history rfl⟩,
    hfiled.pairwise_list, hfiled.filter_list⟩

/-- Nobody is there to accept a message, and the clock goes back. The sensor was removed once, and
what it sends before it announces itself again is not noted. -/
def comesAgain : List Happening :=
  let route (m : Message) (host : String) : Happening :=
    .request (.operation (.route m host 1)) trivial
  [route (.register "m1" "s" "old" 0) "a",
    .request (.operation (.unregisterSensor "s")) trivial,
    .tellTime ⟨10, ""⟩, route (.data "m2" "s" "thermo" 0.0 7 1) "b",
    .tellTime ⟨20, ""⟩, route (.register "m3" "s" "thermo" 0) "c",
    .tellTime ⟨40, ""⟩, route (.register "m4" "s" "hygro" 0) "d",
    .tellTime ⟨30, ""⟩, route (.heartbeat "m5" "s" "none" 0) "e"]

/-- Type and host are those of the fourth message, the times those of the third and of the fifth.
The sensor was told of twice, once since its removal. -/
theorem sensors_of_history_comesAgain :
    let c := (new .default .discard .inMemory default).undergoAll comesAgain
    c.coordinator.sensors.get? "s" = some ⟨"s", "hygro", "d", 1, 20, 30⟩ ∧
      (c.bus.published.toList.filter (Event.announces "s")).length = 2 := by
  intro c
  have hget : c.coordinator.sensors.get? "s" = some ⟨"s", "hygro", "d", 1, 20, 30⟩ := by
    decide +kernel
  obtain ⟨hsensor, -, -⟩ := sensors_of_history .default .discard .inMemory default comesAgain
  obtain ⟨first, latest, last, -, -, -, -, htold⟩ := (hsensor "s").2 _ hget
  refine ⟨hget, ?_⟩
  rw [htold, List.length_append, List.length_singleton]
  decide +kernel

end Cluster

end SensorCluster
