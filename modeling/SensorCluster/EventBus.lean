import SensorCluster.BackupPool
import SensorCluster.Event

/-!
# The event bus

The bus hands each event to its observers, one after the other in the order in which they
subscribed, and then puts it into the channels that are open. **No observer can get in the way of
another**: one that fails or panics is noted in the log, and the next is called all the same.

An observer is a function of what it sees: the event, the time, and the slots of the backup pool,
which are free to be read while an event is delivered. It cannot change the cluster. The bus keeps a
record of every call it made.

A channel holds the last 256 events that its reader has not taken; older ones are lost, and the
reader is told how many.
-/

namespace SensorCluster

/-- What an observer is shown. -/
structure Sighting where
  event : Event
  now : WallTime
  slots : List BackupSlot

/-- How a call of an observer ended. -/
inductive Verdict
  | accepted
  | failed (cause : ClusterError)
  | panicked
  deriving DecidableEq, Repr, Inhabited

/-- What an observer did with an event. -/
structure Reaction where
  /-- What it noted for itself. -/
  notes : List String
  /-- What it logged. -/
  lines : List LogLine
  verdict : Verdict
  deriving Inhabited

/-- An observer of events. -/
structure Observer where
  name : String
  react : Sighting → Reaction

/-- The name of an observer that gives none. -/
def Observer.anonymous : String := "observer"

/-- The handle of a subscription. -/
abbrev ObserverId := UInt64

/-- One call of an observer. -/
structure ObserverCall where
  observer : ObserverId
  event : Event
  reaction : Reaction

/-- The events that wait in a channel, oldest first, and how many older ones were lost. -/
structure Mailbox where
  lost : Nat
  waiting : List Event
  deriving Inhabited

namespace Mailbox

/-- The number of events that a channel holds at most. -/
def capacity : Nat := 256

/-- The mailbox without events. -/
def empty : Mailbox := ⟨0, []⟩

/-- Puts an event in; a full mailbox loses its oldest one. -/
def deliver (m : Mailbox) (e : Event) : Mailbox :=
  if m.waiting.length < capacity then { m with waiting := m.waiting ++ [e] }
  else ⟨m.lost + 1, m.waiting.drop 1 ++ [e]⟩

end Mailbox

/-- The event bus. -/
structure EventBus where
  /-- The subscriptions, oldest first. -/
  observers : List (ObserverId × Observer)
  /-- The handle of the next subscription. -/
  nextId : ObserverId
  /-- The open channels, by the number of their opening. -/
  channels : List (Nat × Mailbox)
  /-- How many channels were ever opened. -/
  opened : Nat
  /-- All events ever published. -/
  published : Array Event
  /-- All calls ever made. -/
  calls : Array ObserverCall

namespace EventBus

/-- The bus as it begins. -/
def new : EventBus := ⟨[], 1, [], 0, #[], #[]⟩

instance : Inhabited EventBus := ⟨new⟩

/-- Subscribes an observer and gives its handle. -/
def subscribe (b : EventBus) (o : Observer) : ObserverId × EventBus :=
  (b.nextId, { b with observers := b.observers ++ [(b.nextId, o)], nextId := b.nextId + 1 })

/-- Ends a subscription; the answer says whether there was one. -/
def unsubscribe (b : EventBus) (id : ObserverId) : Bool × EventBus :=
  (b.observers.any fun s ↦ s.1 = id,
    { b with observers := b.observers.filter fun s ↦ s.1 ≠ id })

/-- The line about a call that did not end well. -/
def verdictLines (o : Observer) (e : Event) : Verdict → List LogLine
  | .accepted => []
  | .failed cause => [.warn (s!"Observer {o.name} failed on {e.kind}: " ++ cause.message)]
  | .panicked => [.error s!"Observer {o.name} panicked on {e.kind}"]

/-- The calls of the given subscriptions for one event. -/
def callAll (s : Sighting) (observers : List (ObserverId × Observer)) : List ObserverCall :=
  observers.map fun (id, o) ↦ ⟨id, s.event, o.react s⟩

/-- What is logged while the given subscriptions are called for one event. -/
def callLines (s : Sighting) (observers : List (ObserverId × Observer)) : List LogLine :=
  observers.flatMap fun (_, o) ↦
    let reaction := o.react s
    reaction.lines ++ verdictLines o s.event reaction.verdict

/-- Publishes an event. -/
def publish (b : EventBus) (s : Sighting) : EventBus :=
  { b with
    channels := b.channels.map fun (n, mailbox) ↦ (n, mailbox.deliver s.event)
    published := b.published.push s.event
    calls := b.calls ++ (callAll s b.observers).toArray }

/-- The lines of `publish`. -/
def publishLines (b : EventBus) (s : Sighting) : List LogLine := callLines s b.observers

/-- Opens a channel and gives its number. -/
def openChannel (b : EventBus) : Nat × EventBus :=
  (b.opened, { b with channels := b.channels ++ [(b.opened, .empty)], opened := b.opened + 1 })

/-- Closes a channel. -/
def closeChannel (b : EventBus) (n : Nat) : EventBus :=
  { b with channels := b.channels.filter fun c ↦ c.1 ≠ n }

/-- Takes all that waits in a channel. -/
def drain (b : EventBus) (n : Nat) : Mailbox × EventBus :=
  ((b.channels.lookup n).getD .empty,
    { b with channels := b.channels.map fun (k, m) ↦ (k, if k = n then .empty else m) })

/-- The number of subscriptions. -/
def observerCount (b : EventBus) : Nat := b.observers.length

end EventBus

/-! ### The event log -/

namespace EventLog

/-- The line of an event in the event log. -/
def line (s : Sighting) : LogLine :=
  let text := (Json.obj (("timestamp", .str s.now.stamp) :: s.event.members)).render
  match s.event with
  | .messageRouted _ _ _ => .trace text
  | _ => .info text

/-- The observer that writes each event as a line of JSON to the log. -/
def observer : Observer := ⟨"event-log", fun s ↦ ⟨[], [line s], .accepted⟩⟩

end EventLog

end SensorCluster
