import SensorCluster.Fleet

/-!
# Choosing a receiver

Receivers are interchangeable, so a choice only has to be fair: **round robin** over the registered
receivers that are running, in registration order. The rotation is a counter; it is taken modulo the
number of running receivers at each choice and begins anew after a failure.

A `Placement` can also be pinned to one receiver id. Then that receiver is chosen whatever its
state, and nobody when it is not registered; the rotation stands still meanwhile, and the first
failure lifts the pin.
-/

namespace SensorCluster

/-- The policies a configuration can name. -/
inductive SelectionPolicy
  | roundRobin
  deriving DecidableEq, Repr, Inhabited

namespace SelectionPolicy

/-- The written name of a policy. -/
def name : SelectionPolicy → String
  | roundRobin => "round_robin"

/-- The policy written so. -/
def ofName? (name : String) : Option SelectionPolicy :=
  if name = "round_robin" then some roundRobin else none

/-- The form of a policy in log lines. -/
def logText : SelectionPolicy → String
  | roundRobin => "RoundRobin"

/-- The JSON form of a policy. -/
def toJson (p : SelectionPolicy) : Json := .str p.name

/-- Reads a policy. -/
def ofJson? (j : Json) : Option SelectionPolicy := j.constant? >>= ofName?

end SelectionPolicy

/-- A rotation over interchangeable receivers, by the number of choices since its beginning. -/
structure Rotation where
  position : UInt64
  deriving DecidableEq, Repr, Inhabited

namespace Rotation

/-- The rotation at its beginning. -/
def start : Rotation := ⟨0⟩

/-- Chooses one of the candidates and moves on; of no candidates none is chosen and the rotation
stays. -/
def choose {α : Type} (rotation : Rotation) (candidates : List α) : Option α × Rotation :=
  if candidates.isEmpty then (none, rotation)
  else (candidates[rotation.position.toNat % candidates.length]?, ⟨rotation.position + 1⟩)

end Rotation

/-- How the receiver of a message is chosen. -/
structure Placement where
  rotation : Rotation
  /-- The receiver to which all messages go. -/
  pin : Option String
  deriving DecidableEq, Repr, Inhabited

namespace Placement

/-- Round robin from its beginning. -/
def start : Placement := ⟨.start, none⟩

/-- The name of the policy. -/
def name : String := SelectionPolicy.roundRobin.name

/-- Chooses one of the listed receivers. -/
def select (p : Placement) (fleet : Fleet) (roster : Roster) : Option ReplicaRef × Placement :=
  match p.pin with
  | some id => (fleet.find? roster id, p)
  | none =>
    let (choice, rotation) := p.rotation.choose (fleet.running roster)
    (choice, { p with rotation })

/-- The placement after nobody was chosen, or the chosen receiver did not accept. -/
def afterFailure (_ : Placement) : Placement := start

/-- The lines of `afterFailure`. -/
def failureLines (fleet : Fleet) (roster : Roster) (failed : Option ReplicaRef) :
    List LogLine :=
  match failed with
  | some ref =>
    [.warn (s!"Receiver {(fleet.get ref).id} failed, rotation reset " ++
      s!"({(fleet.running roster).length} running)")]
  | none => [.warn "No receiver available, rotation reset"]

end Placement

end SensorCluster
