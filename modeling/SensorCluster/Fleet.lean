import SensorCluster.Replica

/-!
# The fleet and its rosters

The `Fleet` holds every receiver that was ever created, each under the number of its creation. A
receiver is changed in one place and **all that refer to it see the change**, whether they list it
once, twice or no longer.

A `Roster` is a list of such numbers: the registry of the cluster is one, the pool of the
replication another. A roster takes a receiver in only when it lists none of the same id.
-/

namespace SensorCluster

/-- The number under which the fleet holds a receiver. -/
abbrev ReplicaRef := Nat

/-- All receivers ever created, oldest first. -/
structure Fleet where
  replicas : List Replica
  deriving Inhabited

/-- A list of receivers, in the order in which they joined. -/
abbrev Roster := List ReplicaRef

namespace Fleet

/-- The fleet without receivers. -/
def empty : Fleet := ⟨[]⟩

/-- The receiver under a number. -/
def get (f : Fleet) (ref : ReplicaRef) : Replica := f.replicas.getD ref default

/-- Puts a receiver in the place of the one under a number. -/
def set (f : Fleet) (ref : ReplicaRef) (r : Replica) : Fleet := ⟨f.replicas.set ref r⟩

/-- Takes a new receiver in and gives it its number. -/
def add (f : Fleet) (r : Replica) : ReplicaRef × Fleet :=
  (f.replicas.length, ⟨f.replicas ++ [r]⟩)

variable (f : Fleet)

/-- Is the number that of a receiver? -/
def Holds (ref : ReplicaRef) : Prop := ref < f.replicas.length

variable {f} in
/-- Only the receiver that is replaced reads otherwise. -/
theorem get_set {ref : ReplicaRef} (h : f.Holds ref) (other : ReplicaRef) (r : Replica) :
    (f.set ref r).get other = if other = ref then r else f.get other := by
  simp only [get, set, List.getD_eq_getElem?_getD, List.getElem?_set]
  by_cases ho : ref = other
  · subst ho
    have h' : ref < f.replicas.length := h
    simp [h']
  · simp [ho, Ne.symm ho]

variable {f} in
/-- A newcomer takes nobody's number. -/
theorem get_add_of_holds {ref : ReplicaRef} (h : f.Holds ref) (r : Replica) :
    (f.add r).2.get ref = f.get ref := by
  simp only [get, add, List.getD_eq_getElem?_getD]
  rw [List.getElem?_append_left h]

theorem get_add_self (r : Replica) : (f.add r).2.get (f.add r).1 = r := by
  simp [get, add]

/-- The listed receiver of an id. -/
def find? (roster : Roster) (id : String) : Option ReplicaRef :=
  roster.find? fun ref ↦ (f.get ref).id = id

/-- Is a receiver of the id listed? -/
def lists (roster : Roster) (id : String) : Bool := roster.any fun ref ↦ (f.get ref).id = id

/-- The roster with a receiver added at its end; none if one of the same id is listed. -/
def enlist (roster : Roster) (ref : ReplicaRef) : Option Roster :=
  if f.lists roster (f.get ref).id then none else some (roster ++ [ref])

/-- The roster without the receivers of an id. -/
def dismiss (roster : Roster) (id : String) : Roster :=
  roster.filter fun ref ↦ (f.get ref).id ≠ id

/-- The ids of the listed receivers. -/
def ids (roster : Roster) : List String := roster.map fun ref ↦ (f.get ref).id

/-- The listed receivers that are running. -/
def running (roster : Roster) : Roster := roster.filter fun ref ↦ (f.get ref).isRunning

/-- What the registries show of the listed receivers. -/
def entries (roster : Roster) : List ReplicaEntry := roster.map fun ref ↦ (f.get ref).entry

/-- The running receiver of another id that has seen the most messages; of several the one listed
last. -/
def mostComplete? (roster : Roster) (excluded : String) : Option ReplicaRef :=
  roster.foldl
    (fun best ref ↦
      let r := f.get ref
      if r.id = excluded ∨ !r.isRunning then best
      else match best with
        | none => some ref
        | some b => if r.total < (f.get b).total then some b else some ref)
    none

end Fleet

end SensorCluster
