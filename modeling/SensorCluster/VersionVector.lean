import SensorCluster.KeyMap
import SensorCluster.Json.Decode

/-!
# Version vectors

A version vector holds a counter for each of some nodes; a node it does not hold reads as zero
(`VersionVector.get`). Merging takes the larger counter node by node, and one vector dominates
another when it is at least as large at every node. **An entry that holds zero is an entry**: it is
kept, listed and written, although no reading can tell it from an absent one.
-/

namespace SensorCluster

/-- A counter for each of some nodes. -/
structure VersionVector where
  counters : KeyMap UInt64

namespace VersionVector

/-- The vector without entries. -/
def empty : VersionVector := ⟨.empty⟩

instance : Inhabited VersionVector := ⟨empty⟩

/-- The counter of a node, zero when the vector does not hold it. -/
def get (v : VersionVector) (node : String) : UInt64 := (v.counters.get? node).getD 0

/-- One more, but never more than the largest word. -/
def bump (n : UInt64) : UInt64 := if n = UInt64.ofNat (UInt64.size - 1) then n else n + 1

/-- Raises the counter of a node by one, as far as a word allows. -/
def increment (v : VersionVector) (node : String) : VersionVector :=
  ⟨v.counters.insert node (bump (v.get node))⟩

/-- Sets the counter of a node. -/
def set (v : VersionVector) (node : String) (n : UInt64) : VersionVector :=
  ⟨v.counters.insert node n⟩

/-- The vector of a list of counters; of two for one node the later counts. -/
def ofList (l : List (String × UInt64)) : VersionVector := ⟨.ofList l⟩

/-- The larger counter of both vectors, node by node. -/
def merge (a b : VersionVector) : VersionVector := ⟨a.counters.mergeWith max b.counters⟩

/-- Is `a` at least as large as `b` at every node? -/
def dominates (a b : VersionVector) : Bool :=
  b.counters.entries.all fun e ↦ e.2 ≤ a.get e.1

/-- Does neither vector dominate the other? -/
def concurrentWith (a b : VersionVector) : Bool := !a.dominates b && !b.dominates a

/-- The largest counter, zero when there is none. -/
def maxCounter (v : VersionVector) : UInt64 := v.counters.values.foldl max 0

/-- The number of entries. -/
def size (v : VersionVector) : Nat := v.counters.size

/-- Is there no entry? -/
def isEmpty (v : VersionVector) : Bool := v.counters.isEmpty

/-- The vector as it stands in reports: its entries in the order of their nodes. -/
def render (v : VersionVector) : String :=
  let entries := v.counters.entries.map fun e ↦ e.1 ++ ": " ++ toString e.2
  "\x7b" ++ ", ".intercalate entries ++ "\x7d"

/-! ### Readings after an operation -/

/-- Setting a counter changes the reading of one node. -/
theorem get_set (v : VersionVector) (node other : String) (n : UInt64) :
    (v.set node n).get other = if other = node then n else v.get other := by
  simp only [get, set, KeyMap.get?_insert]
  split <;> rfl

theorem get_increment (v : VersionVector) (node other : String) :
    (v.increment node).get other = if other = node then bump (v.get node) else v.get other :=
  get_set v node other _

/-- A merged vector reads as the larger of the two, node by node. -/
theorem get_merge (a b : VersionVector) (node : String) :
    (a.merge b).get node = max (a.get node) (b.get node) := by
  -- an entry that one of the two lacks reads as zero there, and no counter is smaller
  have hleft : ∀ n : UInt64, max 0 n = n := fun n ↦ if_pos UInt64.zero_le
  have hright : ∀ n : UInt64, max n 0 = n := by
    intro n
    change (if n ≤ 0 then 0 else n) = n
    split
    · next hle => exact UInt64.le_antisymm UInt64.zero_le hle
    · rfl
  simp only [get, merge, KeyMap.get?_mergeWith]
  cases a.counters.get? node <;> cases b.counters.get? node <;>
    simp [KeyMap.combined, hleft, hright]

/-! ### JSON form -/

/-- The JSON form of a vector: its counters by node, in the order of the nodes. -/
def toJson (v : VersionVector) : Json :=
  .obj [("counters", .obj (v.counters.entries.map fun e ↦ (e.1, .word e.2)))]

/-- Reads the counters of a vector; of two for one node the later counts. -/
def countersOfJson? (j : Json) : Option (KeyMap UInt64) := do
  let members ← j.members?
  let counters ← members.mapM fun m ↦ (m.2.uint64?).map fun n ↦ (m.1, n)
  return .ofList counters

/-- Reads a vector. -/
def ofJson? (j : Json) : Option VersionVector := do
  let fields ← j.fields? ["counters"]
  let counters ← fields.required "counters" countersOfJson?
  return ⟨counters⟩

end VersionVector

end SensorCluster
