import SensorCluster.Json.Reader
import SensorCluster.Record

/-!
# Reading typed values from JSON

The rules by which a JSON value is taken for a value of a type. Texts, truth values and numbers
must be of their kind; a word must be written as a whole number that fits, a float may be any number
in range; `null` is never taken for anything.

**A record may be written in two ways**: as an object, whose members may come in any order, whose
unknown members do not count and of whose known members none may come twice; or as a list of its
fields in order, from which fields at the end may be missing and in which nothing may be left over.
`Json.fields?` brings both to one form, and then each field is looked up by its name, as required
or with a default.
-/

namespace SensorCluster.Json

/-! ### Plain values -/

/-- The value as a text. -/
def text? : Json → Option String
  | .text content => content
  | _ => none

/-- The value as a truth value. -/
def bool? : Json → Option Bool
  | .bool value => some value
  | _ => none

/-- The value as a whole number below `bound`. -/
def below? (bound : Nat) : Json → Option Nat
  | .integer false n => if n < bound then some n else none
  | _ => none

/-- The value as a word of 64 bits. -/
def uint64? (j : Json) : Option UInt64 := (j.below? UInt64.size).map (·.toUInt64)

/-- The value as a word of 16 bits. -/
def uint16? (j : Json) : Option UInt16 := (j.below? UInt16.size).map (·.toUInt16)

/-- The float nearest to a decimal, unless that is an infinity. -/
def finite? (d : Decimal) : Option Float :=
  let x := d.toFloat
  if x.isFinite then some x else none

/-- The value as a float. -/
def float? : Json → Option Float
  | .integer negative n => finite? ⟨negative, n, 0⟩
  | .decimal d => finite? d
  | _ => none

/-- The value as a list. -/
def list? : Json → Option (List Json)
  | .list items => some items
  | _ => none

/-- The value as a list whose items are all read by `read`. -/
def listOf? {α : Type} (read : Json → Option α) (j : Json) : Option (List α) :=
  j.list? >>= fun items ↦ items.mapM read

/-- The name of a constant: a text, or an object whose only member has that name and the value
`null`. -/
def constant? : Json → Option String
  | .text content => content
  | .object [(name, .null)] => name
  | _ => none

/-- The members of an object, if all their names decode. -/
def members? : Json → Option (List (String × Json))
  | .object members => members.mapM fun m ↦ m.1.map fun name ↦ (name, m.2)
  | _ => none

/-! ### Records -/

/-- The fields of the record with these field names. -/
def fields? (names : List String) : Json → Option (Fields Json)
  | .list items => if items.length ≤ names.length then some (names.zip items) else none
  | j =>
    match j.members? with
    | none => none
    | some members =>
      let known := members.filter fun m ↦ names.contains m.1
      if (known.map (·.1)).Nodup then some known else none

/-- How JSON is read. -/
def decoding : Decoding Json := ⟨text?, below?, float?, constant?, list?, fields?⟩

end SensorCluster.Json
