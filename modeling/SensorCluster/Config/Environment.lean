import SensorCluster.Config.Settings
import SensorCluster.Decimal.Binary

/-!
# Settings from the environment

A variable whose name begins with `SENSORKV_`, in any case, gives the setting named by the rest of
its name in lower case. Two underscores in it separate keys, so the name of a setting within a
section is written with two underscores between section and key.

The text of a variable is taken for a truth value, a whole number or a float if it reads as one.
-/

namespace SensorCluster

namespace Environment

/-- The letter in lower case, if its lower case is an ASCII letter. -/
def lowerChar (c : Char) : Char := if c = '\u212a' then 'k' else c.toLower

/-- The text in lower case, as far as ASCII letters go. -/
def lower (s : String) : List Char := s.toList.map lowerChar

/-- What the names of settings begin with. -/
def leader : List Char := "sensorkv_".toList

/-- Two underscores separate keys, as a point does in a path. -/
def separate : List Char → List Char
  | '_' :: '_' :: rest => '.' :: separate rest
  | c :: rest => c :: separate rest
  | [] => []

/-- The name of the setting that a variable gives, if it gives one. -/
def settingName? (name : String) : Option String :=
  let cs := lower name
  if leader.isPrefixOf cs then
    some (String.ofList (separate (cs.drop leader.length)))
  else none

/-! ### Values -/

/-- The number that a sign, if there is one, and digits write. -/
def integer? (cs : List Char) : Option Int :=
  let (negative, digits) := Text.splitSign cs
  if digits ≠ [] ∧ digits.all Text.isDigit then
    let n : Int := Text.numeral digits
    some (if negative then -n else n)
  else none

/-- The power of ten at the end of a number, if there is one. -/
def power? : List Char → Option Int
  | [] => some 0
  | c :: rest => if c = 'e' ∨ c = 'E' then integer? rest else none

/-- The decimal that digits with at most one point, and perhaps a power of ten, write. -/
def decimal? (negative : Bool) (cs : List Char) : Option Decimal :=
  let whole := cs.takeWhile Text.isDigit
  let (places, rest) := match cs.dropWhile Text.isDigit with
    | '.' :: rest => (rest.takeWhile Text.isDigit, rest.dropWhile Text.isDigit)
    | rest => ([], rest)
  if whole = [] ∧ places = [] then none
  else (power? rest).map fun n ↦ ⟨negative, Text.numeral (whole ++ places), n - places.length⟩

/-- The float that a text writes; one that is too large is an infinity. -/
def float? (s : String) : Option Float :=
  let (negative, cs) := Text.splitSign s.toList
  let signed (x : Float) : Float := if negative then -x else x
  let word := String.ofList (cs.map Char.toLower)
  if word = "inf" ∨ word = "infinity" then some (signed (1.0 / 0.0))
  else if word = "nan" then some (0.0 / 0.0)
  else (decimal? negative cs).map Decimal.toFloat

/-- The setting that the text of a variable is: a truth value, a whole number, a float, or else the
text itself. -/
def value (s : String) : Setting :=
  let word := String.ofList (lower s)
  if word = "true" then .bool true
  else if word = "false" then .bool false
  else match (integer? s.toList).filter (Text.fitsInt64 ·) with
    | some n => .integer n
    | none =>
      match float? s with
      | some x => .float x
      | none => .text s

/-- The settings that an environment gives, by name. -/
def settings (environment : List (String × String)) : List (String × Setting) :=
  environment.filterMap fun (name, content) ↦
    (settingName? name).map fun name ↦ (name, value content)

end Environment

end SensorCluster
