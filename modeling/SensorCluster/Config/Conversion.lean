import SensorCluster.Config.Environment
import SensorCluster.Decimal.Shortest
import SensorCluster.Record

/-!
# Reading typed values from settings

The rules by which a setting is taken for a value of a type. They are generous, because a variable
of the environment has no type of its own: a truth value counts as one or zero, a float is rounded
to the nearest whole number and kept within 64 bits, a text is read as a number or as a word for a
truth value, and a number is written where a text is wanted. Lists and tables are not converted; a
record may be written as a list of its fields in order.
-/

namespace SensorCluster

namespace Setting

/-- The truth value that a word in any case says. -/
def spoken? (s : String) : Option Bool :=
  let word := String.ofList (Environment.lower s)
  if word = "true" ∨ word = "on" ∨ word = "yes" then some true
  else if word = "false" ∨ word = "off" ∨ word = "no" then some false
  else none

/-- The whole number nearest to a float, a half going up; none below zero, and 64 bits at most. -/
def nearestWord (x : Float) : Nat :=
  match Dyadic.ofFloat? x with
  | none => if 0 < x then UInt64.size - 1 else 0
  | some d =>
    if d.negative then 0
    else
      let numerator := d.mantissa * Nat.pow 2 d.exponent.toNat
      let denominator := Nat.pow 2 (-d.exponent).toNat
      min ((2 * numerator + denominator) / (2 * denominator)) (UInt64.size - 1)

/-- The 64-bit number that a text writes. -/
def word? (s : String) : Option Nat :=
  match s.toList with
  | '-' :: _ => none
  | cs => (Environment.integer? cs).bind fun n ↦
      if n < UInt64.size then some n.toNat else none

/-- The setting as a 64-bit number. -/
def asWord? : Setting → Option Nat
  | bool value => some value.toNat
  | integer value => if 0 ≤ value then some value.toNat else none
  | float value => some (nearestWord value)
  | text content => (spoken? content).map Bool.toNat <|> word? content
  | _ => none

/-- The setting as a whole number below a bound. -/
def below? (bound : Nat) (s : Setting) : Option Nat := s.asWord?.filter (· < bound)

/-- The setting as a float. -/
def float? : Setting → Option Float
  | bool value => some (if value then 1.0 else 0.0)
  | integer value => some (Decimal.toFloat ⟨value < 0, value.natAbs, 0⟩)
  | float value => some value
  | text content =>
    (spoken? content).map (fun value ↦ if value then 1.0 else 0.0) <|> Environment.float? content
  | _ => none

/-- The setting as a text. -/
def text? : Setting → Option String
  | bool value => some (toString value)
  | integer value => some (toString value)
  | float value => some (Decimal.everydayText value)
  | text content => some content
  | _ => none

/-- The setting as a list. -/
def list? : Setting → Option (List Setting)
  | list items => some items
  | _ => none

/-- The setting as the name of a constant: a text, or the key of a table with no other. -/
def constant? : Setting → Option String
  | text content => some content
  | table [(key, _)] => some key
  | _ => none

/-- The setting as a record: a table, or a list of the fields in order. Items of a list beyond the
fields do not count. -/
def fields? (names : List String) : Setting → Option (Fields Setting)
  | list items => some (names.zip items)
  | table members => some members
  | _ => none

/-- How settings are read. -/
def decoding : Decoding Setting := ⟨text?, below?, float?, constant?, list?, fields?⟩

end Setting

end SensorCluster
