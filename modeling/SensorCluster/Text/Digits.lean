/-!
# Digits

The characters that numbers are written with, and what a list of them stands for. Only the ASCII
digits and letters are digits.
-/

namespace SensorCluster.Text

/-- Is the character one of the ten ASCII digits? -/
def isDigit (c : Char) : Bool := '0' ≤ c && c ≤ '9'

/-- The number that a list of decimal digits writes. -/
def numeral (digits : List Char) : Nat :=
  digits.foldl (fun n c ↦ 10 * n + (c.toNat - '0'.toNat)) 0

/-- Takes the sign off a number, if it has one; the answer says whether it is a minus. -/
def splitSign : List Char → Bool × List Char
  | '-' :: rest => (true, rest)
  | '+' :: rest => (false, rest)
  | cs => (false, cs)

/-- Does the number fit into 64 bits, one of them for its sign? -/
def fitsInt64 (n : Int) : Bool := Int64.minValue.toInt ≤ n && n ≤ Int64.maxValue.toInt

/-- The value of a hexadecimal digit, in either case. -/
def hexValue? (c : Char) : Option Nat :=
  if '0' ≤ c ∧ c ≤ '9' then some (c.toNat - '0'.toNat)
  else if 'a' ≤ c ∧ c ≤ 'f' then some (c.toNat - 'a'.toNat + 10)
  else if 'A' ≤ c ∧ c ≤ 'F' then some (c.toNat - 'A'.toNat + 10)
  else none

/-- The number that a list of digits writes in a base up to sixteen; none when one of them is no
digit of that base. -/
def numeralIn? (base : Nat) (digits : List Char) : Option Nat :=
  (digits.mapM fun c ↦ (hexValue? c).filter (· < base)).map fun values ↦
    values.foldl (fun n d ↦ base * n + d) 0

end SensorCluster.Text
