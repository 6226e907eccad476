/-!
# The exact value of a binary float

A finite 64-bit float is a signed whole number times a power of two. `Dyadic.ofFloat?` takes that
apart, and `Decimal.toFloat` goes the other way for a decimal, to the nearest float.
-/

namespace SensorCluster

/-- The number `mantissa * 2 ^ exponent`, with a sign that also zero can have. -/
structure Dyadic where
  negative : Bool
  mantissa : Nat
  exponent : Int
  deriving DecidableEq, Repr

/-- The exact value of a finite float; none for an infinity and for what is no number. -/
def Dyadic.ofFloat? (x : Float) : Option Dyadic :=
  let bits := x.toBits.toNat
  let negative := Nat.pow 2 63 ≤ bits
  let field : Nat := bits / Nat.pow 2 52 % Nat.pow 2 11
  let fraction : Nat := bits % Nat.pow 2 52
  if field = 2047 then none
  else if field = 0 then some ⟨negative, fraction, -1074⟩
  else some ⟨negative, Nat.pow 2 52 + fraction, (field : Int) - 1075⟩

/-- The number `coefficient * 10 ^ exponent`, with a sign that also zero can have. -/
structure Decimal where
  negative : Bool
  coefficient : Nat
  exponent : Int
  deriving DecidableEq, Repr, Inhabited

namespace Decimal

/-- The digits of the coefficient. -/
def digits (d : Decimal) : List Char := Nat.toDigits 10 d.coefficient

/-- The power of ten that the first digit counts. -/
def leading (d : Decimal) : Int := d.exponent + (d.digits.length : Int) - 1

/-- The float nearest to a decimal. Far above the largest float that is an infinity and far below
the smallest one a zero, so the power of ten that is computed stays small. -/
def toFloat (d : Decimal) : Float :=
  let magnitude : Float :=
    if d.coefficient = 0 ∨ d.leading < -400 then 0.0
    else if 400 < d.leading then Float.ofBits 0x7ff0000000000000
    else if d.exponent < 0 then Float.ofScientific d.coefficient true d.exponent.natAbs
    else Float.ofScientific d.coefficient false d.exponent.natAbs
  if d.negative then -magnitude else magnitude

end Decimal

end SensorCluster
