import SensorCluster.Fault
import SensorCluster.Text.Blank
import SensorCluster.Text.Digits

/-!
# Spans of time

A `Duration` is a whole number of seconds and a rest in nanoseconds. `Duration.parse` reads the
written form that operators use, a number directly followed by `ms`, `s`, `m` or `h`;
`Duration.render` writes the form that log lines use, the largest unit that leaves a whole part,
with the rest as a decimal fraction.

**Three things can happen to a written duration**: it is read, it is defective
(`DurationDefect`), or its number of minutes or hours leaves the 64-bit range when it is turned
into seconds, which panics.
-/

namespace SensorCluster

/-- A span of time: seconds, and nanoseconds below one second. -/
structure Duration where
  seconds : UInt64
  nanoseconds : UInt32
  deriving DecidableEq, Repr, Inhabited

namespace Duration

/-- The span of `ms` milliseconds. -/
def ofMillis (ms : UInt64) : Duration :=
  ⟨ms / 1000, (ms % 1000).toUInt32 * 1000000⟩

/-- The span of `s` seconds. -/
def ofSeconds (s : UInt64) : Duration := ⟨s, 0⟩

/-! ### Log form -/

/-- The decimal digits of `n`, at least `width` of them. -/
def paddedDigits (width n : Nat) : List Char :=
  let digits := Nat.toDigits 10 n
  List.replicate (width - digits.length) '0' ++ digits

/-- A decimal fraction of `width` places, without the zeros at its end and without a point when
nothing is left. -/
def fractionText (width n : Nat) : List Char :=
  match ((paddedDigits width n).reverse.dropWhile (· = '0')).reverse with
  | [] => []
  | digits => '.' :: digits

/-- The form of a span in log lines: `5s`, `1.013s`, `200ms`, `0ns`. -/
def render (d : Duration) : String :=
  let ns := d.nanoseconds.toNat
  let text (whole : Nat) (width rest : Nat) (unit : String) : String :=
    toString whole ++ String.ofList (fractionText width rest) ++ unit
  if d.seconds ≠ 0 then text d.seconds.toNat 9 ns "s"
  else if 1000000 ≤ ns then text (ns / 1000000) 6 (ns % 1000000) "ms"
  else if 1000 ≤ ns then text (ns / 1000) 3 (ns % 1000) "µs"
  else text ns 0 0 "ns"

/-! ### Written form -/

/-- The units a written duration can have. -/
inductive TimeUnit
  | milliseconds
  | seconds
  | minutes
  | hours
  deriving DecidableEq, Repr

/-- How a unit is written. -/
def TimeUnit.symbol : TimeUnit → String
  | milliseconds => "ms"
  | seconds => "s"
  | minutes => "m"
  | hours => "h"

/-- The unit written so. -/
def TimeUnit.ofSymbol? (symbol : String) : Option TimeUnit :=
  if symbol = "ms" then some .milliseconds
  else if symbol = "s" then some .seconds
  else if symbol = "m" then some .minutes
  else if symbol = "h" then some .hours
  else none

/-- What is wrong with a written duration. -/
inductive DurationDefect
  /-- Nothing is written. -/
  | empty
  /-- The text ends after its number. -/
  | missingUnit (text : String)
  /-- The text does not begin with a number of 64 bits. -/
  | badNumber (text : String)
  /-- What follows the number is no unit. -/
  | unknownUnit (symbol : String)
  deriving DecidableEq, Repr

/-- The wording of a defect. -/
def DurationDefect.message : DurationDefect → String
  | empty => "empty duration"
  | missingUnit text => "missing duration unit: " ++ text
  | badNumber text => "invalid duration: " ++ text
  | unknownUnit symbol => "unknown duration unit: " ++ symbol

/-- The 64-bit number that a list of ASCII digits writes; none for no digits or for a larger
number. -/
def numeral? (digits : List Char) : Option UInt64 :=
  let n := Text.numeral digits
  if digits ≠ [] ∧ n < UInt64.size then some n.toUInt64 else none

/-- So many minutes, or hours, in seconds. -/
def scaled (n factor : UInt64) : Except Fault Duration :=
  if n.toNat * factor.toNat < UInt64.size then .ok (ofSeconds (n * factor))
  else .error .multiplicationOverflow

/-- The span of `n` units. -/
def ofUnits (n : UInt64) : TimeUnit → Except Fault Duration
  | .milliseconds => .ok (ofMillis n)
  | .seconds => .ok (ofSeconds n)
  | .minutes => scaled n 60
  | .hours => scaled n 3600

/-- The answer to a defective duration. -/
def reject (defect : DurationDefect) : Except Fault Duration :=
  .error (.refused (.invalidConfig defect.message))

/-- Reads a written duration; blank characters around it do not count. -/
def parse (text : String) : Except Fault Duration :=
  let cs := Text.trim text.toList
  if cs = [] then reject .empty
  else
    let digits := cs.takeWhile Text.isDigit
    let symbol := cs.dropWhile Text.isDigit
    if symbol = [] then reject (.missingUnit (String.ofList cs))
    else match numeral? digits with
      | none => reject (.badNumber (String.ofList cs))
      | some n =>
        match TimeUnit.ofSymbol? (String.ofList symbol) with
        | none => reject (.unknownUnit (String.ofList symbol))
        | some unit => ofUnits n unit

end Duration

end SensorCluster
