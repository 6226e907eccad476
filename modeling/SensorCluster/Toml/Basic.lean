import SensorCluster.Duration

/-!
# TOML values

What a TOML document says: texts, whole numbers of 64 bits, floats, truth values, moments, lists and
tables. A `Moment` is a date, a time of day or both, perhaps with an offset; `Moment.render` writes
it in its canonical form.
-/

namespace SensorCluster

namespace Toml

/-- A day of the calendar. -/
structure Date where
  year : Nat
  month : Nat
  day : Nat
  deriving DecidableEq, Repr

/-- A time of day, as far as it is written. -/
structure TimeOfDay where
  hour : Nat
  minute : Nat
  second : Option Nat
  nanosecond : Option Nat
  deriving DecidableEq, Repr

/-- The distance of a local time from universal time. -/
inductive Offset
  /-- None at all. -/
  | zulu
  /-- So many minutes, to the east if positive. -/
  | minutes (count : Int)
  deriving DecidableEq, Repr

/-- A date, a time of day, or both. -/
structure Moment where
  date : Option Date
  time : Option TimeOfDay
  offset : Option Offset
  deriving DecidableEq, Repr

/-- Is the year a leap year? -/
def isLeapYear (year : Nat) : Bool := year % 4 = 0 && (year % 100 ≠ 0 || year % 400 = 0)

/-- The number of days of a month. -/
def daysIn (year month : Nat) : Nat :=
  if month = 2 then if isLeapYear year then 29 else 28
  else if month = 4 ∨ month = 6 ∨ month = 9 ∨ month = 11 then 30
  else 31

/-- Is the day in the calendar? -/
def Date.isValid (d : Date) : Bool :=
  1 ≤ d.month && d.month ≤ 12 && 1 ≤ d.day && d.day ≤ daysIn d.year d.month

/-- Is the time on the clock? A minute may have a leap second. -/
def TimeOfDay.isValid (t : TimeOfDay) : Bool :=
  t.hour ≤ 23 && t.minute ≤ 59 && t.second.getD 0 ≤ 60

/-- The digits of `n`, at least `width` of them. -/
def padded (width n : Nat) : String := String.ofList (Duration.paddedDigits width n)

/-- The canonical form of a day. -/
def Date.render (d : Date) : String :=
  padded 4 d.year ++ "-" ++ padded 2 d.month ++ "-" ++ padded 2 d.day

/-- The canonical form of a fraction of a second: without the zeros at its end, but not without any
digit. -/
def fractionText (nanosecond : Nat) : String :=
  match Duration.fractionText 9 nanosecond with
  | [] => ".0"
  | fraction => String.ofList fraction

/-- The canonical form of a time of day. -/
def TimeOfDay.render (t : TimeOfDay) : String :=
  let second := (t.second.map fun s ↦ ":" ++ padded 2 s).getD ""
  let fraction := (t.nanosecond.map fractionText).getD ""
  padded 2 t.hour ++ ":" ++ padded 2 t.minute ++ second ++ fraction

/-- The canonical form of an offset. -/
def Offset.render : Offset → String
  | zulu => "Z"
  | minutes count =>
    (if count < 0 then "-" else "+") ++ padded 2 (count.natAbs / 60) ++ ":" ++
      padded 2 (count.natAbs % 60)

/-- The canonical form of a moment. -/
def Moment.render (m : Moment) : String :=
  let date := (m.date.map Date.render).getD ""
  let time := (m.time.map TimeOfDay.render).getD ""
  let offset := (m.offset.map Offset.render).getD ""
  date ++ (if m.date.isSome && m.time.isSome then "T" else "") ++ time ++ offset

end Toml

/-- A TOML value. -/
inductive Toml
  | text (content : String)
  | integer (value : Int)
  | float (value : Float)
  | bool (value : Bool)
  | moment (value : Toml.Moment)
  | list (items : List Toml)
  | table (members : List (String × Toml))
  deriving Inhabited

end SensorCluster
