import SensorCluster.Decimal.Binary
import SensorCluster.Text.Digits
import SensorCluster.Toml.Basic

/-!
# TOML values without quotes

A value that stands without quotes and brackets is one word: a truth value, a number or a moment.
`Toml.ofWord?` reads a whole word or nothing, so the kinds need no order among them: a word is of
one kind at most.
-/

namespace SensorCluster.Toml

/-- The digits of a number whose digits may be grouped by single underscores between them. -/
def ungroup? (isDigit : Char → Bool) : List Char → Option (List Char)
  | [] => none
  | [c] => if isDigit c then some [c] else none
  | c :: '_' :: rest => if isDigit c then (ungroup? isDigit rest).map (c :: ·) else none
  | c :: rest => if isDigit c then (ungroup? isDigit rest).map (c :: ·) else none

/-! ### Whole numbers -/

/-- The digits of a decimal whole number, which has no zero in front of others. -/
def wholeDigits? (cs : List Char) : Option (List Char) :=
  match ungroup? Text.isDigit cs with
  | some ('0' :: _ :: _) => none
  | digits => digits

/-- The number written in a base other than ten. -/
def inBase? (base : Nat) (cs : List Char) : Option Int := do
  let digits ← ungroup? (fun c ↦ (Text.hexValue? c).isSome) cs
  let n ← Text.numeralIn? base digits
  return n

/-- The number that a word writes, of any size. -/
def unboundedInteger? : List Char → Option Int
  | '0' :: 'x' :: rest => inBase? 16 rest
  | '0' :: 'o' :: rest => inBase? 8 rest
  | '0' :: 'b' :: rest => inBase? 2 rest
  | cs =>
    let (negative, cs) := Text.splitSign cs
    (wholeDigits? cs).map fun digits ↦
      if negative then -(Text.numeral digits : Int) else Text.numeral digits

/-- The whole number that a word writes. -/
def integer? (cs : List Char) : Option Int := (unboundedInteger? cs).filter (Text.fitsInt64 ·)

/-! ### Floats -/

/-- Can the character be part of a number's digits? -/
def isGrouped (c : Char) : Bool := Text.isDigit c || c = '_'

/-- The digits of a fraction, if there is one, and the rest. -/
def fraction? : List Char → Option (Option (List Char) × List Char)
  | '.' :: rest =>
    (ungroup? Text.isDigit (rest.takeWhile isGrouped)).map fun digits ↦
      (some digits, rest.dropWhile isGrouped)
  | cs => some (none, cs)

/-- The power of ten at the end of a number, if there is one. -/
def power? : List Char → Option (Option Int)
  | [] => some none
  | c :: rest =>
    if c = 'e' ∨ c = 'E' then
      let (negative, rest) := Text.splitSign rest
      (ungroup? Text.isDigit rest).map fun digits ↦
        let n : Int := Text.numeral digits
        some (if negative then -n else n)
    else none

/-- The decimal that a word writes with a fraction or a power of ten. -/
def decimal? (negative : Bool) (cs : List Char) : Option Decimal := do
  let whole ← wholeDigits? (cs.takeWhile isGrouped)
  let (fraction, rest) ← fraction? (cs.dropWhile isGrouped)
  let power ← power? rest
  if fraction.isNone && power.isNone then none
  else
    let places := fraction.getD []
    return ⟨negative, Text.numeral (whole ++ places), power.getD 0 - places.length⟩

/-- The float that a word writes. One that is too large for a float is not written so. -/
def float? (cs : List Char) : Option Float :=
  let (negative, cs) := Text.splitSign cs
  if cs = ['i', 'n', 'f'] then some (if negative then -(1.0 / 0.0) else 1.0 / 0.0)
  else if cs = ['n', 'a', 'n'] then some (0.0 / 0.0)
  else ((decimal? negative cs).map Decimal.toFloat).filter (·.isFinite)

/-! ### Moments -/

/-- The number that exactly these digits write. -/
def digits? (cs : List Char) : Option Nat := Text.numeralIn? 10 cs

/-- Reads a day. -/
def readDate? : List Char → Option (Date × List Char)
  | a :: b :: c :: d :: '-' :: e :: f :: '-' :: g :: h :: rest => do
    let date : Date := ⟨← digits? [a, b, c, d], ← digits? [e, f], ← digits? [g, h]⟩
    if date.isValid then some (date, rest) else none
  | _ => none

/-- Reads a fraction of a second, if there is one; places after the ninth do not count. -/
def readNanosecond? : List Char → Option (Option Nat × List Char)
  | '.' :: rest =>
    match rest.takeWhile Text.isDigit with
    | [] => none
    | digits =>
      let places := digits.take 9
      let nanosecond := Text.numeral places * Nat.pow 10 (9 - places.length)
      some (some nanosecond, rest.dropWhile Text.isDigit)
  | cs => some (none, cs)

/-- Reads a time of day; its seconds may be missing. -/
def readTime? : List Char → Option (TimeOfDay × List Char)
  | a :: b :: ':' :: c :: d :: rest => do
    let hour ← digits? [a, b]
    let minute ← digits? [c, d]
    let (second, nanosecond, rest) ← match rest with
      | ':' :: e :: f :: rest => do
        let second ← digits? [e, f]
        let (nanosecond, rest) ← readNanosecond? rest
        pure (some second, nanosecond, rest)
      | rest => pure (none, none, rest)
    let time : TimeOfDay := ⟨hour, minute, second, nanosecond⟩
    if time.isValid then some (time, rest) else none
  | _ => none

/-- The offset at the end of a moment, if there is one. -/
def offset? : List Char → Option (Option Offset)
  | [] => some none
  | ['Z'] | ['z'] => some (some .zulu)
  | [sign, a, b, ':', c, d] => do
    let hours ← digits? [a, b]
    let minutes ← digits? [c, d]
    let count : Int := (60 * hours + minutes : Nat)
    if 23 < hours ∨ 59 < minutes then none
    else if sign = '+' then some (some (.minutes count))
    else if sign = '-' then some (some (.minutes (-count)))
    else none
  | _ => none

/-- Does the character separate the day from the time? -/
def separatesTime (c : Char) : Bool := c = 'T' || c = 't' || c = ' '

/-- The moment that a word writes. -/
def moment? (cs : List Char) : Option Moment :=
  match readDate? cs with
  | some (date, []) => some ⟨some date, none, none⟩
  | some (date, c :: rest) =>
    if separatesTime c then do
      let (time, rest) ← readTime? rest
      let offset ← offset? rest
      return ⟨some date, some time, offset⟩
    else none
  | none =>
    match readTime? cs with
    | some (time, []) => some ⟨none, some time, none⟩
    | _ => none

/-- The value that a word without quotes writes. -/
def ofWord? (cs : List Char) : Option Toml :=
  if cs = ['t', 'r', 'u', 'e'] then some (.bool true)
  else if cs = ['f', 'a', 'l', 's', 'e'] then some (.bool false)
  else (integer? cs).map .integer <|> (float? cs).map .float <|> (moment? cs).map .moment

end SensorCluster.Toml
