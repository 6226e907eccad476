import SensorCluster.Decimal.Binary

/-!
# The shortest decimal of a float

`Decimal.ofFloat?` gives, of the decimals that round to a float, **one with the fewest digits, and
of those the nearest**; where two are equally near, a `Tie` decides. The numbers that round to a
float form an interval around it, whose ends belong to it when the mantissa is even. On the grid of
the decimals with `n` digits only the two neighbours of the value can be nearest, so the search
looks at these for one digit, two digits and so on; seventeen are always enough. All comparisons are
of whole numbers.

`Decimal.Style` says which of two equally near decimals is taken, and how digits and a power of ten
are laid out as text.
-/

namespace SensorCluster

namespace Decimal

/-- The interval of the numbers that round to a float, in quarters of the unit of its mantissa:
the float itself, its two ends, and whether the ends belong to it. -/
structure Interval where
  value : Nat
  low : Nat
  high : Nat
  closed : Bool
  /-- The power of two of one quarter. -/
  exponent : Int

/-- The interval around a positive dyadic number. Below a power of two the neighbouring float is
only half as far away. -/
def interval (d : Dyadic) : Interval :=
  let m := d.mantissa
  ⟨4 * m, if m = Nat.pow 2 52 ∧ -1074 < d.exponent then 4 * m - 1 else 4 * m - 2, 4 * m + 2,
    m % 2 = 0, d.exponent - 2⟩

/-- The power of ten that the first digit of `value * 2 ^ exponent` counts. -/
def leadingExponent (value : Nat) (exponent : Int) : Int :=
  let scaled := value * Nat.pow 2 exponent.toNat * Nat.pow 10 340 / Nat.pow 2 (-exponent).toNat
  ((Nat.toDigits 10 scaled).length : Int) - 341

/-- Which of two neighbouring whole numbers stands for what lies in the middle between them. -/
inductive Tie
  /-- The even one. -/
  | toEven
  /-- The greater one. -/
  | up
  deriving DecidableEq, Repr

/-- Does what lies in the middle between a whole number and the next one go down? -/
def Tie.goesDown (below : Nat) : Tie → Bool
  | toEven => below % 2 = 0
  | up => false

/-- Of the two neighbours of an interval's value on the grid of the multiples of `10 ^ power`, the
nearest that is inside the interval. -/
def neighbour? (tie : Tie) (i : Interval) (power : Int) : Option Nat :=
  let up := Nat.pow 2 i.exponent.toNat * Nat.pow 10 (-power).toNat
  let down := Nat.pow 2 (-i.exponent).toNat * Nat.pow 10 power.toNat
  let below := i.value * up / down
  let inside (n : Nat) : Bool :=
    if i.closed then i.low * up ≤ n * down && n * down ≤ i.high * up
    else i.low * up < n * down && n * down < i.high * up
  let toBelow := i.value * up - below * down
  let toAbove := (below + 1) * down - i.value * up
  let belowFirst := toBelow < toAbove || (toBelow = toAbove && tie.goesDown below)
  let candidates := if belowFirst then [below, below + 1] else [below + 1, below]
  candidates.find? fun n ↦ n ≠ 0 && inside n

/-- Drops the zeros at the end of a coefficient; `fuel` bounds their number. -/
def stripZeros : Nat → Nat → Int → Nat × Int
  | 0, n, e => (n, e)
  | fuel + 1, n, e => if n % 10 = 0 ∧ n ≠ 0 then stripZeros fuel (n / 10) (e + 1) else (n, e)

/-- The coefficient and the power of ten of the shortest decimal in an interval. -/
def shortest (tie : Tie) (i : Interval) : Nat × Int :=
  let lead := leadingExponent i.value i.exponent
  let attempt (count : Nat) : Option (Nat × Int) :=
    let power := lead - (count : Int) + 1
    (neighbour? tie i power).map fun n ↦ stripZeros 20 n power
  ((List.range' 1 17).findSome? attempt).getD (0, 0)

/-- The shortest decimal of a finite float. -/
def ofFloat? (tie : Tie) (x : Float) : Option Decimal :=
  (Dyadic.ofFloat? x).map fun d ↦
    if d.mantissa = 0 then ⟨d.negative, 0, 0⟩
    else
      let (coefficient, exponent) := shortest tie (interval d)
      ⟨d.negative, coefficient, exponent⟩

/-! ### Layout -/

/-- How a number is written as a decimal. -/
structure Style where
  /-- Which of the two shortest decimals that are equally near to a float is taken. -/
  tie : Tie
  /-- Is a number whose first digit counts this power of ten written without a power of ten? -/
  plain : Int → Bool
  /-- Does a whole number written plainly end in `.0`? -/
  pointZero : Bool

/-- The text of a decimal in a style. -/
def render (style : Style) (d : Decimal) : String :=
  let ds := d.digits
  let lead := d.leading
  let body : List Char :=
    if style.plain lead then
      if 0 ≤ d.exponent then
        ds ++ List.replicate d.exponent.toNat '0' ++ (if style.pointZero then ['.', '0'] else [])
      else if 0 ≤ lead then
        ds.take (lead.toNat + 1) ++ '.' :: ds.drop (lead.toNat + 1)
      else '0' :: '.' :: List.replicate ((-lead).toNat - 1) '0' ++ ds
    else
      let fraction := match ds.drop 1 with
        | [] => []
        | rest => '.' :: rest
      let sign := if lead < 0 then '-' else '+'
      ds.take 1 ++ fraction ++ 'e' :: sign :: Nat.toDigits 10 lead.natAbs
  String.ofList (if d.negative then '-' :: body else body)

/-- Whole numbers have no fraction and no number has a power of ten; of two equally near decimals
the one farther from zero is taken. -/
def Style.everyday : Style := ⟨.up, fun _ ↦ true, false⟩

/-- The text of a float without a power of ten: `1.5`, `3`, `-0`, `NaN`, `inf`. -/
def everydayText (x : Float) : String :=
  match ofFloat? Style.everyday.tie x with
  | some d => render .everyday d
  | none => if x.isNaN then "NaN" else if x < 0 then "-inf" else "inf"

/-! ### A fixed number of places -/

/-- The whole number nearest to `numerator / denominator`. -/
def roundQuotient (tie : Tie) (numerator denominator : Nat) : Nat :=
  let whole := numerator / denominator
  let rest := 2 * (numerator % denominator)
  if rest < denominator ∨ (rest = denominator ∧ tie.goesDown whole) then whole else whole + 1

/-- The text of a float with one decimal place, rounded from its exact value; what lies in the
middle goes to the even place. -/
def onePlaceText (x : Float) : String :=
  match Dyadic.ofFloat? x with
  | none => everydayText x
  | some d =>
    let tenths := roundQuotient .toEven (10 * d.mantissa * Nat.pow 2 d.exponent.toNat)
      (Nat.pow 2 (-d.exponent).toNat)
    let sign := if d.negative then "-" else ""
    s!"{sign}{tenths / 10}.{tenths % 10}"

end Decimal

end SensorCluster
