import Reckoner.Number.Shape
/-!
# Number — shortest decimals

The shortest decimal that reads back as a given double. The reals that
round to a double form an interval around it; on the grid of the decimals
with one significant digit, then two, and so on, the neighbours of the
double are tested, and the first grid that has one inside the interval
gives the answer. Of two the nearer is taken, and of two equally near
the one whose last digit is even. All arithmetic is in whole numbers.
-/

namespace Reckoner

namespace Number

/-- A positive decimal `digits · 10 ^ scale`. -/
structure Decimal where
  digits : Nat
  scale : Int
  deriving DecidableEq, Repr

/-- **The reals that round to a double,** over one denominator: they lie
between `low` and `high`, with `value` the double itself, and the ends
are among them where the interval is closed. -/
structure Interval where
  low : Nat
  value : Nat
  high : Nat
  denominator : Nat
  closed : Bool
  deriving DecidableEq, Repr

/-- The interval of a positive double. The neighbour above is one step
away; the one below is too, but half as far where the significand is the
least of a normal number. A bound halves the way, and belongs to the
double with the even significand. -/
def Interval.around (significand : Nat) (exponent : Int) : Interval :=
  let scale := wholePower 2 (exponent - 2)
  let below := if significand = hiddenBit ∧ leastExponent < exponent then 1 else 2
  { low := (4 * significand - below) * scale
    value := 4 * significand * scale
    high := (4 * significand + 2) * scale
    denominator := wholePower 2 (2 - exponent)
    closed := significand % 2 == 0 }

/-- How many decimal digits a number has; zero has one. -/
def digitCount (n : Nat) : Nat :=
  (Nat.toDigits 10 n).length

/-- The power of ten just above a positive fraction:
`10 ^ (k - 1) ≤ numerator / denominator < 10 ^ k`. -/
def decimalMagnitude (numerator denominator : Nat) : Int :=
  if denominator ≤ numerator then digitCount (numerator / denominator)
  else 1 - (digitCount ((denominator - 1) / numerator) : Int)

/-- Whether `count / denominator` times ten to the scale lies in the
interval. -/
def Interval.holds (i : Interval) (d : Decimal) : Bool :=
  let point := d.digits * wholePower 10 d.scale * i.denominator
  let unit := wholePower 10 (-d.scale)
  if i.closed then i.low * unit ≤ point && point ≤ i.high * unit
  else i.low * unit < point && point < i.high * unit

/-- The decimal of the interval on the grid of the given scale that is
nearest to the value, if the grid has one there. -/
def Interval.onGrid? (i : Interval) (scale : Int) : Option Decimal :=
  let value := i.value * wholePower 10 (-scale)
  let step := wholePower 10 scale * i.denominator
  let below : Decimal := ⟨value / step, scale⟩
  let above : Decimal := ⟨value / step + 1, scale⟩
  let nearer :=
    match compare (2 * (value % step)) step with
    | .lt => below
    | .gt => above
    | .eq => if below.digits % 2 = 0 then below else above
  match i.holds below, i.holds above with
  | true, true => some nearer
  | true, false => some below
  | false, true => some above
  | false, false => none

/-- Tries the grids with ever more digits, `tries` of them, the first of
the given scale. -/
def Interval.search (i : Interval) (scale : Int) : Nat → Option Decimal
  | 0 => none
  | tries + 1 => i.onGrid? scale <|> i.search (scale - 1) tries

/-- All the digits of a double, which is a decimal because a half is. -/
def exact (significand : Nat) (exponent : Int) : Decimal :=
  if 0 ≤ exponent then ⟨significand * wholePower 2 exponent, 0⟩
  else ⟨significand * wholePower 5 (-exponent), exponent⟩

/-- **The shortest decimal that reads back** as the positive double
`significand · 2 ^ exponent`. Seventeen digits tell any two doubles
apart, so the search never comes to the exact digits. -/
def shortest (significand : Nat) (exponent : Int) : Decimal :=
  let i := Interval.around significand exponent
  (i.search (decimalMagnitude i.value i.denominator - 1) 17).getD (exact significand exponent)

end Number

end Reckoner
