/-!
# Number — the shape of a double

A double is taken apart into what its bits say: not a number, an
infinity, or a finite number given by sign, significand and exponent.
Zero, sign, integrality and parity are read off the shape, so that what
the program decides about a number it decides in whole numbers.
-/

namespace Reckoner

namespace Number

/-- What the bits of a double say. A finite one is
`± significand · 2 ^ exponent`. -/
inductive Shape where
  | nan
  | infinite (negative : Bool)
  | finite (negative : Bool) (significand : Nat) (exponent : Int)
  deriving DecidableEq, Repr

/-- The least exponent, which the subnormal numbers have. -/
def leastExponent : Int := -1074

/-- The bit of the significand that a normal number has and does not
store; the stored ones are below it. -/
def hiddenBit : Nat := Nat.pow 2 52

/-- A power where the exponent is not negative, and else one, so that
`base ^ exponent` is the quotient of `wholePower base exponent` and
`wholePower base (-exponent)`. -/
def wholePower (base : Nat) (exponent : Int) : Nat :=
  Nat.pow base exponent.toNat

/-- **The shape of a double.** Its top bit is the sign; eleven bits hold
the exponent, all of them set for an infinity or no number, none for a
subnormal; the rest is the significand, of which a normal number has one
bit more than is stored. -/
def shape (x : Float) : Shape :=
  let bits := x.toBits.toNat
  let negative := decide (2048 * hiddenBit ≤ bits)
  let biased : Nat := bits / hiddenBit % 2048
  let stored : Nat := bits % hiddenBit
  if biased = 2047 then
    if stored = 0 then .infinite negative else .nan
  else if biased = 0 then .finite negative stored leastExponent
  else .finite negative (hiddenBit + stored) ((biased : Int) - 1075)

/-- Whether a shape is that of a finite number. -/
def Shape.isFinite : Shape → Bool
  | .finite .. => true
  | _ => false

/-- Zero, of either sign. -/
def Shape.isZero : Shape → Bool
  | .finite _ 0 _ => true
  | _ => false

/-- Less than zero, which neither a zero nor what is no number is. -/
def Shape.isNegative : Shape → Bool
  | .nan => false
  | .infinite negative => negative
  | .finite negative significand _ => negative && significand != 0

/-- A finite number without a fractional part. -/
def Shape.isWhole : Shape → Bool
  | .finite _ significand exponent => significand % wholePower 2 (-exponent) == 0
  | _ => false

/-- An odd whole number. -/
def Shape.isOdd : Shape → Bool
  | .finite negative significand exponent =>
    (Shape.finite negative significand exponent).isWhole && exponent ≤ 0 &&
      significand / wholePower 2 (-exponent) % 2 == 1
  | _ => false

/-- The whole number a shape stands for, where it stands for one. -/
def Shape.whole? : Shape → Option Int
  | .finite negative significand exponent =>
    if (Shape.finite negative significand exponent).isWhole then
      let magnitude := significand * wholePower 2 exponent / wholePower 2 (-exponent)
      some (if negative then -magnitude else magnitude)
    else none
  | _ => none

/-- Positive or negative infinity. -/
def infinity (negative : Bool) : Float :=
  Float.ofBits (if negative then 0xFFF0000000000000 else 0x7FF0000000000000)

/-- The quiet number that is none. -/
def notANumber : Float :=
  Float.ofBits 0x7FF8000000000000

end Number

end Reckoner
