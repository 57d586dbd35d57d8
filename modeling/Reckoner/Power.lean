import Reckoner.Fault
/-!
# Powers

Raising one double to the power of another. Among finite numbers a power
can be undefined: zero to a negative exponent, and a negative base to an
exponent that is not whole. And it can lie beyond the range, where it
becomes an infinity with the sign of the true power, as a product beyond
the range does.
-/

namespace Reckoner

/-- What a power of doubles comes to. -/
inductive Power where
  /-- The double nearest to it. -/
  | value (r : Float)
  /-- There is no real power. -/
  | undefined
  /-- The power of two finite numbers lies beyond the range. -/
  | overflow

namespace Power

/-- **The power of doubles.** Operands that are not finite have the value
that the limits give them. -/
def of (base exponent : Float) : Power :=
  let a := Number.shape base
  let b := Number.shape exponent
  if a.isFinite && b.isFinite then
    if a.isZero && b.isNegative || a.isNegative && !b.isWhole then undefined
    else
      let r := Float.pow base exponent
      match Number.shape r with
      | .infinite _ => overflow
      | _ => value r
  else value (Float.pow base exponent)

/-- Raises to a power, given how powers of doubles come out. A power
beyond the range is negative where the base is and the exponent is odd. -/
def raiseWith (power : Float → Float → Power) (base exponent : Float) : Except Fault Float :=
  let a := Number.shape base
  let b := Number.shape exponent
  if a.isZero && b.isNegative then .error .zeroToNegativePower
  else
    match power base exponent with
    | value r => .ok r
    | undefined => .error (.negativeToFractionalPower base exponent)
    | overflow => .ok (Number.infinity (a.isNegative && b.isOdd))

/-- **Raises to a power.** -/
def raise (base exponent : Float) : Except Fault Float :=
  raiseWith of base exponent

end Power

end Reckoner
