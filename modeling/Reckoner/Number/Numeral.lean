import Reckoner.Number.Shortest
/-!
# Number — numerals

Reading decimal numerals. A numeral is digits with at most one point,
at least one digit beside it, and perhaps an exponent; its value is the
double nearest to what it denotes. Which exponents are let through is a
parameter: literals of an expression have unsigned ones, since there a
sign is an operator.
-/

namespace Reckoner

namespace Number

/-- The number a run of decimal digits denotes. -/
def ofDigits (cs : List Char) : Nat :=
  cs.foldl (fun n c => 10 * n + (c.toNat - '0'.toNat)) 0

/-- A run of digits, at least one. -/
def isDigits (cs : List Char) : Bool :=
  !cs.isEmpty && cs.all Char.isDigit

/-- **The double nearest to a decimal,** ties to even; beyond the range
infinity, and zero below it. A decimal of ten to the 310th or more is
beyond the range and one below ten to the minus 330th rounds to zero, so
no such power is ever computed. -/
def Decimal.toFloat (d : Decimal) : Float :=
  let magnitude := digitCount d.digits + d.scale
  if d.digits = 0 || magnitude < -330 then 0
  else if 310 < magnitude then infinity false
  else Float.ofScientific d.digits (d.scale < 0) d.scale.natAbs

/-- The digits before and after the point, and what follows them. -/
def splitMantissa? (cs : List Char) : Option (List Char × List Char × List Char) :=
  let whole := cs.takeWhile Char.isDigit
  match cs.dropWhile Char.isDigit with
  | '.' :: rest =>
    let fraction := rest.takeWhile Char.isDigit
    if whole.isEmpty && fraction.isEmpty then none
    else some (whole, fraction, rest.dropWhile Char.isDigit)
  | rest => if whole.isEmpty then none else some (whole, [], rest)

/-- An unsigned exponent. -/
def unsignedExponent? (cs : List Char) : Option Int :=
  if isDigits cs then some (ofDigits cs) else none

/-- An exponent with or without a sign. -/
def signedExponent? : List Char → Option Int
  | '-' :: cs => (unsignedExponent? cs).map (-·)
  | '+' :: cs => unsignedExponent? cs
  | cs => unsignedExponent? cs

/-- **The decimal a numeral denotes,** if the text is one from its first
character to its last. -/
def numeral? (exponent? : List Char → Option Int) (cs : List Char) : Option Decimal := do
  let (whole, fraction, rest) ← splitMantissa? cs
  let exponent ← match rest with
    | [] => some 0
    | mark :: cs => if mark = 'e' ∨ mark = 'E' then exponent? cs else none
  return ⟨ofDigits (whole ++ fraction), exponent - fraction.length⟩

/-! ## Numbers with a sign -/

/-- A number without a sign in front: a numeral, or the name of infinity
or of what is no number, in letters of either case. -/
def magnitude? (cs : List Char) : Option Float :=
  match numeral? signedExponent? cs with
  | some d => some d.toFloat
  | none =>
    match String.ofList (cs.map Char.toLower) with
    | "inf" | "infinity" => some (infinity false)
    | "nan" => some notANumber
    | _ => none

/-- **The double a text denotes,** with or without a sign in front. -/
def ofText? : List Char → Option Float
  | '-' :: cs => (magnitude? cs).map (-·)
  | '+' :: cs => magnitude? cs
  | cs => magnitude? cs

/-- The double nearest to a whole number. -/
def ofInt (n : Int) : Float :=
  let x := (Decimal.mk n.natAbs 0).toFloat
  if n < 0 then -x else x

end Number

end Reckoner
