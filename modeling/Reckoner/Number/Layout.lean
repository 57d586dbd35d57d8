import Reckoner.Number.Shortest
/-!
# Number — layout

How a double is written. Its digits are those of the shortest decimal
that reads back; a layout says from which size on the exponent is written
out, and how.
-/

namespace Reckoner

namespace Number

/-- The choices that turn digits into a text. -/
structure Layout where
  /-- The least exponent written without one. -/
  leastPlain : Int
  /-- The greatest exponent written without one. -/
  greatestPlain : Int
  /-- Whether a whole number keeps a point and a zero. -/
  keepsPoint : Bool
  /-- The least number of digits of an exponent. -/
  exponentDigits : Nat

/-- **The layout of every number the program writes:** plain from 0.0001
up to below 10 ^ 16, with a point in any case, and else with a signed
exponent of two digits or more. -/
def Layout.standard : Layout :=
  { leastPlain := -4, greatestPlain := 15, keepsPoint := true, exponentDigits := 2 }

/-- The decimal digits of a number. -/
def decimalDigits (n : Nat) : List Char :=
  Nat.toDigits 10 n

/-- Significant digits, without the zeros at the end, and the exponent of
the first of them. -/
def Decimal.significant (d : Decimal) : List Char × Int :=
  let digits := decimalDigits d.digits
  ((digits.reverse.dropWhile (· = '0')).reverse, d.scale + digits.length - 1)

/-- A text filled up with zeros at the end. -/
def padEnd (width : Nat) (digits : List Char) : List Char :=
  digits ++ List.replicate (width - digits.length) '0'

/-- A text filled up with zeros in front. -/
def padStart (width : Nat) (digits : List Char) : List Char :=
  List.replicate (width - digits.length) '0' ++ digits

/-- The digits in full, with the point in its place. -/
def Layout.plain (l : Layout) (digits : List Char) (exponent : Int) : List Char :=
  if exponent < 0 then '0' :: '.' :: padStart (digits.length + (-exponent - 1).toNat) digits
  else
    let whole := exponent.toNat + 1
    let fraction := digits.drop whole
    padEnd whole (digits.take whole) ++
      (if fraction.isEmpty then (if l.keepsPoint then ['.', '0'] else [])
      else '.' :: fraction)

/-- One digit before the point, the exponent after the rest. -/
def Layout.scientific (l : Layout) (digits : List Char) (exponent : Int) : List Char :=
  let fraction := digits.drop 1
  digits.take 1 ++ (if fraction.isEmpty then [] else '.' :: fraction) ++
    'e' :: (if exponent < 0 then '-' else '+') ::
      padStart l.exponentDigits (decimalDigits exponent.natAbs)

/-- A positive decimal in a layout. -/
def Layout.positive (l : Layout) (d : Decimal) : List Char :=
  let (digits, exponent) := d.significant
  if l.leastPlain ≤ exponent && exponent ≤ l.greatestPlain then l.plain digits exponent
  else l.scientific digits exponent

/-- The text of a shape: zeros and infinities keep their sign, what is no
number has none. -/
def Layout.write (l : Layout) : Shape → List Char
  | .nan => ['n', 'a', 'n']
  | .infinite negative => signed negative ['i', 'n', 'f']
  | .finite negative 0 _ => signed negative (l.plain ['0'] 0)
  | .finite negative significand exponent =>
    signed negative (l.positive (shortest significand exponent))
where
  /-- Puts the minus sign in front. -/
  signed (negative : Bool) (cs : List Char) : List Char :=
    if negative then '-' :: cs else cs

/-- **The text of a number.** -/
def text (x : Float) : String :=
  String.ofList (Layout.standard.write (shape x))

end Number

end Reckoner
