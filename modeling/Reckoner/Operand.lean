import Reckoner.Fault
import Reckoner.Number.Numeral
/-!
# Operands

The words that are operands: two named constants, and unsigned decimal
numerals in ASCII digits. There is no overlap, since a numeral has a
digit or a point in front. Signs are operators and never part of a word.
-/

namespace Reckoner

namespace Operand

/-- The named constants, each the double nearest to its number. -/
def constants : List (String × Float) :=
  [("pi", 3.141592653589793), ("e", 2.718281828459045)]

/-- The constant of a name. -/
def constant? (word : List Char) : Option Float :=
  (constants.find? (·.1.toList = word)).map (·.2)

/-- **The value of an operand.** -/
def value (word : List Char) : Except Fault Float :=
  match constant? word with
  | some x => .ok x
  | none =>
    match Number.numeral? Number.unsignedExponent? word with
    | some d => .ok d.toFloat
    | none => .error (.invalidOperand word)

end Operand

end Reckoner
