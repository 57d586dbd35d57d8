import Reckoner.Operator
import Reckoner.Number.Layout
import Reckoner.Text.Quoted
/-!
# Faults

What can go wrong in an evaluation. A fault of the expression has a kind,
which a caller can branch on, and a message for the user. Two more faults
come of misusing the stacks; they have no kind, and no expression gives
rise to them.
-/

namespace Reckoner

/-- The six kinds of fault an expression can have. -/
inductive FaultKind where
  | insufficientOperands | divisionByZero | invalidDomain
  | mismatchedBrackets | invalidOperand | malformedExpression
  deriving DecidableEq, Repr

namespace FaultKind

/-- All of them, in the order in which they are listed to the user. -/
def all : List FaultKind :=
  [insufficientOperands, divisionByZero, invalidDomain, mismatchedBrackets, invalidOperand,
    malformedExpression]

/-- The name of a kind. -/
def name : FaultKind → String
  | insufficientOperands => "insufficient_operands"
  | divisionByZero => "division_by_zero"
  | invalidDomain => "invalid_domain"
  | mismatchedBrackets => "mismatched_brackets"
  | invalidOperand => "invalid_operand"
  | malformedExpression => "malformed_expression"

/-- The kind of a name. -/
def ofName? (name : String) : Option FaultKind :=
  all.find? (·.name = name)

/-- A kind is known by its name. -/
@[simp] theorem ofName?_name (k : FaultKind) : ofName? k.name = some k := by
  cases k <;> rfl

end FaultKind

/-- **What went wrong.** -/
inductive Fault where
  /-- An operator was applied to fewer operands than it takes. -/
  | insufficientOperands (op : Operator)
  /-- A divisor is zero. -/
  | divisionByZero
  /-- Zero was raised to a negative power. -/
  | zeroToNegativePower
  /-- A negative number was raised to a power that is not whole. -/
  | negativeToFractionalPower (base exponent : Float)
  /-- A closing bracket has no opening one. -/
  | unmatchedBracket
  /-- An opening bracket is left over at the end. -/
  | unclosedBracket
  /-- A word is neither a constant nor a number. -/
  | invalidOperand (word : List Char)
  /-- Other than one value is left over at the end. -/
  | malformedExpression (count : Nat)
  /-- A bracket was applied as if it were an operator. -/
  | bracketApplied (op : Operator)
  /-- An operator was taken from an empty stack. -/
  | nothingPending

namespace Fault

/-- The kind of a fault of the expression; misuse of the stacks has
none. -/
def kind? : Fault → Option FaultKind
  | insufficientOperands _ => some .insufficientOperands
  | divisionByZero => some .divisionByZero
  | zeroToNegativePower | negativeToFractionalPower .. => some .invalidDomain
  | unmatchedBracket | unclosedBracket => some .mismatchedBrackets
  | invalidOperand _ => some .invalidOperand
  | malformedExpression _ => some .malformedExpression
  | bracketApplied _ | nothingPending => none

/-- **The message of a fault.** -/
def message : Fault → String
  | insufficientOperands op => "Not enough operands for " ++ Text.quote [op.symbol.char]
  | divisionByZero => "Trying to divide by zero"
  | zeroToNegativePower => "Trying to raise zero to a negative power"
  | negativeToFractionalPower base exponent =>
    "Trying to raise a negative number to a fractional power: " ++ Number.text base ++ " ^ " ++
      Number.text exponent
  | unmatchedBracket => "Mismatched brackets: ')' without matching '('"
  | unclosedBracket => "Mismatched brackets: '(' is never closed"
  | invalidOperand word => "Invalid operand: " ++ Text.quote word
  | malformedExpression count =>
    "Malformed expression: expected a single value, got " ++ toString count
  | bracketApplied op => op.name ++ " is a stack boundary, not an operator that can be applied"
  | nothingPending => "pop from empty list"

end Fault

end Reckoner
