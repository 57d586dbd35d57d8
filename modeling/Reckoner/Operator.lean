/-!
# Operators

The symbols of an expression and the operators and brackets they stand
for. Two symbols have two readings: plus and minus are signs where no
left operand is at hand. A higher precedence binds tighter; brackets are
below every operator, so that a reduction never takes one for an operator
that binds at least as tightly.
-/

namespace Reckoner

/-- A character that is a lexeme of its own. -/
inductive Symbol where
  | openBracket | closeBracket | plus | minus | star | slash | caret
  deriving DecidableEq, Repr

namespace Symbol

/-- The character of a symbol. -/
def char : Symbol → Char
  | openBracket => '('
  | closeBracket => ')'
  | plus => '+'
  | minus => '-'
  | star => '*'
  | slash => '/'
  | caret => '^'

/-- The symbol a character is, if it is one. -/
def ofChar? : Char → Option Symbol
  | '(' => some openBracket
  | ')' => some closeBracket
  | '+' => some plus
  | '-' => some minus
  | '*' => some star
  | '/' => some slash
  | '^' => some caret
  | _ => none

@[simp] theorem ofChar?_char (s : Symbol) : ofChar? s.char = some s := by
  cases s <;> rfl

end Symbol

/-- **An operator or bracket** as the operator stack holds it. -/
inductive Operator where
  | leftBracket | rightBracket
  | add | subtract | multiply | divide | power
  | unaryPlus | unaryMinus
  deriving DecidableEq, Repr

namespace Operator

/-- All of them, in the order in which they are listed to the user. -/
def all : List Operator :=
  [leftBracket, rightBracket, add, subtract, multiply, divide, power, unaryPlus, unaryMinus]

/-- The name of an operator. -/
def name : Operator → String
  | leftBracket => "left_bracket"
  | rightBracket => "right_bracket"
  | add => "add"
  | subtract => "subtract"
  | multiply => "multiply"
  | divide => "divide"
  | power => "power"
  | unaryPlus => "unary_plus"
  | unaryMinus => "unary_minus"

/-- The operator of a name. -/
def ofName? (name : String) : Option Operator :=
  all.find? (·.name = name)

/-- The symbol an operator is written with. -/
def symbol : Operator → Symbol
  | leftBracket => .openBracket
  | rightBracket => .closeBracket
  | add | unaryPlus => .plus
  | subtract | unaryMinus => .minus
  | multiply => .star
  | divide => .slash
  | power => .caret

/-- How tightly an operator binds. Multiplication, division and power are
on one level, and a sign binds tighter than they do. -/
def precedence : Operator → Int
  | leftBracket | rightBracket => -1
  | add | subtract => 0
  | multiply | divide | power => 1
  | unaryPlus | unaryMinus => 2

/-- How many operands an operator takes; a bracket takes none. -/
def arity : Operator → Nat
  | leftBracket | rightBracket => 0
  | add | subtract | multiply | divide | power => 2
  | unaryPlus | unaryMinus => 1

/-- What binds at all is no bracket. -/
theorem precedence_nonneg_iff {op : Operator} :
    0 ≤ op.precedence ↔ op ≠ leftBracket ∧ op ≠ rightBracket := by
  cases op <;> decide

/-- What binds at all binds tighter than a bracket. -/
theorem not_precedence_le_leftBracket {op : Operator} (h : 0 ≤ op.precedence) :
    ¬ op.precedence ≤ leftBracket.precedence := by
  have hbracket : leftBracket.precedence = -1 := rfl
  omega

/-- An operator is known by its name. -/
@[simp] theorem ofName?_name (op : Operator) : ofName? op.name = some op := by
  cases op <;> rfl

end Operator

namespace Symbol

/-- What a symbol means after an operand. -/
def binary : Symbol → Operator
  | openBracket => .leftBracket
  | closeBracket => .rightBracket
  | plus => .add
  | minus => .subtract
  | star => .multiply
  | slash => .divide
  | caret => .power

/-- What a symbol means as a sign, if it can be one. -/
def sign? : Symbol → Option Operator
  | plus => some .unaryPlus
  | minus => some .unaryMinus
  | _ => none

/-- **The operator a symbol stands for.** Where a sign may stand, a symbol
that can be one is one. -/
def operator (s : Symbol) (unaryContext : Bool) : Operator :=
  if unaryContext then s.sign?.getD s.binary else s.binary

/-- Whichever way it is read, an operator is written with the symbol it
was read from. -/
@[simp] theorem symbol_operator (s : Symbol) (unaryContext : Bool) :
    (s.operator unaryContext).symbol = s := by
  cases s <;> cases unaryContext <;> rfl

end Symbol

end Reckoner
