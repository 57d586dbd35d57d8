import Reckoner.Lexeme
import Reckoner.Operand
import Reckoner.Power
/-!
# The two stacks

An expression is evaluated in one pass with two stacks, of pending
operators and of operands. An operator is applied as soon as a later one
that binds no tighter, a closing bracket or the end of the expression
shows that its operands are complete. What an operation has taken off the
stacks before it fails is not put back: a failure says what is left.
-/

namespace Reckoner

/-! ## Applying an operator -/

/-- What an operator does to its operands. -/
inductive Action where
  /-- Joins two operands. -/
  | binary (f : Float → Float → Except Fault Float)
  /-- Replaces one operand. -/
  | unary (f : Float → Float)
  /-- Marks a boundary on the stack and does nothing. -/
  | boundary

namespace Operator

/-- The quotient of two operands. -/
def quotient (a b : Float) : Except Fault Float :=
  if (Number.shape b).isZero then .error .divisionByZero else .ok (a / b)

/-- **What each operator does.** -/
def action : Operator → Action
  | leftBracket | rightBracket => .boundary
  | add => .binary fun a b => .ok (a + b)
  | subtract => .binary fun a b => .ok (a - b)
  | multiply => .binary fun a b => .ok (a * b)
  | divide => .binary quotient
  | power => .binary Power.raise
  | unaryPlus => .unary id
  | unaryMinus => .unary (-·)

/-- The operators that join two operands. -/
def isBinary (op : Operator) : Bool :=
  op.action matches .binary _

/-- The operators that replace one operand. -/
def isUnary (op : Operator) : Bool :=
  op.action matches .unary _

/-- **Applies an operator to a stack of operands,** the last of them on
top. A binary operator takes both its operands before it computes, so a
computation that fails has used them up; where operands are wanting, none
is taken. -/
def apply (op : Operator) (operands : List Float) : Except (Fault × List Float) (List Float) :=
  match op.action, operands with
  | .binary f, b :: a :: rest =>
    match f a b with
    | .ok v => .ok (v :: rest)
    | .error fault => .error (fault, rest)
  | .unary f, a :: rest => .ok (f a :: rest)
  | .boundary, operands => .error (.bracketApplied op, operands)
  | _, operands => .error (.insufficientOperands op, operands)

/-- **The power operator** takes both its operands off the stack and
raises. -/
theorem apply_power (a b : Float) (below : List Float) :
    power.apply (b :: a :: below) =
      match Power.raise a b with
      | .ok r => .ok (r :: below)
      | .error fault => .error (fault, below) := rfl

end Operator

/-! ## The stacks -/

/-- **The state of an evaluation:** the pending operators and the
operands, each with the top of the stack first. -/
structure Stacks where
  operators : List Operator := []
  operands : List Float := []

/-- A failed operation: what went wrong, and the stacks it left. -/
structure Failure where
  fault : Fault
  left : Stacks

namespace Stacks

/-- Applies an operator that has been taken off the stack. -/
def reduce (op : Operator) (s : Stacks) : Except Failure Stacks :=
  match op.apply s.operands with
  | .ok operands => .ok ⟨s.operators, operands⟩
  | .error (fault, operands) => .error ⟨fault, ⟨s.operators, operands⟩⟩

/-- Takes the top operator off and applies it. -/
def reduceTop (s : Stacks) : Except Failure Stacks :=
  match s.operators with
  | [] => .error ⟨.nothingPending, s⟩
  | op :: below => reduce op ⟨below, s.operands⟩

/-- Takes operators off and applies them as long as `p` holds of the top
one; the operators come as a list of their own to recurse on. -/
def reduceOn (p : Operator → Bool) : List Operator → List Float → Except Failure Stacks
  | [], operands => .ok ⟨[], operands⟩
  | op :: below, operands =>
    if p op then do
      let s ← reduce op ⟨below, operands⟩
      reduceOn p below s.operands
    else .ok ⟨op :: below, operands⟩

/-- Reduces as long as `p` holds of the top operator. -/
def reduceWhile (p : Operator → Bool) (s : Stacks) : Except Failure Stacks :=
  reduceOn p s.operators s.operands

/-- Reduces down to the nearest opening bracket. -/
def reduceToBracket (s : Stacks) : Except Failure Stacks :=
  s.reduceWhile (· ≠ .leftBracket)

/-- Closes a bracket: what is pending inside it is applied, and the
opening bracket is dropped. -/
def closeBracket (s : Stacks) : Except Failure Stacks := do
  let s ← s.reduceToBracket
  match s.operators with
  | [] => .error ⟨.unmatchedBracket, s⟩
  | _ :: below => .ok ⟨below, s.operands⟩

/-- Pushes an operator, after all that bind at least as tightly are
applied; so operators of one level group to the left, power included. -/
def pushOperator (op : Operator) (s : Stacks) : Except Failure Stacks := do
  let s ← s.reduceWhile fun top => op.precedence ≤ top.precedence
  return ⟨op :: s.operators, s.operands⟩

/-- Ends an evaluation: what is pending is applied, and the one operand
left is the value. It stays on its stack. -/
def finish (s : Stacks) : Except Failure (Float × Stacks) := do
  let s ← s.reduceToBracket
  match s.operators, s.operands with
  | _ :: _, _ => .error ⟨.unclosedBracket, s⟩
  | [], [v] => .ok (v, s)
  | [], operands => .error ⟨.malformedExpression operands.length, s⟩

/-- **Takes in one lexeme,** and says whether a sign may stand after it.
One may stand after an opening bracket or an operator, and not after an
operand or a closing bracket. -/
def step (s : Stacks) (lexeme : Lexeme) (unaryContext : Bool) :
    Except Failure (Stacks × Bool) :=
  match lexeme with
  | .word cs =>
    match Operand.value cs with
    | .ok v => .ok (⟨s.operators, v :: s.operands⟩, false)
    | .error fault => .error ⟨fault, s⟩
  | .symbol symbol =>
    match symbol.operator unaryContext with
    | .leftBracket => .ok (⟨.leftBracket :: s.operators, s.operands⟩, true)
    | .rightBracket => return (← s.closeBracket, false)
    | op => return (← s.pushOperator op, true)

/-- Takes in lexemes one after the other. -/
def run (s : Stacks) (unaryContext : Bool) : List Lexeme → Except Failure (Stacks × Bool)
  | [] => .ok (s, unaryContext)
  | lexeme :: rest => do
    let (s, unaryContext) ← s.step lexeme unaryContext
    s.run unaryContext rest

end Stacks

end Reckoner
