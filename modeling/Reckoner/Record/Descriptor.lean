import Reckoner.Operator
import Reckoner.Record.Value
/-!
# Record — operator descriptors

The description of an operator as a record: the character it is written
with, what it is, how tightly it binds and how many operands it takes.
The operators of the program have one each, and others can be put
together from fields.
-/

namespace Reckoner

/-- **The description of an operator.** No precedence is below that of the
brackets, and no operator takes more than two operands. -/
structure Descriptor where
  symbol : Char
  kind : Operator
  precedence : Int
  arity : Nat
  precedence_ge : -1 ≤ precedence
  arity_le : arity ≤ 2

/-- The description of an operator of the program. -/
def Operator.descriptor (op : Operator) : Descriptor where
  symbol := op.symbol.char
  kind := op
  precedence := op.precedence
  arity := op.arity
  precedence_ge := by cases op <;> decide
  arity_le := by cases op <;> decide

namespace Descriptor

open Record

/-- Takes a text of one character. -/
def checkSymbol : Check Char := fun v => do
  match (← v.asText).toList with
  | [] => .error (.tooShort 1)
  | [c] => .ok c
  | _ => .error (.tooLong 1)

/-- Takes a whole number not below that of the brackets. -/
def checkPrecedence : Check { n : Int // -1 ≤ n } := fun v => do
  let n ← v.asInteger
  if h : -1 ≤ n then .ok ⟨n, h⟩ else .error (.tooSmall (-1))

/-- Takes a number of operands. -/
def checkArity : Check { n : Nat // n ≤ 2 } := fun v => do
  let n ← v.asInteger
  if n < 0 then .error (.tooSmall 0)
  else if h : n.toNat ≤ 2 then .ok ⟨n.toNat, h⟩
  else .error (.tooLarge 2)

/-- **A description put together from fields,** all of which have to be
there. -/
def ofFields (fields : Fields) : Checked Descriptor := do
  let symbol := fields.required "symbol" checkSymbol
  let kind := fields.required "kind"
    (Value.asName (Operator.all.map Operator.name) Operator.ofName?)
  let precedence := fields.required "precedence" checkPrecedence
  let arity := fields.required "arity" checkArity
  let ((symbol, kind), precedence, arity) ← (symbol.and kind).and (precedence.and arity)
  return ⟨symbol, kind, precedence, arity, precedence.property, arity.property⟩

end Descriptor

end Reckoner
