import Reckoner.Record.Value
/-!
# Record — requests

An expression to evaluate and the number of the line it was read from.
-/

namespace Reckoner

/-- The number of a line; lines are counted from one. -/
abbrev LineNumber := { n : Nat // 1 ≤ n }

/-- The first line. -/
def LineNumber.first : LineNumber := ⟨1, Nat.le_refl 1⟩

/-- Takes the number of a line. -/
def LineNumber.check : Record.Check LineNumber := fun v => do
  let n ← v.asInteger
  if h : 1 ≤ n.toNat then .ok ⟨n.toNat, h⟩ else .error (.tooSmall 1)

/-- **A request:** an expression that is not blank, and its line. -/
structure Request where
  expression : String
  lineNumber : LineNumber
  not_blank : Text.isBlankText expression.toList = false

namespace Request

open Record

/-- Takes an expression that is not blank. -/
def checkExpression : Check { s : String // Text.isBlankText s.toList = false } := fun v => do
  let s ← v.asText
  if h : Text.isBlankText s.toList = false then .ok ⟨s, h⟩
  else .error (.rule "Expression cannot be empty")

/-- **A request put together from fields.** Without a line number it is
that of the first line. -/
def ofFields (fields : Fields) : Checked Request := do
  let expression := fields.required "expression" checkExpression
  let lineNumber := fields.withDefault "line_number" .first LineNumber.check
  let (expression, lineNumber) ← expression.and lineNumber
  return ⟨expression, lineNumber, expression.property⟩

end Request

end Reckoner
