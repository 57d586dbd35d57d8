import Reckoner.Fault
import Reckoner.Record.Request
/-!
# Record — results

What became of an expression: a value or an error, never both and never
neither. As fields the two are apart and each can be left out, and that
exactly one is there is a rule of the record as a whole.
-/

namespace Reckoner

/-- **A result:** the outcome of an expression and the kind of its fault,
if one is given. -/
structure Result where
  expression : String
  lineNumber : LineNumber
  outcome : Except String Float
  kind : Option FaultKind

namespace Result

open Record

/-- Whether the expression has a value. -/
def ok (r : Result) : Bool :=
  match r.outcome with
  | .ok _ => true
  | .error _ => false

/-- The value, if there is one. -/
def value? (r : Result) : Option Float :=
  match r.outcome with
  | .ok v => some v
  | .error _ => none

/-- The error, if there is one. -/
def error? (r : Result) : Option String :=
  match r.outcome with
  | .ok _ => none
  | .error message => some message

/-- **The line of the results file,** without its newline. -/
def line (r : Result) : String :=
  match r.outcome with
  | .ok v => r.expression ++ " = " ++ Number.text v
  | .error message => r.expression ++ " -> ERROR: " ++ message

/-- The outcome of a value and an error of which one has to be there. -/
def outcomeOf : Option Float → Option String → Checked (Except String Float)
  | some v, none => .ok (.ok v)
  | none, some message => .ok (.error message)
  | _, _ => .error [⟨none, .rule "Exactly one of 'result' or 'error' must be set"⟩]

/-- **A result put together from fields.** Null stands for a field left
out. The rule of the whole is looked at once every field is right. -/
def ofFields (fields : Fields) : Checked Result := do
  let expression := fields.required "expression" Value.asText
  let lineNumber := fields.withDefault "line_number" .first LineNumber.check
  let value := fields.withDefault "result" none (Value.orNull Value.asNumber)
  let error := fields.withDefault "error" none (Value.orNull Value.asText)
  let kind := fields.withDefault "error_kind" none
    (Value.orNull (Value.asName (FaultKind.all.map FaultKind.name) FaultKind.ofName?))
  let ((expression, lineNumber), (value, error), kind) ←
    (expression.and lineNumber).and ((value.and error).and kind)
  return ⟨expression, lineNumber, ← outcomeOf value error, kind⟩

end Result

end Reckoner
