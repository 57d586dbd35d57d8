import Reckoner.Evaluation
import Reckoner.Proofs.Reductions
/-!
# What a failure loses

Stacks that commands work on outlive a failure, and what the command had
taken off them before is not put back. `Leaves` says for each fault what is
left: the operators are the lower part of those before, and the operands
are those that the completed reductions leave, less two where a computation
has used them up. A command that fails adds nothing
(`perform_error_leaves`).
-/

namespace Reckoner

namespace Session

/-! ## Commands that fail -/

/-- **A command that fails** leaves the stacks that its operation does, and
the context as it was. -/
theorem perform_eq_error {session next : Session} {command : Command} {fault : Fault}
    (h : session.perform command = (next, .error fault)) :
    ∃ failure, perform.outcome session session.state command = .error failure ∧
      failure.fault = fault ∧ next = ⟨failure.left, session.unaryContext⟩ := by
  rw [perform] at h
  cases houtcome : perform.outcome session session.state command with
  | error failure =>
    rw [houtcome] at h
    cases h
    exact ⟨failure, rfl, rfl, rfl⟩
  | ok result =>
    obtain ⟨s, reply⟩ := result
    rw [houtcome] at h
    cases reply <;> cases h

/-- **What a command leaves of the stacks `s`** when it fails. The operators
`taken` have been applied by then. -/
inductive Leaves (s : Stacks) (command : Command) : Fault → Stacks → Prop where
  /-- What an operator computes of its two operands has no result: all three
  are gone. -/
  | computation {taken below : List Operator} {op : Operator} {a b : Float}
      {operands : List Float} {fault : Fault} :
      (command = .reduceTop → taken = []) →
      s.Reduced taken ⟨op :: below, b :: a :: operands⟩ →
      op.apply (b :: a :: operands) = .error (fault, operands) →
      fault.kind? = some .divisionByZero ∨ fault.kind? = some .invalidDomain →
      Leaves s command fault ⟨below, operands⟩
  /-- An operator lacks operands: it is gone, and those that are there
  stay. -/
  | wanting {taken below : List Operator} {op : Operator} {operands : List Float} :
      (command = .reduceTop → taken = []) →
      s.Reduced taken ⟨op :: below, operands⟩ →
      operands.length < op.arity →
      Leaves s command (.insufficientOperands op) ⟨below, operands⟩
  /-- A bracket is applied: it is gone, and the operands stay. -/
  | bracket {taken below : List Operator} {op : Operator} {operands : List Float} :
      (command = .reduceTop → taken = []) →
      s.Reduced taken ⟨op :: below, operands⟩ →
      op = .leftBracket ∨ op = .rightBracket →
      Leaves s command (.bracketApplied op) ⟨below, operands⟩
  /-- A word that is no operand changes nothing. -/
  | word {word : List Char} {sign : Option Bool} : command = .step (.word word) sign →
      Leaves s command (.invalidOperand word) s
  /-- Nor does a reduction where nothing is pending. -/
  | nothingPending : command = .reduceTop → s.operators = [] →
      Leaves s command .nothingPending s
  /-- A bracket closes none that is open: everything has been applied. -/
  | unmatched {taken : List Operator} {operands : List Float} :
      (command = .closeBracket ∨ ∃ sign, command = .step (.symbol .closeBracket) sign) →
      s.Reduced taken ⟨[], operands⟩ →
      Leaves s command .unmatchedBracket ⟨[], operands⟩
  /-- A bracket is open at the end: it stays on top. -/
  | unclosed {taken below : List Operator} {operands : List Float} : command = .finish →
      s.Reduced taken ⟨.leftBracket :: below, operands⟩ →
      Leaves s command .unclosedBracket ⟨.leftBracket :: below, operands⟩
  /-- There is not one operand at the end: all of them stay. -/
  | malformed {taken : List Operator} {operands : List Float} : command = .finish →
      s.Reduced taken ⟨[], operands⟩ → operands.length ≠ 1 →
      Leaves s command (.malformedExpression operands.length) ⟨[], operands⟩

variable {s : Stacks} {command : Command} {failure : Failure}

/-- **The operators that are left** are the lower part of those before. -/
theorem Leaves.suffix {fault : Fault} {left : Stacks} (h : Leaves s command fault left) :
    left.operators <:+ s.operators := by
  cases h with
  | computation _ hreduced => exact (List.suffix_cons _ _).trans hreduced.suffix
  | wanting _ hreduced => exact (List.suffix_cons _ _).trans hreduced.suffix
  | bracket _ hreduced => exact (List.suffix_cons _ _).trans hreduced.suffix
  | word => exact List.suffix_refl _
  | nothingPending => exact List.suffix_refl _
  | unmatched => exact List.nil_suffix
  | unclosed _ hreduced => exact hreduced.suffix
  | malformed => exact List.nil_suffix

/-- A reduction that breaks off at an operator leaves what that operator
does. -/
theorem leaves_of_brokenOff {taken : List Operator} {op : Operator}
    (hfirst : command = .reduceTop → taken = []) (h : s.BrokenOff taken op failure) :
    Leaves s command failure.fault failure.left := by
  obtain ⟨fault, below, left⟩ := failure
  obtain ⟨hreduced, hfails⟩ := h
  cases Operator.refuses_of_apply_eq_error hfails with
  | computation haction hf =>
    have hkind := Operator.kind_of_binary_eq_error haction hf
    exact .computation hfirst hreduced hfails hkind
  | bracket haction => exact .bracket hfirst hreduced (Operator.bracket_of_boundary haction)
  | wanting hshort => exact .wanting hfirst hreduced hshort

/-! ## The commands one by one -/

theorem leaves_of_step {lexeme : Lexeme} {sign : Option Bool} {allowed : Bool}
    (h : s.step lexeme allowed = .error failure) :
    Leaves s (.step lexeme sign) failure.fault failure.left := by
  rcases (s.step_reduces lexeme allowed).of_error h with
    ⟨word, rfl, rfl⟩ | ⟨taken, op, hbroken⟩ | ⟨rfl, hfault, hempty, taken, hreduced⟩
  · exact .word rfl
  · exact leaves_of_brokenOff (fun heq => by cases heq) hbroken
  · obtain ⟨fault, operators, operands⟩ := failure
    cases hfault
    cases hempty
    exact .unmatched (Or.inr ⟨sign, rfl⟩) hreduced

theorem leaves_of_reduceTop (h : s.reduceTop = .error failure) :
    Leaves s .reduceTop failure.fault failure.left := by
  rcases s.reduceTop_reduces.of_error h with ⟨op, hbroken⟩ | ⟨hempty, rfl⟩
  · exact leaves_of_brokenOff (fun _ => rfl) hbroken
  · exact .nothingPending rfl hempty

theorem leaves_of_closeBracket (h : s.closeBracket = .error failure) :
    Leaves s .closeBracket failure.fault failure.left := by
  rcases s.closeBracket_reduces.of_error h with
    ⟨taken, op, hbroken, -⟩ | ⟨hfault, hempty, taken, hreduced, -⟩
  · exact leaves_of_brokenOff (fun heq => by cases heq) hbroken
  · obtain ⟨fault, operators, operands⟩ := failure
    cases hfault
    cases hempty
    exact .unmatched (Or.inl rfl) hreduced

theorem leaves_of_finish (h : s.finish = .error failure) :
    Leaves s .finish failure.fault failure.left := by
  obtain ⟨fault, operators, operands⟩ := failure
  rcases s.finish_reduces.of_error h with
    ⟨taken, op, hbroken, -⟩ | ⟨⟨taken, hreduced⟩, ⟨hfault, below, hopen⟩ | ⟨hempty, hcount, hfault⟩⟩
  · exact leaves_of_brokenOff (fun heq => by cases heq) hbroken
  · cases hfault
    cases hopen
    exact .unclosed rfl hreduced
  · obtain rfl : fault = .malformedExpression operands.length := hfault
    cases hempty
    exact .malformed rfl hreduced hcount

theorem leaves_of_pushOperator {op : Operator} (h : s.pushOperator op = .error failure) :
    Leaves s (.pushOperator op) failure.fault failure.left := by
  obtain ⟨taken, last, hbroken, -⟩ := (s.pushOperator_reduces op).of_error h
  exact leaves_of_brokenOff (fun heq => by cases heq) hbroken

/-- **A command whose operation fails,** unless it applies an operator that
is on no stack. -/
theorem leaves_of_outcome_eq_error {session : Session} (hcommand : ∀ op, command ≠ .apply op)
    (h : perform.outcome session s command = .error failure) :
    Leaves s command failure.fault failure.left := by
  cases command with
  | step lexeme sign => exact leaves_of_step (eq_error_of_bind_ok h)
  | reduceTop => exact leaves_of_reduceTop (eq_error_of_bind_ok h)
  | closeBracket => exact leaves_of_closeBracket (eq_error_of_bind_ok h)
  | finish => exact leaves_of_finish (eq_error_of_bind_ok h)
  | pushOperator op => exact leaves_of_pushOperator (eq_error_of_bind_ok h)
  | apply op => exact absurd rfl (hcommand op)
  | pushOperand v => cases h
  | placeOperator op => cases h

/-- **A failure only removes.** Whatever the stacks hold, a command that
fails leaves of them what `Leaves` says for its fault. So the operators
after it are the lower part of those before, and whether a sign may stand
next is as it was. -/
theorem perform_error_leaves {session next : Session} {command : Command} {fault : Fault}
    (hcommand : ∀ op, command ≠ .apply op)
    (h : session.perform command = (next, .error fault)) :
    Leaves session.state command fault next.state ∧
      next.state.operators <:+ session.state.operators ∧
      next.unaryContext = session.unaryContext := by
  obtain ⟨failure, houtcome, rfl, rfl⟩ := perform_eq_error h
  have hleaves := leaves_of_outcome_eq_error hcommand houtcome
  exact ⟨hleaves, hleaves.suffix, rfl⟩

/-- A bracket that closes is to apply a minus and then a quotient, of which
the minus makes the divisor a negative zero. -/
theorem perform_error_leaves_quotient :
    perform ⟨⟨[.unaryMinus, .divide, .leftBracket, .add], [0, 2, 3]⟩, true⟩ .closeBracket =
        (⟨⟨[.leftBracket, .add], [3]⟩, true⟩, .error .divisionByZero) ∧
      Leaves ⟨[.unaryMinus, .divide, .leftBracket, .add], [0, 2, 3]⟩ .closeBracket .divisionByZero
        ⟨[.leftBracket, .add], [3]⟩ := by
  have hperform : perform ⟨⟨[.unaryMinus, .divide, .leftBracket, .add], [0, 2, 3]⟩, true⟩
      .closeBracket = (⟨⟨[.leftBracket, .add], [3]⟩, true⟩, .error .divisionByZero) := by rfl
  obtain ⟨hleaves, -⟩ := perform_error_leaves (fun op heq => by cases heq) hperform
  exact ⟨hperform, hleaves⟩

end Session

end Reckoner
