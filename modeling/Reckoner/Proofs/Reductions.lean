import Reckoner.Proofs.Postfix
/-!
# Reductions

What a reduction does to both stacks. The operators it takes off come from
the top, and they are applied one after the other to the operands
(`Reduced`). It goes on to an operator that it is to stop at, or it breaks
off at one that cannot be applied (`BrokenOff`). Every operation is a
reduction and something done to what it leaves: `reduceOn_reduces` is the
one induction, and what each operation can do is read off it, up to the
step (`step_reduces`).
-/

namespace Reckoner

/-- **Operators are applied one after the other** to operands, and none of
them fails. -/
inductive Applied : List Operator → List Float → List Float → Prop where
  | nil {operands : List Float} : Applied [] operands operands
  | cons {op : Operator} {ops : List Operator} {operands next left : List Float} :
      op.apply operands = .ok next → Applied ops next left → Applied (op :: ops) operands left

namespace Stacks

/-- **Stacks reduced to others:** the operators `taken` are taken off, the
top one first, and applied to the operands. -/
structure Reduced (s : Stacks) (taken : List Operator) (left : Stacks) : Prop where
  operators : s.operators = taken ++ left.operators
  operands : Applied taken s.operands left.operands

/-- **A reduction that breaks off at an operator:** those that are `taken`
are applied, and this one, which is below them, is taken off too and
fails. -/
inductive BrokenOff (s : Stacks) (taken : List Operator) (op : Operator) (failure : Failure) :
    Prop where
  | intro {operands : List Float} : s.Reduced taken ⟨op :: failure.left.operators, operands⟩ →
      op.apply operands = .error (failure.fault, failure.left.operands) →
      BrokenOff s taken op failure

theorem Reduced.refl (s : Stacks) : s.Reduced [] s :=
  ⟨rfl, .nil⟩

/-- One operator more that is applied first. -/
theorem Reduced.cons {op : Operator} {below taken : List Operator} {operands next : List Float}
    {left : Stacks} (happly : op.apply operands = .ok next)
    (h : Reduced ⟨below, next⟩ taken left) : Reduced ⟨op :: below, operands⟩ (op :: taken) left :=
  ⟨congrArg (op :: ·) h.operators, .cons happly h.operands⟩

theorem BrokenOff.cons {op op' : Operator} {below taken : List Operator}
    {operands next : List Float} {failure : Failure} (happly : op.apply operands = .ok next)
    (h : BrokenOff ⟨below, next⟩ taken op' failure) :
    BrokenOff ⟨op :: below, operands⟩ (op :: taken) op' failure := by
  obtain ⟨hreduced, hfails⟩ := h
  exact ⟨hreduced.cons happly, hfails⟩

/-- What a reduction leaves of the operators is the lower part of them. -/
theorem Reduced.suffix {s left : Stacks} {taken : List Operator} (h : s.Reduced taken left) :
    left.operators <:+ s.operators :=
  ⟨taken, h.operators.symm⟩

/-! ## Reductions -/

/-- **One operator,** taken off already. -/
theorem reduce_applies (op : Operator) (s : Stacks) :
    Ends (reduce op s)
      (fun s' => op.apply s.operands = .ok s'.operands ∧ s'.operators = s.operators)
      fun failure => op.apply s.operands = .error (failure.fault, failure.left.operands) ∧
        failure.left.operators = s.operators := by
  rw [reduce]
  cases op.apply s.operands with
  | ok operands => exact ⟨rfl, rfl⟩
  | error e => exact ⟨rfl, rfl⟩

/-- The top operator. -/
theorem reduceTop_reduces (s : Stacks) :
    Ends s.reduceTop (fun left => ∃ op, s.Reduced [op] left) fun failure =>
      (∃ op, s.BrokenOff [] op failure) ∨ s.operators = [] ∧ failure = ⟨.nothingPending, s⟩ := by
  obtain ⟨operators, operands⟩ := s
  cases operators with
  | nil => exact Or.inr ⟨rfl, rfl⟩
  | cons op below =>
    refine (reduce_applies op ⟨below, operands⟩).mono ?_ ?_
    · rintro ⟨_, left⟩ ⟨happly, rfl⟩
      exact ⟨op, rfl, .cons happly .nil⟩
    · rintro ⟨fault, _, left⟩ ⟨hfails, rfl⟩
      exact Or.inl ⟨op, Reduced.refl _, hfails⟩

/-- **A reduction** takes operators off as long as `p` holds of them, and
each of them is applied, or it breaks off at the first that fails. -/
theorem reduceOn_reduces (p : Operator → Bool) (ops : List Operator) (operands : List Float) :
    Ends (reduceOn p ops operands)
      (fun left => ∃ taken, Reduced ⟨ops, operands⟩ taken left ∧ (∀ op ∈ taken, p op = true) ∧
        ∀ op ∈ left.operators.head?, p op = false)
      fun failure => ∃ taken op, BrokenOff ⟨ops, operands⟩ taken op failure ∧
        ∀ op' ∈ op :: taken, p op' = true := by
  induction ops generalizing operands with
  | nil => exact ⟨[], Reduced.refl _, fun _ h => absurd h List.not_mem_nil, fun _ h => by cases h⟩
  | cons op below ih =>
    by_cases hop : p op = true
    · rw [reduceOn, if_pos hop]
      refine (reduce_applies op ⟨below, operands⟩).bind ?_ ?_
      · rintro ⟨_, next⟩ ⟨happly, rfl⟩
        -- what follows reduces the operators below, on the operands that this one leaves
        refine (ih next).mono ?_ ?_
        · rintro left ⟨taken, hreduced, htaken, hstop⟩
          exact ⟨op :: taken, hreduced.cons happly, List.forall_mem_cons.2 ⟨hop, htaken⟩, hstop⟩
        · rintro failure ⟨taken, op', hbroken, htaken⟩
          obtain ⟨hlast, htaken⟩ := List.forall_mem_cons.1 htaken
          exact ⟨op :: taken, op', hbroken.cons happly,
            List.forall_mem_cons.2 ⟨hlast, List.forall_mem_cons.2 ⟨hop, htaken⟩⟩⟩
      · rintro ⟨fault, _, left⟩ ⟨hfails, rfl⟩
        exact ⟨[], op, ⟨Reduced.refl _, hfails⟩,
          List.forall_mem_cons.2 ⟨hop, fun _ h => absurd h List.not_mem_nil⟩⟩
    · rw [reduceOn, if_neg hop]
      refine ⟨[], Reduced.refl _, fun _ h => absurd h List.not_mem_nil, ?_⟩
      rintro _ ⟨⟩
      exact Bool.eq_false_iff.2 hop

/-- **Down to the nearest opening bracket,** or to the end of the stack if
there is none. -/
theorem reduceToBracket_reduces (s : Stacks) :
    Ends s.reduceToBracket
      (fun left => (∃ taken, s.Reduced taken left ∧ .leftBracket ∉ taken) ∧
        (left.operators = [] ∨ ∃ below, left.operators = .leftBracket :: below))
      fun failure => ∃ taken op, s.BrokenOff taken op failure ∧ .leftBracket ∉ op :: taken := by
  have hnone : ∀ {ops : List Operator}, (∀ op ∈ ops, decide (op ≠ .leftBracket) = true) →
      .leftBracket ∉ ops := fun hops hmem => of_decide_eq_true (hops _ hmem) rfl
  refine (reduceOn_reduces (· ≠ .leftBracket) s.operators s.operands).mono ?_ ?_
  · rintro left ⟨taken, hreduced, htaken, hstop⟩
    refine ⟨⟨taken, hreduced, hnone htaken⟩, ?_⟩
    cases hoperators : left.operators with
    | nil => exact Or.inl rfl
    | cons op below =>
      have hop := hstop op (by rw [hoperators]; rfl)
      have heq : op = .leftBracket := not_not.1 (of_decide_eq_false hop)
      exact Or.inr ⟨below, by rw [heq]⟩
  · rintro failure ⟨taken, op, hbroken, htaken⟩
    exact ⟨taken, op, hbroken, hnone htaken⟩

/-! ## Operations -/

/-- **Closing a bracket** reduces down to the one that opens it, and drops
that. Where there is none, everything has been applied. -/
theorem closeBracket_reduces (s : Stacks) :
    Ends s.closeBracket
      (fun left => ∃ taken, s.Reduced taken ⟨.leftBracket :: left.operators, left.operands⟩ ∧
        .leftBracket ∉ taken)
      fun failure => (∃ taken op, s.BrokenOff taken op failure ∧ .leftBracket ∉ op :: taken) ∨
        failure.fault = .unmatchedBracket ∧ failure.left.operators = [] ∧
          ∃ taken, s.Reduced taken failure.left ∧ .leftBracket ∉ taken := by
  refine s.reduceToBracket_reduces.bind ?_ fun failure hbroken => Or.inl hbroken
  rintro ⟨operators, operands⟩ ⟨⟨taken, hreduced, htaken⟩, hstop⟩
  rcases hstop with rfl | ⟨below, rfl⟩
  · exact Or.inr ⟨rfl, rfl, taken, hreduced, htaken⟩
  · exact ⟨taken, hreduced, htaken⟩

/-- **Pushing an operator** reduces all that bind at least as tightly, and
puts it on what is left, where the top one binds less tightly. -/
theorem pushOperator_reduces (op : Operator) (s : Stacks) :
    Ends (s.pushOperator op)
      (fun after => ∃ taken below, after.operators = op :: below ∧
        s.Reduced taken ⟨below, after.operands⟩ ∧
        (∀ top ∈ taken, op.precedence ≤ top.precedence) ∧
        ∀ top ∈ below.head?, top.precedence < op.precedence)
      fun failure => ∃ taken last, s.BrokenOff taken last failure ∧
        ∀ top ∈ last :: taken, op.precedence ≤ top.precedence := by
  refine (reduceOn_reduces (fun top => op.precedence ≤ top.precedence) s.operators s.operands).bind
    ?_ ?_
  · rintro left ⟨taken, hreduced, htaken, hstop⟩
    exact ⟨taken, left.operators, rfl, hreduced,
      fun top htop => of_decide_eq_true (htaken top htop),
      fun top htop => Int.not_le.1 (of_decide_eq_false (hstop top htop))⟩
  · rintro failure ⟨taken, last, hbroken, htaken⟩
    exact ⟨taken, last, hbroken, fun top htop => of_decide_eq_true (htaken top htop)⟩

/-- **The end** reduces everything and finds one operand, or else fails at
a bracket that is open or with the operands that are left. -/
theorem finish_reduces (s : Stacks) :
    Ends s.finish
      (fun after => after.2 = ⟨[], [after.1]⟩ ∧ ∃ taken, s.Reduced taken after.2)
      fun failure => (∃ taken op, s.BrokenOff taken op failure ∧ .leftBracket ∉ op :: taken) ∨
        (∃ taken, s.Reduced taken failure.left) ∧
          (failure.fault = .unclosedBracket ∧
              (∃ below, failure.left.operators = .leftBracket :: below) ∨
            failure.left.operators = [] ∧ failure.left.operands.length ≠ 1 ∧
              failure.fault = .malformedExpression failure.left.operands.length) := by
  refine s.reduceToBracket_reduces.bind ?_ fun failure hbroken => Or.inl hbroken
  rintro ⟨operators, operands⟩ ⟨⟨taken, hreduced, -⟩, hstop⟩
  rcases hstop with rfl | ⟨below, rfl⟩
  · match operands with
    | [v] => exact ⟨rfl, taken, hreduced⟩
    | [] => exact Or.inr ⟨⟨taken, hreduced⟩, Or.inr ⟨rfl, by simp, rfl⟩⟩
    | _ :: _ :: _ => exact Or.inr ⟨⟨taken, hreduced⟩, Or.inr ⟨rfl, by simp, rfl⟩⟩
  · exact Or.inr ⟨⟨taken, hreduced⟩, Or.inl ⟨rfl, below, rfl⟩⟩

/-! ## Steps -/

/-- **What a step does** where it succeeds. -/
inductive Taken (s : Stacks) (sign : Bool) : Lexeme → Stacks × Bool → Prop where
  /-- A word goes on the operands. -/
  | operand {word : List Char} {v : Float} : Operand.value word = .ok v →
      Taken s sign (.word word) (⟨s.operators, v :: s.operands⟩, false)
  /-- An opening bracket goes on the operators. -/
  | openBracket : Taken s sign (.symbol .openBracket)
      (⟨.leftBracket :: s.operators, s.operands⟩, true)
  /-- A closing bracket takes off the operators above the nearest opening
  one, and that bracket. -/
  | closeBracket {taken below : List Operator} {operands : List Float} :
      s.Reduced taken ⟨.leftBracket :: below, operands⟩ → .leftBracket ∉ taken →
      Taken s sign (.symbol .closeBracket) (⟨below, operands⟩, false)
  /-- An operator takes off those that bind at least as tightly, and goes on
  one that binds less tightly. -/
  | operator {symbol : Symbol} {taken : List Operator} {left : Stacks} :
      0 ≤ (symbol.operator sign).precedence → s.Reduced taken left →
      (∀ top ∈ taken, (symbol.operator sign).precedence ≤ top.precedence) →
      (∀ top ∈ left.operators.head?, top.precedence < (symbol.operator sign).precedence) →
      Taken s sign (.symbol symbol)
        (⟨symbol.operator sign :: left.operators, left.operands⟩, true)

open Postfix in
/-- **A step** does one of these, or it fails: at a word that is no operand,
which leaves the stacks as they were, at an operator that cannot be applied,
or at a bracket that closes none. -/
theorem step_reduces (s : Stacks) (lexeme : Lexeme) (sign : Bool) :
    Ends (s.step lexeme sign) (s.Taken sign lexeme) fun failure =>
      (∃ word, lexeme = .word word ∧ failure = ⟨.invalidOperand word, s⟩) ∨
        (∃ taken op, s.BrokenOff taken op failure) ∨
          lexeme = .symbol .closeBracket ∧ failure.fault = .unmatchedBracket ∧
            failure.left.operators = [] ∧ ∃ taken, s.Reduced taken failure.left := by
  rcases lexeme with symbol | word
  · rcases bracket_or_operator symbol with rfl | rfl | ⟨-, hop⟩
    · rw [step_openBracket]
      exact .openBracket
    · rw [step_closeBracket]
      refine s.closeBracket_reduces.bind ?_ ?_
      · rintro ⟨below, operands⟩ ⟨taken, hreduced, htaken⟩
        exact .closeBracket hreduced htaken
      · rintro failure (⟨taken, op, hbroken, -⟩ | ⟨hfault, hempty, taken, hreduced, -⟩)
        · exact Or.inr (Or.inl ⟨taken, op, hbroken⟩)
        · exact Or.inr (Or.inr ⟨rfl, hfault, hempty, taken, hreduced⟩)
    · rw [step_operator s (hop sign)]
      refine (pushOperator_reduces _ s).bind ?_ ?_
      · rintro ⟨_, operands⟩ ⟨taken, below, rfl, hreduced, htaken, htop⟩
        exact .operator (hop sign) hreduced htaken htop
      · rintro failure ⟨taken, op, hbroken, -⟩
        exact Or.inr (Or.inl ⟨taken, op, hbroken⟩)
  · rw [step]
    cases hvalue : Operand.value word with
    | ok v => exact .operand hvalue
    | error fault =>
      rw [Operand.value_eq_error hvalue]
      exact Or.inl ⟨word, rfl, rfl⟩

end Stacks

end Reckoner
