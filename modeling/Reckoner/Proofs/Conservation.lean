import Reckoner.Proofs.Balance
import Reckoner.Proofs.Reductions
/-!
# Conservation of operands

No operand is lost and no operator is applied twice. The operands on the
stack, less one for each pending operator that joins two, are the operands
that have been read, less one for each operator that joins two and has been
read. A reduction keeps that number (`Reduced.surplus_eq`), since it makes
one operand of two just where it takes such an operator off, and a step
adds what its lexeme brings (`Taken.surplus_eq`). So where everything is
applied, it is the number of operands left over.
-/

namespace Reckoner

/-! ## What lexemes bring -/

/-- Whether a lexeme joins two operands where it stands. -/
def Lexeme.joins (sign : Bool) : Lexeme → Bool
  | .symbol s => (s.operator sign).isBinary
  | .word _ => false

/-- How many of the lexemes are operands. -/
def operandCount (lexemes : List Lexeme) : Nat :=
  lexemes.countP (· matches .word _)

/-- How many of them join two operands, read from left to right: a plus or
minus does where no sign may stand. -/
def joinCount (sign : Bool) : List Lexeme → Nat
  | [] => 0
  | lexeme :: rest =>
    (lexeme.joins sign).toNat + joinCount (Postfix.signFollows (some lexeme)) rest

/-- **What lexemes bring:** their operands, less one for each operator that
joins two. -/
def operandSurplus (sign : Bool) (lexemes : List Lexeme) : Int :=
  operandCount lexemes - joinCount sign lexemes

theorem operandSurplus_cons (sign : Bool) (lexeme : Lexeme) (rest : List Lexeme) :
    operandSurplus sign (lexeme :: rest) =
      operandSurplus sign [lexeme] + operandSurplus (Postfix.signFollows (some lexeme)) rest := by
  simp only [operandSurplus, operandCount, joinCount, List.countP_cons, List.countP_nil]
  omega

@[simp] theorem operandSurplus_word (sign : Bool) (word : List Char) :
    operandSurplus sign [.word word] = 1 := rfl

@[simp] theorem operandSurplus_symbol (sign : Bool) (symbol : Symbol) :
    operandSurplus sign [.symbol symbol] = -((symbol.operator sign).isBinary.toNat : Int) := by
  simp [operandSurplus, operandCount, joinCount, Lexeme.joins]

/-! ## What stacks hold -/

/-- **An operator that is applied** makes one operand of two, if it joins
two, and keeps their number if it does not. -/
theorem Operator.length_of_apply_eq_ok {op : Operator} {operands left : List Float}
    (h : op.apply operands = .ok left) : left.length + op.isBinary.toNat = operands.length := by
  rcases Operator.apply_eq_ok h with
    ⟨f, a, b, v, rest, haction, -, rfl, rfl⟩ | ⟨f, a, rest, haction, rfl, rfl⟩
  · simp [isBinary, haction]
  · simp [isBinary, haction]

theorem Operator.countP_isBinary_cons (op : Operator) (ops : List Operator) :
    (op :: ops).countP Operator.isBinary =
      ops.countP Operator.isBinary + op.isBinary.toNat := by
  cases hop : op.isBinary with
  | true => rw [List.countP_cons_of_pos hop, Bool.toNat_true]
  | false => rw [List.countP_cons_of_neg (Bool.eq_false_iff.1 hop), Bool.toNat_false, Nat.add_zero]

/-- And so do operators that are applied one after the other. -/
theorem Applied.length_eq {ops : List Operator} {operands left : List Float}
    (h : Applied ops operands left) :
    left.length + ops.countP Operator.isBinary = operands.length := by
  induction h with
  | nil => rfl
  | @cons op ops operands next left happly _ ih =>
    have hfirst := Operator.length_of_apply_eq_ok happly
    have hcount := Operator.countP_isBinary_cons op ops
    omega

namespace Stacks

variable {s s' left : Stacks} {sign sign' : Bool}

/-- **What stacks will leave,** when all that is pending is applied: their
operands, less one for each pending operator that joins two. -/
def surplus (s : Stacks) : Int :=
  s.operands.length - s.operators.countP Operator.isBinary

theorem surplus_push (op : Operator) (s : Stacks) :
    surplus ⟨op :: s.operators, s.operands⟩ = s.surplus - op.isBinary.toNat := by
  have hcount := Operator.countP_isBinary_cons op s.operators
  simp only [surplus, hcount]
  omega

/-- **A reduction keeps it.** -/
theorem Reduced.surplus_eq {taken : List Operator} (h : s.Reduced taken left) :
    left.surplus = s.surplus := by
  have hlength := h.operands.length_eq
  rw [surplus, surplus, h.operators, List.countP_append]
  omega

/-- **A step adds what its lexeme brings,** and lets a sign follow where
the lexeme does. -/
theorem Taken.surplus_eq {lexeme : Lexeme} {after : Stacks × Bool}
    (h : s.Taken sign lexeme after) :
    after.1.surplus = s.surplus + operandSurplus sign [lexeme] ∧
      after.2 = Postfix.signFollows (some lexeme) := by
  cases h with
  | operand hvalue =>
    refine ⟨?_, rfl⟩
    rw [operandSurplus_word]
    simp only [surplus, List.length_cons]
    omega
  | openBracket =>
    have hbracket : (Symbol.openBracket.operator sign).isBinary = false := by
      cases sign <;> rfl
    refine ⟨?_, rfl⟩
    rw [operandSurplus_symbol, hbracket, surplus_push]
    rfl
  | @closeBracket taken below operands hreduced _ =>
    have hbracket : (Symbol.closeBracket.operator sign).isBinary = false := by
      cases sign <;> rfl
    have hpush : surplus ⟨.leftBracket :: below, operands⟩ = surplus ⟨below, operands⟩ := rfl
    refine ⟨?_, rfl⟩
    rw [operandSurplus_symbol, hbracket, ← hreduced.surplus_eq, hpush]
    exact (Int.add_zero _).symm
  | @operator symbol taken left hop hreduced =>
    have hfollows : Postfix.signFollows (some (.symbol symbol)) = true := by
      rcases Postfix.bracket_or_operator symbol with rfl | rfl | ⟨hfollows, -⟩
      · rfl
      · cases sign <;> exact absurd hop (by decide)
      · exact hfollows
    refine ⟨?_, hfollows.symm⟩
    rw [operandSurplus_symbol, surplus_push, hreduced.surplus_eq]
    rfl

/-- **A run adds what its lexemes bring.** -/
theorem surplus_run {lexemes : List Lexeme} (h : s.run sign lexemes = .ok (s', sign')) :
    s'.surplus = s.surplus + operandSurplus sign lexemes := by
  -- the sign that a step lets follow is the one the count goes on with
  induction lexemes generalizing s sign with
  | nil =>
    cases h
    exact (Int.add_zero _).symm
  | cons lexeme rest ih =>
    obtain ⟨⟨s₁, sign₁⟩, hstep, hrest⟩ := bind_eq_ok_iff.1 h
    obtain ⟨hfirst, hsign⟩ := ((s.step_reduces lexeme sign).of_ok hstep).surplus_eq
    have hlater := ih hrest
    rw [operandSurplus_cons]
    simp only at hfirst hsign
    rw [hsign] at hlater
    omega

end Stacks

/-! ## Whole expressions -/

open Stacks

/-- **An expression is read through** where no step fails, and no reduction
at the end does. -/
def ReadsThrough (expression : String) : Prop :=
  ∃ s sign left, Stacks.run {} true (tokenize expression) = .ok (s, sign) ∧
    s.reduceToBracket = .ok left

/-- One that is read through leaves a bracket that is open, if there is
one; and if there is none, its surplus is the number of operands left. -/
theorem evaluate_of_readsThrough {expression : String} (h : ReadsThrough expression) :
    0 < depth (tokenize expression) ∧ evaluate expression = .error .unclosedBracket ∨
      depth (tokenize expression) = 0 ∧ ∃ operands : List Float,
        operandSurplus true (tokenize expression) = operands.length ∧
          evaluate expression = Postfix.Code.single operands := by
  obtain ⟨s, sign, ⟨operators, operands⟩, hrun, hreduce⟩ := h
  obtain ⟨⟨taken, hreduced, -⟩, hstop⟩ := s.reduceToBracket_reduces.of_ok hreduce
  obtain ⟨hopened, -⟩ := s.reduceToBracket_ends.of_ok hreduce
  have hdepth := opened_run hrun
  have hsurplus := surplus_run hrun
  have hkept := hreduced.surplus_eq
  have hempty : opened {} = 0 ∧ surplus {} = 0 := ⟨rfl, rfl⟩
  rcases hstop with rfl | ⟨below, rfl⟩
  · have hnone : opened ⟨[], operands⟩ = 0 := rfl
    have hlength : surplus ⟨[], operands⟩ = operands.length := Int.sub_zero _
    refine Or.inr ⟨by omega, operands, by omega, ?_⟩
    simp only [evaluate, evaluateLexemes, hrun, ok_bind, finish, hreduce]
    rcases operands with _ | ⟨_, _ | ⟨_, _⟩⟩
    · rfl
    · rfl
    · rfl
  · have hone : 0 < opened ⟨.leftBracket :: below, operands⟩ := by
      rw [opened, List.count_cons_self]
      omega
    refine Or.inl ⟨by omega, ?_⟩
    simp only [evaluate, evaluateLexemes, hrun, ok_bind, finish, hreduce]

/-- **No operand is lost, and no operator is applied twice.** After any run
from empty stacks the operands on the stack are those that were read, less
one for each operator that was read and joins two, and one more for each of
these that is pending. And an expression that is read through is refused
for a bracket that is left open, if there is one. If there is none, it has
a value exactly where its operands are one more than its operators that
join two; else the message tells by how many. -/
theorem evaluate_conserves_operands :
    (∀ sign lexemes s sign', Stacks.run {} sign lexemes = .ok (s, sign') →
      (s.operands.length : Int) = operandCount lexemes - joinCount sign lexemes +
        s.operators.countP Operator.isBinary) ∧
      ∀ expression, ReadsThrough expression →
        let difference : Int :=
          operandCount (tokenize expression) - joinCount true (tokenize expression)
        (0 < depth (tokenize expression) → evaluate expression = .error .unclosedBracket) ∧
          (¬ 0 < depth (tokenize expression) →
            ((∃ v, evaluate expression = .ok v) ↔ difference = 1) ∧
              (difference ≠ 1 → ∃ count : Nat, count = difference ∧
                evaluate expression = .error (.malformedExpression count))) := by
  refine ⟨fun sign lexemes s sign' hrun => ?_, fun expression hreads => ?_⟩
  · have hsurplus := surplus_run hrun
    have hempty : surplus {} = 0 := rfl
    rw [surplus, operandSurplus] at hsurplus
    omega
  · rcases evaluate_of_readsThrough hreads with
      ⟨hopen, hfault⟩ | ⟨hclosed, operands, hsurplus, houtcome⟩
    · exact ⟨fun _ => hfault, fun hnone => absurd hopen hnone⟩
    · refine ⟨fun hopen => absurd hopen (by omega), fun _ => ?_⟩
      rw [operandSurplus] at hsurplus
      rw [houtcome]
      match operands with
      | [v] => exact ⟨⟨fun _ => hsurplus, fun _ => ⟨v, rfl⟩⟩, fun hne => absurd hsurplus hne⟩
      | [] =>
        refine ⟨⟨?_, fun hone => ?_⟩, fun _ => ⟨0, hsurplus.symm, rfl⟩⟩
        · rintro ⟨v, hv⟩
          cases hv
        · cases hsurplus.symm.trans hone
      | a :: b :: rest =>
        refine ⟨⟨?_, fun hone => ?_⟩, fun _ => ⟨_, hsurplus.symm, rfl⟩⟩
        · rintro ⟨v, hv⟩
          cases hv
        · rw [hsurplus, List.length_cons, List.length_cons] at hone
          omega

/-- A product behind a sign, up to its second operand in a bracket; and
three operands with one product among them. -/
theorem evaluate_conserves_operands_product :
    Stacks.run {} true (tokenize "-pi*(e") =
        .ok (⟨[.leftBracket, .multiply], [2.718281828459045, -3.141592653589793]⟩, false) ∧
      operandCount (tokenize "-pi*(e") = 2 ∧ joinCount true (tokenize "-pi*(e") = 1 ∧
      ReadsThrough "pi e*e" ∧ evaluate "pi e*e" = .error (.malformedExpression 2) := by
  obtain ⟨hkept, hends⟩ := evaluate_conserves_operands
  have hrun : Stacks.run {} true (tokenize "-pi*(e") =
      .ok (⟨[.leftBracket, .multiply], [2.718281828459045, -3.141592653589793]⟩, false) := by rfl
  have hoperands : operandCount (tokenize "-pi*(e") = 2 := by rfl
  -- the count of operators that join two comes from what is on the stacks
  have hlength := hkept true _ _ _ hrun
  have hpending : ([.leftBracket, .multiply] : List Operator).countP Operator.isBinary = 1 := by rfl
  rw [hoperands, hpending] at hlength
  simp only [List.length_cons, List.length_nil] at hlength
  have hreads : ReadsThrough "pi e*e" := ⟨_, _, _, rfl, rfl⟩
  obtain ⟨-, hclosed⟩ := hends "pi e*e" hreads
  obtain ⟨count, hcount, hfault⟩ := (hclosed (by decide)).2 (by decide)
  have htwo : count = 2 := Int.ofNat_inj.1 hcount
  rw [htwo] at hfault
  exact ⟨hrun, hoperands, by omega, hreads, hfault⟩

/-- **A bracket left open is no reduction that fails.** An expression can be
read through, with one operand and no operator, and still have no value. -/
theorem readsThrough_unclosed :
    ReadsThrough "(pi" ∧
      (operandCount (tokenize "(pi") : Int) - joinCount true (tokenize "(pi") = 1 ∧
      ¬ (∃ v, evaluate "(pi" = .ok v) ∧ evaluate "(pi" = .error .unclosedBracket := by
  have hfault : evaluate "(pi" = .error .unclosedBracket := by rfl
  refine ⟨⟨_, _, _, rfl, rfl⟩, by decide, ?_, hfault⟩
  rintro ⟨v, hv⟩
  cases hfault.symm.trans hv

end Reckoner
