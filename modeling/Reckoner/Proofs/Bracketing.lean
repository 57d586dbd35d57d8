import Reckoner.Proofs.Postfix
import Reckoner.Proofs.Running
import Reckoner.Proofs.Splitting
/-!
# Expressions in brackets

An expression in brackets is an operand. Between the brackets the
evaluator does what it does with the expression alone: no reduction takes
the opening bracket off the stack, so none comes to an operator below it
(`reduceOn_inside`), and an operation that succeeds does not look at the
operands below its own (`apply_append`). The closing bracket then applies
what the end would have applied (`closeBracket_inside_of_finish`).

Failures are carried over less well. A closing bracket too many finds the
one outside, and an operator that lacks an operand finds one below. So a
failure is the same in brackets where it is not one of brackets and
nothing is below.
-/

namespace Reckoner

namespace Stacks

/-- **Stacks inside a bracket** that has been opened on others. -/
def inside (s outer : Stacks) : Stacks :=
  ⟨s.operators ++ .leftBracket :: outer.operators, s.operands ++ outer.operands⟩

/-- **A computation is carried inside a bracket:** if it succeeds, so it
does there, and `up` says with what; if it fails, it fails with the same
fault, unless that is one of brackets, or there are operands below. -/
def Carried {α : Type} (outer : Stacks) (up : α → α) (alone within : Except Failure α) : Prop :=
  Ends alone (fun a => within = .ok (up a)) fun failure =>
    failure.fault.kind? ≠ some .mismatchedBrackets → outer.operands = [] →
      Failure.forget within = .error failure.fault

namespace Carried

variable {α β : Type} {outer : Stacks} {up : α → α} {x y : Except Failure α}

theorem eq_ok (h : Carried outer up x y) {a : α} (hx : x = .ok a) : y = .ok (up a) := by
  rw [hx] at h
  exact h

theorem forget_eq_error (h : Carried outer up x y) {failure : Failure}
    (hx : x = .error failure) (hkind : failure.fault.kind? ≠ some .mismatchedBrackets)
    (hempty : outer.operands = []) : Failure.forget y = .error failure.fault := by
  rw [hx] at h
  exact h hkind hempty

/-- A computation in two parts is carried if both are. -/
theorem bind {up' : β → β} {f g : α → Except Failure β} (h : Carried outer up x y)
    (hf : ∀ a, Carried outer up' (f a) (g (up a))) :
    Carried outer up' (x >>= f) (y >>= g) := by
  cases x with
  | ok a =>
    rw [h.eq_ok rfl]
    exact hf a
  | error failure =>
    intro hkind hempty
    rw [Failure.forget_bind, h.forget_eq_error rfl hkind hempty]
    rfl

end Carried

/-! ## Reductions -/

/-- An operator that has its operands does not look below them. -/
theorem apply_append {op : Operator} {operands left : List Float}
    (h : op.apply operands = .ok left) (below : List Float) :
    op.apply (operands ++ below) = .ok (left ++ below) := by
  rcases Operator.apply_eq_ok h with
    ⟨f, a, b, v, rest, haction, hf, rfl, rfl⟩ | ⟨f, a, rest, haction, rfl, rfl⟩
  · simp only [Operator.apply, haction, List.cons_append, hf]
  · simp only [Operator.apply, haction, List.cons_append]

/-- One operator off the stack. -/
theorem reduce_inside (op : Operator) (s outer : Stacks) :
    Carried outer (inside · outer) (reduce op s) (reduce op (s.inside outer)) := by
  simp only [reduce, inside]
  cases happly : op.apply s.operands with
  | ok left =>
    rw [apply_append happly]
    exact rfl
  | error e =>
    -- with no operands below, it is applied to the very same ones
    intro _ hempty
    rw [hempty, List.append_nil, happly]
    rfl

/-- **A reduction that stops at brackets** does not reach across one. -/
theorem reduceOn_inside {p : Operator → Bool} (hp : p .leftBracket = false) (ops : List Operator)
    (operands : List Float) (outer : Stacks) :
    Carried outer (inside · outer) (reduceOn p ops operands)
      (reduceOn p (ops ++ .leftBracket :: outer.operators) (operands ++ outer.operands)) := by
  induction ops generalizing operands with
  | nil =>
    have hstop : ¬ p .leftBracket = true := by rw [hp]; exact Bool.false_ne_true
    rw [List.nil_append, reduceOn, reduceOn, if_neg hstop]
    exact rfl
  | cons op below ih =>
    by_cases hop : p op = true
    · rw [List.cons_append, reduceOn, reduceOn, if_pos hop, if_pos hop]
      exact (reduce_inside op ⟨below, operands⟩ outer).bind fun s => ih s.operands
    · rw [List.cons_append, reduceOn, reduceOn, if_neg hop, if_neg hop]
      exact rfl

theorem reduceToBracket_inside (s outer : Stacks) :
    Carried outer (inside · outer) s.reduceToBracket (s.inside outer).reduceToBracket :=
  reduceOn_inside rfl s.operators s.operands outer

/-! ## Steps -/

/-- Closing a bracket that is open inside. -/
theorem closeBracket_inside (s outer : Stacks) :
    Carried outer (inside · outer) s.closeBracket (s.inside outer).closeBracket := by
  refine (s.reduceToBracket_inside outer).bind ?_
  rintro ⟨operators, operands⟩
  cases operators with
  | nil => exact fun hkind => absurd rfl hkind
  | cons op below => exact rfl

/-- Pushing an operator. -/
theorem pushOperator_inside {op : Operator} (hop : 0 ≤ op.precedence) (s outer : Stacks) :
    Carried outer (inside · outer) (s.pushOperator op) ((s.inside outer).pushOperator op) := by
  have hstay : decide (op.precedence ≤ Operator.leftBracket.precedence) = false :=
    decide_eq_false (Operator.not_precedence_le_leftBracket hop)
  have hreduce := @reduceOn_inside (fun top => op.precedence ≤ top.precedence) hstay
    s.operators s.operands outer
  exact hreduce.bind fun s => rfl

/-- The stacks inside a bracket, with the sign as it is. -/
def insideStep (outer : Stacks) (after : Stacks × Bool) : Stacks × Bool :=
  (after.1.inside outer, after.2)

open Postfix in
/-- **A step.** -/
theorem step_inside (s outer : Stacks) (lexeme : Lexeme) (sign : Bool) :
    Carried outer (insideStep outer) (s.step lexeme sign) ((s.inside outer).step lexeme sign) := by
  rcases lexeme with symbol | word
  · rcases bracket_or_operator symbol with rfl | rfl | ⟨-, hop⟩
    · rw [step_openBracket, step_openBracket]
      exact rfl
    · rw [step_closeBracket, step_closeBracket]
      exact (s.closeBracket_inside outer).bind fun s => rfl
    · rw [step_operator s (hop sign), step_operator _ (hop sign)]
      exact (pushOperator_inside (hop sign) s outer).bind fun s => rfl
  · simp only [step]
    cases Operand.value word with
    | ok v => exact rfl
    | error fault => exact fun _ _ => rfl

/-- **A run.** -/
theorem run_inside (s outer : Stacks) (sign : Bool) (lexemes : List Lexeme) :
    Carried outer (insideStep outer) (s.run sign lexemes) ((s.inside outer).run sign lexemes) := by
  induction lexemes generalizing s sign with
  | nil => exact rfl
  | cons lexeme rest ih =>
    rw [run, run]
    exact (s.step_inside outer lexeme sign).bind fun after => ih after.1 after.2

/-! ## The bracket that closes -/

/-- **Where the end comes to a value,** so does a closing bracket, and
leaves it on top of what is outside. -/
theorem closeBracket_inside_of_finish {s left : Stacks} {v : Float}
    (h : s.finish = .ok (v, left)) (outer : Stacks) :
    (s.inside outer).closeBracket = .ok ⟨outer.operators, v :: outer.operands⟩ := by
  obtain ⟨hreduce, -⟩ := finish_eq_ok_iff.1 h
  rw [closeBracket, (s.reduceToBracket_inside outer).eq_ok hreduce]
  rfl

/-- **Where it fails,** but not for a bracket that is open, the end that
follows a closing bracket fails with the same fault. -/
theorem forget_finish_inside {s : Stacks} {failure : Failure} (h : s.finish = .error failure)
    (hkind : failure.fault.kind? ≠ some .mismatchedBrackets) :
    Failure.forget ((s.inside {}).closeBracket >>= finish) = .error failure.fault := by
  rcases bind_eq_error_iff.1 h with hreduce | ⟨⟨operators, operands⟩, hreduce, hmatch⟩
  · have hinside := (s.reduceToBracket_inside {}).forget_eq_error hreduce hkind rfl
    rw [closeBracket, bind_assoc, Failure.forget_bind, hinside]
    rfl
  · have hinside := (s.reduceToBracket_inside {}).eq_ok hreduce
    rw [closeBracket, hinside]
    cases operators with
    | cons op below =>
      cases hmatch
      exact absurd rfl hkind
    | nil =>
      rcases operands with _ | ⟨a, _ | ⟨b, rest⟩⟩
      · cases hmatch
        rfl
      · cases hmatch
      · cases hmatch
        simp [inside, finish, reduceToBracket, reduceWhile, reduceOn]

/-- **A run over lexemes in brackets** is one inside a bracket, and the
bracket that closes. -/
theorem run_bracketed (s : Stacks) (sign : Bool) (lexemes : List Lexeme) :
    s.run sign (.symbol .openBracket :: (lexemes ++ [.symbol .closeBracket])) =
      (({} : Stacks).inside s).run true lexemes >>= fun after =>
        after.1.closeBracket >>= fun s' => .ok (s', false) := by
  rw [run, Postfix.step_openBracket, ok_bind]
  change (({} : Stacks).inside s).run true _ = _
  rw [run_append]
  refine bind_congr fun after => ?_
  exact (run_singleton after.1 after.2 _).trans (Postfix.step_closeBracket after.1 after.2)

/-- **An expression with a value, in brackets,** leaves that value on any
stacks, and nothing else. -/
theorem run_bracketed_of_evaluate {expression : String} {v : Float}
    (h : evaluate expression = .ok v) (s : Stacks) (sign : Bool) :
    s.run sign (.symbol .openBracket :: (tokenize expression ++ [.symbol .closeBracket])) =
      .ok (⟨s.operators, v :: s.operands⟩, false) := by
  obtain ⟨s', sign', left, hrun, hfinish⟩ := evaluate_eq_ok_iff.1 h
  have hinside : (({} : Stacks).inside s).run true (tokenize expression) =
      .ok (s'.inside s, sign') := (run_inside {} s true _).eq_ok hrun
  have hclose := closeBracket_inside_of_finish hfinish s
  rw [run_bracketed, hinside, ok_bind]
  exact congrArg (· >>= fun s' => .ok (s', false)) hclose

end Stacks

open Stacks

/-- The evaluation of an expression in brackets is a run inside them, the
closing bracket and the end. -/
theorem evaluate_bracketed_eq_forget (expression : String) :
    evaluate ("(" ++ expression ++ ")") =
      (Failure.forget ((({} : Stacks).inside {}).run true (tokenize expression) >>=
        fun after => after.1.closeBracket >>= finish)).map Prod.fst := by
  rw [evaluate_eq_forget, tokenize_bracketed, evaluateLexemes, run_bracketed, bind_assoc]
  simp only [bind_assoc, ok_bind]

/-- **Brackets are transparent.** An expression with a value, in brackets,
is taken in as an operand of that value is, on any stacks and wherever it
stands: it leaves the value on top, the operators as they were, and no
sign may follow. And an expression that is not refused for its brackets
has the same value in brackets, or the same fault. -/
theorem evaluate_bracketed (expression : String) :
    (∀ v, evaluate expression = .ok v → ∀ (s : Stacks) (sign : Bool),
      let bracketed := .symbol .openBracket :: (tokenize expression ++ [.symbol .closeBracket])
      s.run sign bracketed = .ok (⟨s.operators, v :: s.operands⟩, false) ∧
        ∀ word, Operand.value word = .ok v → s.run sign bracketed = s.run sign [.word word]) ∧
      ((∀ fault, evaluate expression = .error fault → fault.kind? ≠ some .mismatchedBrackets) →
        evaluate ("(" ++ expression ++ ")") = evaluate expression) := by
  constructor
  · intro v hv s sign
    have hrun := run_bracketed_of_evaluate hv s sign
    refine ⟨hrun, fun word hword => ?_⟩
    rw [hrun, run_singleton, step, hword]
  · intro hkind
    cases hvalue : evaluate expression with
    | ok v =>
      have hrun := run_bracketed_of_evaluate hvalue {} true
      rw [evaluate_eq_ok_iff, tokenize_bracketed]
      exact ⟨_, _, _, hrun, rfl⟩
    | error fault =>
      have hmatched := hkind fault hvalue
      obtain ⟨failure, rfl, hrun | ⟨s, sign, hrun, hfinish⟩⟩ := evaluate_eq_error_iff.1 hvalue
      · have hinside := (run_inside {} {} true _).forget_eq_error hrun hmatched rfl
        rw [evaluate_bracketed_eq_forget, Failure.forget_bind, hinside]
        rfl
      · have hinside := (run_inside {} {} true _).eq_ok hrun
        have hfinal := forget_finish_inside hfinish hmatched
        rw [evaluate_bracketed_eq_forget, hinside]
        exact congrArg (Except.map Prod.fst) hfinal

/-- A sign on the circle constant, alone, in brackets behind a product, and
in brackets alone. -/
theorem evaluate_bracketed_sign :
    evaluate "-pi" = .ok (-3.141592653589793) ∧
      Stacks.run ⟨[.multiply], [5]⟩ true
          (.symbol .openBracket :: (tokenize "-pi" ++ [.symbol .closeBracket])) =
        .ok (⟨[.multiply], [-3.141592653589793, 5]⟩, false) ∧
      evaluate "(-pi)" = .ok (-3.141592653589793) := by
  have hvalue : evaluate "-pi" = .ok (-3.141592653589793) := by rfl
  obtain ⟨hrun, houtcome⟩ := evaluate_bracketed "-pi"
  refine ⟨hvalue, (hrun _ hvalue ⟨[.multiply], [5]⟩ true).1, ?_⟩
  rw [← hvalue]
  refine houtcome fun fault hfault => ?_
  rw [hvalue] at hfault
  cases hfault

end Reckoner
