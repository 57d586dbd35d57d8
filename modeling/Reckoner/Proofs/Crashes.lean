import Reckoner.Proofs.Faults
import Reckoner.Proofs.Numerals
import Reckoner.Proofs.Running
/-!
# Primitives that crash

The operations an evaluation is made of are partial: a stack can be popped
only if something is on it, a bracket cannot be applied, no double is
divided by zero, and not every word is read as a number. `Primitive` lays
the evaluation out in operations that crash there, with the guards that
stand in front of them. Each of its parts does on any stacks what the part
of the evaluation does that it lays out (`apply_eq`, `reduceWhile_eq`, up
to `evaluate_eq`), so the guards are good, and one crash is left that has
none: a bracket is applied if one comes to be reduced. No expression comes
to that (`evaluate_value_or_fault`).
-/

namespace Reckoner

/-- A primitive operation that has no result. -/
inductive Crash where
  /-- Something was taken from an empty stack. -/
  | emptyStack
  /-- A bracket was applied. -/
  | bracketApplied
  /-- A double was divided by zero. -/
  | divisionByZero
  /-- There is no real power. -/
  | undefinedPower
  /-- A power lies beyond the range. -/
  | powerOverflow
  /-- A word does not read as a number. -/
  | noNumber

/-- **What an evaluation stops at:** a fault that is told, or a crash. -/
inductive Stop where
  | fault (fault : Fault)
  | crash (crash : Crash)

namespace Stop

/-- A fault that comes of misusing the stacks is a crash. -/
def ofFault : Fault → Stop
  | .bracketApplied _ => crash .bracketApplied
  | .nothingPending => crash .emptyStack
  | other => fault other

/-- A fault of an expression is no crash. -/
theorem ofFault_of_kind {f : Fault} {kind : FaultKind} (h : f.kind? = some kind) :
    ofFault f = fault f := by
  cases f with
  | bracketApplied => cases h
  | nothingPending => cases h
  | _ => rfl

/-- A failed operation, as what it stops at. -/
def seen {α : Type} (x : Except Failure α) : Except Stop α :=
  x.mapError fun failure => ofFault failure.fault

theorem seen_bind {α β : Type} (x : Except Failure α) (f : α → Except Failure β) :
    seen (x >>= f) = seen x >>= fun a => seen (f a) := by
  cases x <;> rfl

end Stop

open Stop

namespace Primitive

/-! ## Operations that crash -/

/-- Takes the top off a stack. -/
def pop {α : Type} : List α → Except Stop (α × List α)
  | [] => .error (.crash .emptyStack)
  | a :: below => .ok (a, below)

/-- Divides doubles. -/
def divide (a b : Float) : Except Stop Float :=
  if (Number.shape b).isZero then .error (.crash .divisionByZero) else .ok (a / b)

/-- Raises a double to a power. -/
def power (a b : Float) : Except Stop Float :=
  match Power.of a b with
  | .value r => .ok r
  | .undefined => .error (.crash .undefinedPower)
  | .overflow => .error (.crash .powerOverflow)

/-- Reads a word as a number. -/
def number (word : List Char) : Except Stop Float :=
  match Number.ofText? word with
  | some x => .ok x
  | none => .error (.crash .noNumber)

/-! ## The evaluation laid out in them -/

/-- The value of an operand. -/
def operand (word : List Char) : Except Stop Float :=
  match Operand.constant? word with
  | some x => .ok x
  | none =>
    if (Number.numeral? Number.unsignedExponent? word).isSome then number word
    else .error (.fault (.invalidOperand word))

/-- The quotient of two operands. -/
def quotient (a b : Float) : Except Stop Float :=
  if (Number.shape b).isZero then .error (.fault .divisionByZero) else divide a b

/-- The power of two operands, with its crashes caught. -/
def raise (a b : Float) : Except Stop Float :=
  if (Number.shape a).isZero && (Number.shape b).isNegative then
    .error (.fault .zeroToNegativePower)
  else
    match power a b with
    | .ok r => .ok r
    | .error (.crash .undefinedPower) => .error (.fault (.negativeToFractionalPower a b))
    | .error (.crash .powerOverflow) =>
      .ok (Number.infinity ((Number.shape a).isNegative && (Number.shape b).isOdd))
    | .error other => .error other

/-- The functions of two operands. -/
def binary? : Operator → Option (Float → Float → Except Stop Float)
  | .add => some fun a b => .ok (a + b)
  | .subtract => some fun a b => .ok (a - b)
  | .multiply => some fun a b => .ok (a * b)
  | .divide => some quotient
  | .power => some raise
  | _ => none

/-- The functions of one operand. -/
def unary? : Operator → Option (Float → Float)
  | .unaryPlus => some id
  | .unaryMinus => some (-·)
  | _ => none

/-- Applies an operator. -/
def apply (op : Operator) (operands : List Float) : Except Stop (List Float) :=
  if operands.length < op.arity then .error (.fault (.insufficientOperands op))
  else
    match binary? op, unary? op with
    | some f, _ => do
      let (b, operands) ← pop operands
      let (a, operands) ← pop operands
      let v ← f a b
      return v :: operands
    | none, some f => do
      let (a, operands) ← pop operands
      return f a :: operands
    | none, none => .error (.crash .bracketApplied)

/-- Takes the top operator off and applies it. -/
def reduceTop (s : Stacks) : Except Stop Stacks := do
  let (op, below) ← pop s.operators
  let operands ← apply op s.operands
  return ⟨below, operands⟩

/-- A reduction leaves fewer operators. -/
theorem length_operators_reduceTop {s s' : Stacks} (h : reduceTop s = .ok s') :
    s'.operators.length < s.operators.length := by
  obtain ⟨operators, operands⟩ := s
  cases operators with
  | nil => cases h
  | cons op below =>
    rw [reduceTop, pop, ok_bind] at h
    obtain ⟨left, -, hleft⟩ := bind_eq_ok_iff.1 h
    cases hleft
    exact Nat.lt_succ_self _

/-- **Reduces while** there is an operator and `p` holds of the top one. -/
def reduceWhile (p : Operator → Bool) (s : Stacks) : Except Stop Stacks :=
  if s.operators.isEmpty then .ok s
  else
    match pop s.operators with
    | .error stop => .error stop
    | .ok (top, _) =>
      if p top then
        match _h : reduceTop s with
        | .error stop => .error stop
        | .ok s' => reduceWhile p s'
      else .ok s
termination_by s.operators.length
decreasing_by exact length_operators_reduceTop _h

/-- Closes a bracket. -/
def closeBracket (s : Stacks) : Except Stop Stacks := do
  let s ← reduceWhile (· ≠ .leftBracket) s
  if s.operators.isEmpty then .error (.fault .unmatchedBracket)
  else
    let (_, below) ← pop s.operators
    return ⟨below, s.operands⟩

/-- Pushes an operator. -/
def pushOperator (op : Operator) (s : Stacks) : Except Stop Stacks := do
  let s ← reduceWhile (fun top => op.precedence ≤ top.precedence) s
  return ⟨op :: s.operators, s.operands⟩

/-- Ends an evaluation. -/
def finish (s : Stacks) : Except Stop (Float × Stacks) := do
  let s ← reduceWhile (· ≠ .leftBracket) s
  if !s.operators.isEmpty then .error (.fault .unclosedBracket)
  else if s.operands.length ≠ 1 then .error (.fault (.malformedExpression s.operands.length))
  else
    let (v, _) ← pop s.operands
    return (v, s)

/-- Takes in one lexeme. -/
def step (s : Stacks) (lexeme : Lexeme) (unaryContext : Bool) : Except Stop (Stacks × Bool) :=
  match lexeme with
  | .word word => do
    let v ← operand word
    return (⟨s.operators, v :: s.operands⟩, false)
  | .symbol symbol =>
    match symbol.operator unaryContext with
    | .leftBracket => .ok (⟨.leftBracket :: s.operators, s.operands⟩, true)
    | .rightBracket => return (← closeBracket s, false)
    | op => return (← pushOperator op s, true)

/-- Takes in lexemes one after the other. -/
def run (s : Stacks) (unaryContext : Bool) : List Lexeme → Except Stop (Stacks × Bool)
  | [] => .ok (s, unaryContext)
  | lexeme :: rest => do
    let (s, unaryContext) ← step s lexeme unaryContext
    run s unaryContext rest

/-- **Evaluates an expression,** and says what the stacks hold at the
end. -/
def evaluate (expression : String) : Except Stop (Float × Stacks) := do
  let (s, _) ← run {} true (tokenize expression)
  finish s

/-! ## Operands -/

/-- **What is accepted as a numeral reads as a number,** of the same
value. -/
theorem number_eq_of_numeral {word : List Char} {d : Number.Decimal}
    (h : Number.numeral? Number.unsignedExponent? word = some d) :
    number word = .ok d.toFloat := by
  rw [number, Number.ofText?_of_numeral h]

/-- **An operand** reads as it does, or is told to be none. -/
theorem operand_eq (word : List Char) :
    operand word = (Operand.value word).mapError ofFault := by
  unfold operand Operand.value
  cases Operand.constant? word with
  | some x => rfl
  | none =>
    cases hnumeral : Number.numeral? Number.unsignedExponent? word with
    | none => rfl
    | some d => exact number_eq_of_numeral hnumeral

/-! ## Applying an operator -/

/-- A division is guarded. -/
theorem quotient_eq (a b : Float) : quotient a b = (Operator.quotient a b).mapError ofFault := by
  unfold quotient divide Operator.quotient
  cases (Number.shape b).isZero <;> rfl

/-- The crashes of a power are caught. -/
theorem raise_eq (a b : Float) : raise a b = (Power.raise a b).mapError ofFault := by
  simp only [raise, power, Power.raise, Power.raiseWith]
  by_cases hzero : ((Number.shape a).isZero && (Number.shape b).isNegative) = true
  · rw [if_pos hzero, if_pos hzero]
    rfl
  · rw [if_neg hzero, if_neg hzero]
    cases Power.of a b <;> rfl

/-- An operator of two operands has a function of two. -/
theorem binary?_of_action {op : Operator} {f : Float → Float → Except Fault Float}
    (h : op.action = .binary f) :
    op.arity = 2 ∧ ∃ g, binary? op = some g ∧ ∀ a b, g a b = (f a b).mapError ofFault := by
  cases op <;> cases h
  · exact ⟨rfl, _, rfl, fun _ _ => rfl⟩
  · exact ⟨rfl, _, rfl, fun _ _ => rfl⟩
  · exact ⟨rfl, _, rfl, fun _ _ => rfl⟩
  · exact ⟨rfl, _, rfl, quotient_eq⟩
  · exact ⟨rfl, _, rfl, raise_eq⟩

/-- One of a single operand has a function of one. -/
theorem unary?_of_action {op : Operator} {f : Float → Float} (h : op.action = .unary f) :
    op.arity = 1 ∧ binary? op = none ∧ unary? op = some f := by
  cases op <;> cases h <;> exact ⟨rfl, rfl, rfl⟩

/-- A bracket has none. -/
theorem arity_of_action {op : Operator} (h : op.action = .boundary) :
    op.arity = 0 ∧ binary? op = none ∧ unary? op = none := by
  cases op <;> cases h <;> exact ⟨rfl, rfl, rfl⟩

/-- **Applying an operator** never takes an operand that is not there. -/
theorem apply_eq (op : Operator) (operands : List Float) :
    apply op operands = (op.apply operands).mapError fun e => ofFault e.1 := by
  unfold apply Operator.apply
  cases haction : op.action with
  | binary f =>
    obtain ⟨harity, g, hg, hvalue⟩ := binary?_of_action haction
    rw [harity, hg]
    match operands with
    | [] => rfl
    | [_] => rfl
    | b :: a :: rest =>
      -- past the check of the arity there is something for either pop
      rw [if_neg (by simp)]
      simp only [pop, ok_bind, hvalue]
      cases f a b <;> rfl
  | unary f =>
    obtain ⟨harity, hnone, hf⟩ := unary?_of_action haction
    rw [harity, hnone, hf]
    match operands with
    | [] => rfl
    | a :: rest =>
      rw [if_neg (by simp)]
      rfl
  | boundary =>
    obtain ⟨harity, hnone, hnone'⟩ := arity_of_action haction
    rw [harity, hnone, hnone', if_neg (Nat.not_lt_zero _)]
    rfl

/-! ## Reductions -/

/-- **One reduction.** The loops do not come to one with no operator, where
it crashes. -/
theorem reduceTop_eq (s : Stacks) : reduceTop s = seen s.reduceTop := by
  obtain ⟨operators, operands⟩ := s
  cases operators with
  | nil => rfl
  | cons op below =>
    have happly := apply_eq op operands
    simp only [reduceTop, pop, ok_bind, happly, Stacks.reduceTop, Stacks.reduce]
    cases op.apply operands <;> rfl

theorem reduceWhile_nil (p : Operator → Bool) (operands : List Float) :
    reduceWhile p ⟨[], operands⟩ = .ok ⟨[], operands⟩ := by
  rw [reduceWhile]
  rfl

/-- A round of the loop. -/
theorem reduceWhile_cons (p : Operator → Bool) (op : Operator) (below : List Operator)
    (operands : List Float) :
    reduceWhile p ⟨op :: below, operands⟩ =
      if p op then reduceTop ⟨op :: below, operands⟩ >>= reduceWhile p
      else .ok ⟨op :: below, operands⟩ := by
  rw [reduceWhile]
  simp only [List.isEmpty_cons, pop]
  by_cases hop : p op = true
  · rw [if_pos hop, if_pos hop, if_neg Bool.false_ne_true]
    split
    · rename_i hstop
      rw [hstop]
      rfl
    · rename_i hleft
      rw [hleft]
      rfl
  · rw [if_neg hop, if_neg hop]
    rfl

/-- **A loop of reductions** never looks at an empty stack. -/
theorem reduceWhile_eq (p : Operator → Bool) (s : Stacks) :
    reduceWhile p s = seen (s.reduceWhile p) := by
  -- the loop ends by the number of operators, and the recursion goes down their list
  obtain ⟨ops, operands⟩ := s
  change _ = seen (Stacks.reduceOn p ops operands)
  induction ops generalizing operands with
  | nil => exact reduceWhile_nil p operands
  | cons op below ih =>
    rw [reduceWhile_cons, Stacks.reduceOn]
    by_cases hop : p op = true
    · have htop : reduceTop ⟨op :: below, operands⟩ = seen (Stacks.reduce op ⟨below, operands⟩) :=
        reduceTop_eq _
      rw [if_pos hop, if_pos hop, seen_bind, htop, Stacks.reduce]
      cases op.apply operands with
      | ok left => exact ih left
      | error e => rfl
    · rw [if_neg hop, if_neg hop]
      rfl

/-! ## Steps and runs -/

theorem closeBracket_eq (s : Stacks) : closeBracket s = seen s.closeBracket := by
  rw [closeBracket, Stacks.closeBracket, seen_bind, reduceWhile_eq]
  refine bind_congr fun left => ?_
  obtain ⟨operators, operands⟩ := left
  cases operators <;> rfl

theorem pushOperator_eq (op : Operator) (s : Stacks) :
    pushOperator op s = seen (s.pushOperator op) := by
  rw [pushOperator, Stacks.pushOperator, seen_bind, reduceWhile_eq]
  rfl

/-- **The end** takes a value that is there. -/
theorem finish_eq (s : Stacks) : finish s = seen s.finish := by
  rw [finish, Stacks.finish, seen_bind, reduceWhile_eq]
  refine bind_congr fun left => ?_
  obtain ⟨operators, operands⟩ := left
  cases operators with
  | cons op below => rfl
  | nil =>
    rcases operands with _ | ⟨b, _ | ⟨a, rest⟩⟩
    · rfl
    · rfl
    · have hlength : (b :: a :: rest).length ≠ 1 := by simp
      exact (if_neg Bool.false_ne_true).trans (if_pos hlength)

/-- **A step.** -/
theorem step_eq (s : Stacks) (lexeme : Lexeme) (sign : Bool) :
    step s lexeme sign = seen (s.step lexeme sign) := by
  cases lexeme with
  | word word =>
    rw [step, Stacks.step, operand_eq]
    cases Operand.value word with
    | ok v => rfl
    | error fault => rfl
  | symbol symbol =>
    rw [step, Stacks.step]
    cases symbol.operator sign with
    | leftBracket => rfl
    | rightBracket =>
      simp only [closeBracket_eq, seen_bind]
      rfl
    | _ =>
      simp only [pushOperator_eq, seen_bind]
      rfl

/-- **A run.** -/
theorem run_eq (s : Stacks) (sign : Bool) (lexemes : List Lexeme) :
    run s sign lexemes = seen (s.run sign lexemes) := by
  induction lexemes generalizing s sign with
  | nil => rfl
  | cons lexeme rest ih =>
    rw [run, Stacks.run, step_eq, seen_bind]
    exact bind_congr fun next => ih next.1 next.2

/-- **The whole evaluation** does what its primitives do. -/
theorem evaluate_eq (expression : String) :
    evaluate expression = seen (evaluateLexemes (tokenize expression)) := by
  rw [evaluate, evaluateLexemes, run_eq, seen_bind]
  exact bind_congr fun next => finish_eq next.1

end Primitive

/-- **An evaluation comes to a value or to a fault of the expression,** of
one of the kinds, and no primitive it is made of crashes. With a value, no
operator is left on the stack and the value is the only operand. -/
theorem evaluate_value_or_fault (expression : String) :
    (∃ v, Primitive.evaluate expression = .ok (v, ⟨[], [v]⟩) ∧
        evaluateLexemes (tokenize expression) = .ok (v, ⟨[], [v]⟩) ∧
        evaluate expression = .ok v) ∨
      ∃ fault kind, Primitive.evaluate expression = .error (.fault fault) ∧
        evaluate expression = .error fault ∧ fault.kind? = some kind := by
  rw [Primitive.evaluate_eq]
  cases hlexemes : evaluateLexemes (tokenize expression) with
  | ok result =>
    obtain ⟨v, left⟩ := result
    obtain ⟨⟨s, sign⟩, -, hfinish⟩ := bind_eq_ok_iff.1 hlexemes
    obtain ⟨-, rfl⟩ := Stacks.finish_eq_ok_iff.1 hfinish
    refine Or.inl ⟨v, rfl, rfl, ?_⟩
    rw [evaluate, hlexemes]
  | error failure =>
    have hfault : evaluate expression = .error failure.fault := by
      rw [evaluate, hlexemes]
    obtain ⟨kind, hkind⟩ := kind_of_evaluate_eq_error hfault
    exact Or.inr ⟨failure.fault, kind, congrArg Except.error (ofFault_of_kind hkind), hfault,
      hkind⟩

end Reckoner
