import Mathlib.Data.List.TakeWhile
import Reckoner.Evaluation
import Reckoner.Proofs.Failing
/-!
# Postfix code

Evaluation in two phases. A translator that keeps no operands turns
lexemes into items, each of which pushes an operand or applies an
operator, and a machine that keeps no operators runs the items. One pass
over the lexemes with two stacks comes to the same: what is pending
never depends on the operands, so the operators are applied in the order
in which the translator puts them out (`forget_step`, `forget_run`), and
the first fault met is the same.
-/

namespace Reckoner

namespace Postfix

/-! ## Items and code -/

/-- **An item** of postfix code. -/
inductive Item where
  /-- Pushes an operand. -/
  | operand (v : Float)
  /-- Applies an operator to the operands on top. -/
  | apply (op : Operator)

/-- What an item makes of the operands, the last of them first. -/
def Item.run (item : Item) (operands : List Float) : Except Fault (List Float) :=
  match item with
  | operand v => .ok (v :: operands)
  | apply op => (op.apply operands).mapError Prod.fst

/-- Runs items one after the other. -/
def runItems : List Item → List Float → Except Fault (List Float)
  | [], operands => .ok operands
  | item :: rest, operands => do runItems rest (← item.run operands)

/-- **Postfix code:** the items a translation has put out, and the fault
that stopped it, if one did. -/
structure Code where
  items : List Item
  stop : Option Fault

namespace Code

/-- No code. -/
def empty : Code := ⟨[], none⟩

/-- A translation that puts nothing out and stops. -/
def stopped (fault : Fault) : Code := ⟨[], some fault⟩

/-- The code of an operand; a word that is none stops the translation. -/
def operand (word : List Char) : Code :=
  match Operand.value word with
  | .ok v => ⟨[.operand v], none⟩
  | .error fault => stopped fault

/-- The code that applies operators one after the other. -/
def applying (ops : List Operator) : Code := ⟨ops.map .apply, none⟩

/-- One code after another; a translation that has stopped goes no
further. -/
instance : Append Code where
  append c d :=
    match c.stop with
    | none => ⟨c.items ++ d.items, d.stop⟩
    | some _ => c

/-- Runs code on operands that are there already. -/
def run (c : Code) (operands : List Float) : Except Fault (List Float) := do
  let operands ← runItems c.items operands
  match c.stop with
  | none => .ok operands
  | some fault => .error fault

/-- The one operand there is. -/
def single : List Float → Except Fault Float
  | [v] => .ok v
  | operands => .error (.malformedExpression operands.length)

/-- **The value of code:** the one operand that it leaves. -/
def value (c : Code) : Except Fault Float :=
  c.run [] >>= single

end Code

/-- Running two pieces of a list of items is running one and then the
other. -/
theorem runItems_append (xs ys : List Item) (operands : List Float) :
    runItems (xs ++ ys) operands = runItems xs operands >>= runItems ys := by
  induction xs generalizing operands with
  | nil => rfl
  | cons x xs ih =>
    simp only [List.cons_append, runItems, bind_assoc]
    cases x.run operands with
    | error fault => rfl
    | ok operands => exact ih operands

namespace Code

variable (c d e : Code) (operands : List Float)

theorem mk_none_append (items : List Item) :
    (⟨items, none⟩ : Code) ++ c = ⟨items ++ c.items, c.stop⟩ := rfl

theorem mk_some_append (items : List Item) (fault : Fault) :
    (⟨items, some fault⟩ : Code) ++ c = ⟨items, some fault⟩ := rfl

@[simp] theorem empty_append : empty ++ c = c := rfl

@[simp] theorem append_empty : c ++ empty = c := by
  obtain ⟨items, stop⟩ := c
  cases stop with
  | none => exact congrArg (Code.mk · none) items.append_nil
  | some fault => rfl

theorem append_assoc : c ++ d ++ e = c ++ (d ++ e) := by
  obtain ⟨items, stop⟩ := c
  obtain ⟨items', stop'⟩ := d
  cases stop with
  | some fault => rfl
  | none =>
    cases stop' with
    | some fault => rfl
    | none => exact congrArg (Code.mk · e.stop) (items.append_assoc items' e.items)

theorem applying_append (ops ops' : List Operator) :
    applying (ops ++ ops') = applying ops ++ applying ops' :=
  congrArg (Code.mk · none) List.map_append

/-- The first of two translations to stop stops both. -/
theorem stop_append : (c ++ d).stop = c.stop.or d.stop := by
  obtain ⟨items, stop⟩ := c
  cases stop <;> rfl

/-- **Code runs piece by piece.** A translation that has stopped has
nothing to run after it. -/
theorem run_append : (c ++ d).run operands = c.run operands >>= d.run := by
  obtain ⟨items, stop⟩ := c
  cases stop with
  | none =>
    rw [mk_none_append]
    simp only [run, runItems_append, bind_assoc]
    rfl
  | some fault =>
    rw [mk_some_append]
    simp only [run, bind_assoc]
    rfl


/-- An operator is applied and the others after it. -/
theorem run_applying_cons (op : Operator) (ops : List Operator) :
    (applying (op :: ops)).run operands =
      (Item.apply op).run operands >>= (applying ops).run := by
  simp only [run, applying, List.map_cons, runItems, bind_assoc]
  rfl

end Code

/-! ## The translator -/

/-- Whether a plus or minus that follows is a sign: at the start, after an
opening bracket and after an operator. -/
def signFollows : Option Lexeme → Bool
  | none => true
  | some (.word _) => false
  | some (.symbol .closeBracket) => false
  | some (.symbol _) => true

/-- The code that a lexeme makes the translator put out, and the operators
that are pending after it. -/
def emit (sign : Bool) (pending : List Operator) : Lexeme → Code × List Operator
  | .word cs => (.operand cs, pending)
  | .symbol symbol =>
    match symbol.operator sign with
    | .leftBracket => (.empty, .leftBracket :: pending)
    | .rightBracket =>
      (.applying (pending.takeWhile (· ≠ .leftBracket)) ++
          if .leftBracket ∈ pending then .empty else .stopped .unmatchedBracket,
        (pending.dropWhile (· ≠ .leftBracket)).tail)
    | op =>
      (.applying (pending.takeWhile fun top => op.precedence ≤ top.precedence),
        op :: pending.dropWhile fun top => op.precedence ≤ top.precedence)

/-- The code that is put out at the end. -/
def emitEnd (pending : List Operator) : Code :=
  .applying (pending.takeWhile (· ≠ .leftBracket)) ++
    if .leftBracket ∈ pending then .stopped .unclosedBracket else .empty

/-- Translates what follows a lexeme while operators are pending. -/
def translateFrom (previous : Option Lexeme) (pending : List Operator) : List Lexeme → Code
  | [] => emitEnd pending
  | lexeme :: rest =>
    let (code, pending) := emit (signFollows previous) pending lexeme
    code ++ translateFrom (some lexeme) pending rest

/-- **Translates lexemes to postfix code.** -/
def translate (lexemes : List Lexeme) : Code :=
  translateFrom none [] lexemes

/-! Three kinds of symbols are told apart: brackets of either kind, and
those that are operators wherever they stand. -/

/-- A symbol that is no bracket is an operator, read either way. -/
theorem bracket_or_operator (symbol : Symbol) :
    symbol = .openBracket ∨ symbol = .closeBracket ∨
      signFollows (some (.symbol symbol)) = true ∧
        ∀ sign, 0 ≤ (symbol.operator sign).precedence := by
  cases symbol <;> decide

@[simp] theorem emit_openBracket (sign : Bool) (pending : List Operator) :
    emit sign pending (.symbol .openBracket) = (.empty, .leftBracket :: pending) := by
  cases sign <;> rfl

@[simp] theorem emit_closeBracket (sign : Bool) (pending : List Operator) :
    emit sign pending (.symbol .closeBracket) =
      (.applying (pending.takeWhile (· ≠ .leftBracket)) ++
          if .leftBracket ∈ pending then .empty else .stopped .unmatchedBracket,
        (pending.dropWhile (· ≠ .leftBracket)).tail) := by
  cases sign <;> rfl

theorem emit_operator {symbol : Symbol} {sign : Bool} (pending : List Operator)
    (h : 0 ≤ (symbol.operator sign).precedence) :
    emit sign pending (.symbol symbol) =
      (.applying (pending.takeWhile fun top =>
          (symbol.operator sign).precedence ≤ top.precedence),
        symbol.operator sign :: pending.dropWhile fun top =>
          (symbol.operator sign).precedence ≤ top.precedence) := by
  obtain ⟨hleft, hright⟩ := Operator.precedence_nonneg_iff.1 h
  -- the two cases of brackets are ruled out by what is in the context
  simp only [emit]

/-! ## What stops the translator -/

/-- A lexeme stops the translator if it is a word that is no operand, or a
bracket that closes none. -/
theorem fault_of_emit_stop {sign : Bool} {pending : List Operator} {lexeme : Lexeme}
    {fault : Fault} (h : (emit sign pending lexeme).1.stop = some fault) :
    (∃ word, fault = .invalidOperand word) ∨ fault = .unmatchedBracket := by
  rcases lexeme with symbol | word
  · rcases bracket_or_operator symbol with rfl | rfl | ⟨-, hop⟩
    · rw [emit_openBracket] at h
      cases h
    · rw [emit_closeBracket, Code.stop_append] at h
      split at h
      · cases h
      · exact Or.inr (Option.some.inj h).symm
    · rw [emit_operator _ (hop sign)] at h
      cases h
  · simp only [emit, Code.operand] at h
    cases hvalue : Operand.value word with
    | ok v => rw [hvalue] at h; cases h
    | error fault' =>
      rw [hvalue] at h
      cases h
      exact Or.inl ⟨word, Operand.value_eq_error hvalue⟩

/-- The end stops it if a bracket is left open. -/
theorem fault_of_emitEnd_stop {pending : List Operator} {fault : Fault}
    (h : (emitEnd pending).stop = some fault) : fault = .unclosedBracket := by
  rw [emitEnd, Code.stop_append] at h
  split at h
  · exact (Option.some.inj h).symm
  · cases h

/-- **The translator stops with an invalid operand or a mismatched
bracket,** if it stops. -/
theorem kind_of_translateFrom_stop {lexemes : List Lexeme} {previous : Option Lexeme}
    {pending : List Operator} {fault : Fault}
    (h : (translateFrom previous pending lexemes).stop = some fault) :
    fault.kind? = some .invalidOperand ∨ fault.kind? = some .mismatchedBrackets := by
  induction lexemes generalizing previous pending with
  | nil =>
    rw [fault_of_emitEnd_stop h]
    exact Or.inr rfl
  | cons lexeme rest ih =>
    rw [translateFrom, Code.stop_append, Option.or_eq_some_iff] at h
    rcases h with hfirst | ⟨-, hrest⟩
    · rcases fault_of_emit_stop hfirst with ⟨word, rfl⟩ | rfl
      · exact Or.inl rfl
      · exact Or.inr rfl
    · exact ih hrest

/-! ## The two stacks follow the translator -/

theorem step_openBracket (s : Stacks) (sign : Bool) :
    s.step (.symbol .openBracket) sign =
      .ok (⟨.leftBracket :: s.operators, s.operands⟩, true) := by
  cases sign <;> rfl

theorem step_closeBracket (s : Stacks) (sign : Bool) :
    s.step (.symbol .closeBracket) sign = s.closeBracket >>= fun s => .ok (s, false) := by
  cases sign <;> rfl

theorem step_operator {symbol : Symbol} {sign : Bool} (s : Stacks)
    (h : 0 ≤ (symbol.operator sign).precedence) :
    s.step (.symbol symbol) sign =
      s.pushOperator (symbol.operator sign) >>= fun s => .ok (s, true) := by
  obtain ⟨hleft, hright⟩ := Operator.precedence_nonneg_iff.1 h
  simp only [Stacks.step]
  rfl

/-- **What is applied, and what is left pending,** does not depend on the
operands. -/
theorem forget_reduceOn (p : Operator → Bool) (ops : List Operator) (operands : List Float) :
    Failure.forget (Stacks.reduceOn p ops operands) =
      (Code.applying (ops.takeWhile p)).run operands >>= fun left =>
        .ok ⟨ops.dropWhile p, left⟩ := by
  -- `takeWhile` is what is applied and `dropWhile` what is left, and neither looks at `operands`
  induction ops generalizing operands with
  | nil => rfl
  | cons op below ih =>
    by_cases hp : p op = true
    · rw [Stacks.reduceOn, if_pos hp, Failure.forget_bind, List.takeWhile_cons_of_pos hp,
        List.dropWhile_cons_of_pos hp, Code.run_applying_cons, bind_assoc]
      simp only [Stacks.reduce, Item.run]
      cases op.apply operands with
      | ok left => exact ih left
      | error e => rfl
    · rw [Stacks.reduceOn, if_neg hp, List.takeWhile_cons_of_neg hp,
        List.dropWhile_cons_of_neg hp]
      rfl

/-- Pushing an operator. -/
theorem forget_pushOperator (op : Operator) (s : Stacks) :
    Failure.forget (s.pushOperator op) =
      (Code.applying (s.operators.takeWhile fun top => op.precedence ≤ top.precedence)).run
        s.operands >>= fun left =>
          .ok ⟨op :: s.operators.dropWhile fun top => op.precedence ≤ top.precedence, left⟩ := by
  rw [Stacks.pushOperator, Stacks.reduceWhile, Failure.forget_bind, forget_reduceOn, bind_assoc]
  rfl

/-- Above the nearest opening bracket there is everything, or else the
bracket is next. -/
theorem dropWhile_of_mem {ops : List Operator} (h : .leftBracket ∈ ops) :
    ops.dropWhile (· ≠ .leftBracket) =
      .leftBracket :: (ops.dropWhile (· ≠ .leftBracket)).tail := by
  induction ops with
  | nil => exact absurd h List.not_mem_nil
  | cons op below ih =>
    by_cases hop : op = .leftBracket
    · rw [hop]; rfl
    · have hmem : .leftBracket ∈ below := (List.mem_cons.1 h).resolve_left (Ne.symm hop)
      rw [List.dropWhile_cons_of_pos (by simpa using hop)]
      exact ih hmem

theorem dropWhile_of_not_mem {ops : List Operator} (h : .leftBracket ∉ ops) :
    ops.dropWhile (· ≠ .leftBracket) = [] :=
  List.dropWhile_eq_nil_iff.2 fun op hop =>
    decide_eq_true fun he : op = .leftBracket => h (he ▸ hop)

/-- Reducing to the nearest bracket applies what is above it. -/
theorem forget_reduceToBracket (s : Stacks) :
    Failure.forget s.reduceToBracket =
      (Code.applying (s.operators.takeWhile (· ≠ .leftBracket))).run s.operands >>= fun left =>
        .ok ⟨s.operators.dropWhile (· ≠ .leftBracket), left⟩ :=
  forget_reduceOn _ s.operators s.operands

/-- Closing a bracket. -/
theorem forget_closeBracket (s : Stacks) :
    Failure.forget s.closeBracket =
      (Code.applying (s.operators.takeWhile (· ≠ .leftBracket)) ++
          if .leftBracket ∈ s.operators then .empty else .stopped .unmatchedBracket).run
        s.operands >>= fun left =>
          .ok ⟨(s.operators.dropWhile (· ≠ .leftBracket)).tail, left⟩ := by
  rw [Stacks.closeBracket, Failure.forget_bind, forget_reduceToBracket, Code.run_append,
    bind_assoc, bind_assoc]
  congr 1
  funext left
  by_cases h : .leftBracket ∈ s.operators
  · rw [if_pos h, ok_bind, dropWhile_of_mem h]
    rfl
  · rw [if_neg h, ok_bind, dropWhile_of_not_mem h]
    rfl

/-- **A step follows the translator:** it applies what the lexeme makes
the translator put out, leaves pending what the translator has pending,
and lets a sign follow where the translator does. -/
theorem forget_step (s : Stacks) (sign : Bool) (lexeme : Lexeme) :
    Failure.forget (s.step lexeme sign) =
      (emit sign s.operators lexeme).1.run s.operands >>= fun left =>
        .ok (⟨(emit sign s.operators lexeme).2, left⟩, signFollows (some lexeme)) := by
  rcases lexeme with symbol | cs
  · rcases bracket_or_operator symbol with rfl | rfl | ⟨hfollow, hop⟩
    · rw [step_openBracket, emit_openBracket]
      rfl
    · rw [step_closeBracket, Failure.forget_bind, forget_closeBracket, bind_assoc,
        emit_closeBracket]
      rfl
    · rw [step_operator s (hop sign), Failure.forget_bind, forget_pushOperator, bind_assoc,
        emit_operator _ (hop sign), hfollow]
      rfl
  · simp only [Stacks.step, emit, Code.operand]
    cases Operand.value cs <;> rfl

/-- The end follows the translator. -/
theorem forget_finish (s : Stacks) :
    (Failure.forget s.finish).map Prod.fst =
      (emitEnd s.operators).run s.operands >>= Code.single := by
  rw [Stacks.finish, Failure.forget_bind, forget_reduceToBracket, bind_assoc, emitEnd,
    Code.run_append, bind_assoc]
  cases (Code.applying (s.operators.takeWhile (· ≠ .leftBracket))).run s.operands with
  | error fault => rfl
  | ok left =>
    rw [ok_bind, ok_bind, ok_bind]
    by_cases h : .leftBracket ∈ s.operators
    · rw [if_pos h, dropWhile_of_mem h]
      rfl
    · rw [if_neg h, dropWhile_of_not_mem h]
      match left with
      | [] => rfl
      | [v] => rfl
      | _ :: _ :: _ => rfl

/-- **A run follows the translator** to its end. -/
theorem forget_run_finish (lexemes : List Lexeme) (previous : Option Lexeme) (s : Stacks) :
    (Failure.forget (s.run (signFollows previous) lexemes >>= fun (s, _) => s.finish)).map
        Prod.fst =
      (translateFrom previous s.operators lexemes).run s.operands >>= Code.single := by
  -- the stacks and the lexeme before are those of any moment, so that a step leads to another
  induction lexemes generalizing previous s with
  | nil => exact forget_finish s
  | cons lexeme rest ih =>
    rw [Stacks.run, translateFrom, Code.run_append, bind_assoc, bind_assoc, Failure.forget_bind,
      forget_step, bind_assoc]
    cases (emit (signFollows previous) s.operators lexeme).1.run s.operands with
    | error fault => rfl
    | ok left =>
      have hnext := ih (some lexeme) ⟨(emit (signFollows previous) s.operators lexeme).2, left⟩
      exact hnext

/-- The value of lexemes is the value of their postfix code. -/
theorem forget_evaluateLexemes (lexemes : List Lexeme) :
    (Failure.forget (evaluateLexemes lexemes)).map Prod.fst = (translate lexemes).value :=
  forget_run_finish lexemes none {}

/-- And so is the value of an expression. -/
theorem evaluate_eq_value (expression : String) :
    evaluate expression = (translate (tokenize expression)).value := by
  rw [← forget_evaluateLexemes, evaluate]
  cases evaluateLexemes (tokenize expression) <;> rfl

/-- **One pass with two stacks comes to what two phases come to,** on any
lexemes. If an item fails in the machine, that is the fault; else it is
the one that stopped the translator, if any did, an invalid operand or a
mismatched bracket; and else the machine leaves one operand, which is the
value, or the expression is malformed. -/
theorem evaluateLexemes_eq_two_phases (lexemes : List Lexeme) :
    (Failure.forget (evaluateLexemes lexemes)).map Prod.fst =
        (match runItems (translate lexemes).items [], (translate lexemes).stop with
        | .error fault, _ => .error fault
        | .ok _, some fault => .error fault
        | .ok [v], none => .ok v
        | .ok operands, none => .error (.malformedExpression operands.length)) ∧
      ∀ fault, (translate lexemes).stop = some fault →
        fault.kind? = some .invalidOperand ∨ fault.kind? = some .mismatchedBrackets := by
  refine ⟨?_, fun fault hstop => kind_of_translateFrom_stop hstop⟩
  rw [forget_evaluateLexemes, Code.value, Code.run]
  cases runItems (translate lexemes).items [] with
  | error fault => rfl
  | ok operands =>
    cases (translate lexemes).stop with
    | some fault => rfl
    | none =>
      match operands with
      | [] => rfl
      | [v] => rfl
      | _ :: _ :: _ => rfl

end Postfix

end Reckoner
