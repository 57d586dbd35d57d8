import Reckoner.Proofs.Postfix
/-!
# Brackets

When brackets close, told by the number that are open and nothing else.
The translator stores no such number: it is the number of opening
brackets that are pending. No operator moves it, since a reduction by
precedence never passes a bracket, and so the translator stops exactly
where the brackets do not close or a word is no operand
(`translate_stop_eq_none_iff`). In an expression with a value they close,
and every word is one (`closes_of_evaluate_eq_ok`).
-/

namespace Reckoner

open Postfix

/-- **Brackets close:** after the lexemes none of them is open, with this
many open before, and none is closed that was not open. -/
def Closes : Nat → List Lexeme → Prop
  | opened, [] => opened = 0
  | opened, .word _ :: rest => Closes opened rest
  | opened, .symbol symbol :: rest =>
    match symbol, opened with
    | .openBracket, _ => Closes (opened + 1) rest
    | .closeBracket, 0 => False
    | .closeBracket, opened + 1 => Closes opened rest
    | _, _ => Closes opened rest

/-- Every word is an operand. -/
def AllOperands (lexemes : List Lexeme) : Prop :=
  ∀ word, .word word ∈ lexemes → ∃ v, Operand.value word = .ok v

section Closes

variable {opened : Nat} {rest : List Lexeme}

@[simp] theorem closes_nil : Closes opened [] ↔ opened = 0 := Iff.rfl

@[simp] theorem closes_word (word : List Char) :
    Closes opened (.word word :: rest) ↔ Closes opened rest := Iff.rfl

@[simp] theorem closes_openBracket :
    Closes opened (.symbol .openBracket :: rest) ↔ Closes (opened + 1) rest := Iff.rfl

@[simp] theorem not_closes_closeBracket : ¬ Closes 0 (.symbol .closeBracket :: rest) := id

@[simp] theorem closes_closeBracket :
    Closes (opened + 1) (.symbol .closeBracket :: rest) ↔ Closes opened rest := Iff.rfl

/-- An operator opens and closes nothing. -/
theorem closes_operator {symbol : Symbol} {sign : Bool}
    (h : 0 ≤ (symbol.operator sign).precedence) :
    Closes opened (.symbol symbol :: rest) ↔ Closes opened rest := by
  cases symbol with
  | openBracket => cases sign <;> exact absurd h (by decide)
  | closeBracket => cases sign <;> exact absurd h (by decide)
  | _ => exact Iff.rfl

end Closes

section AllOperands

variable {rest : List Lexeme}

theorem allOperands_word (word : List Char) :
    AllOperands (.word word :: rest) ↔ (∃ v, Operand.value word = .ok v) ∧ AllOperands rest := by
  constructor
  · intro h
    exact ⟨h word (List.mem_cons_self ..), fun w hw => h w (List.mem_cons_of_mem _ hw)⟩
  · rintro ⟨hword, hrest⟩ w hw
    rcases List.mem_cons.1 hw with heq | hw
    · cases heq; exact hword
    · exact hrest w hw

theorem allOperands_symbol (symbol : Symbol) :
    AllOperands (.symbol symbol :: rest) ↔ AllOperands rest := by
  simp [AllOperands]

end AllOperands

namespace Postfix

/-- An operand stops the translation where the word is none. -/
theorem Code.operand_stop_eq_none_iff (word : List Char) :
    (Code.operand word).stop = none ↔ ∃ v, Operand.value word = .ok v := by
  rw [Code.operand]
  cases Operand.value word <;> simp [Code.stopped]

/-- A piece of code and the next stop nowhere where neither does. -/
theorem Code.append_stop_eq_none_iff (c d : Code) :
    (c ++ d).stop = none ↔ c.stop = none ∧ d.stop = none := by
  rw [Code.stop_append, Option.or_eq_none_iff]

/-- What passes no bracket leaves as many of them pending. -/
theorem count_dropWhile {p : Operator → Bool} (hp : p .leftBracket = false)
    (pending : List Operator) :
    (pending.dropWhile p).count .leftBracket = pending.count .leftBracket := by
  induction pending with
  | nil => rfl
  | cons op below ih =>
    by_cases hop : p op = true
    · have hne : op ≠ .leftBracket := fun he => by rw [he, hp] at hop; cases hop
      rw [List.dropWhile_cons_of_pos hop, ih, List.count_cons_of_ne hne]
    · rw [List.dropWhile_cons_of_neg hop]

/-- An operator leaves as many brackets pending as there were. -/
theorem count_emit_operator {symbol : Symbol} {sign : Bool} (pending : List Operator)
    (h : 0 ≤ (symbol.operator sign).precedence) :
    (emit sign pending (.symbol symbol)).2.count .leftBracket = pending.count .leftBracket := by
  have hne : symbol.operator sign ≠ .leftBracket := (Operator.precedence_nonneg_iff.1 h).1
  have hstay : decide ((symbol.operator sign).precedence ≤ Operator.leftBracket.precedence) =
      false := decide_eq_false (Operator.not_precedence_le_leftBracket h)
  rw [emit_operator pending h, List.count_cons_of_ne hne, count_dropWhile hstay]

/-- A closing bracket closes one, if any is open. -/
theorem count_emit_closeBracket (sign : Bool) (pending : List Operator) :
    (emit sign pending (.symbol .closeBracket)).2.count .leftBracket =
      pending.count .leftBracket - 1 := by
  have hcount := @count_dropWhile (· ≠ .leftBracket) rfl pending
  simp only [emit_closeBracket]
  by_cases hmem : .leftBracket ∈ pending
  · rw [dropWhile_of_mem hmem, List.count_cons_self] at hcount
    omega
  · rw [dropWhile_of_not_mem hmem, List.count_eq_zero_of_not_mem hmem]
    rfl

/-- Closing a bracket stops the translation where none is open. -/
theorem emit_closeBracket_stop_eq_none_iff (sign : Bool) (pending : List Operator) :
    (emit sign pending (.symbol .closeBracket)).1.stop = none ↔
      0 < pending.count .leftBracket := by
  rw [emit_closeBracket, Code.append_stop_eq_none_iff, List.count_pos_iff]
  by_cases hmem : .leftBracket ∈ pending
  · simp [hmem, Code.applying, Code.empty]
  · simp [hmem, Code.stopped]

/-- The end stops the translation where a bracket is open. -/
theorem emitEnd_stop_eq_none_iff (pending : List Operator) :
    (emitEnd pending).stop = none ↔ pending.count .leftBracket = 0 := by
  rw [emitEnd, Code.append_stop_eq_none_iff, List.count_eq_zero]
  by_cases hmem : .leftBracket ∈ pending
  · simp [hmem, Code.stopped]
  · simp [hmem, Code.applying, Code.empty]

/-- **The translator runs to the end** exactly where the brackets close and
every word is an operand. -/
theorem translateFrom_stop_eq_none_iff (lexemes : List Lexeme) (previous : Option Lexeme)
    (pending : List Operator) :
    (translateFrom previous pending lexemes).stop = none ↔
      Closes (pending.count .leftBracket) lexemes ∧ AllOperands lexemes := by
  -- the count of pending brackets is what each lexeme moves as `Closes` does
  induction lexemes generalizing previous pending with
  | nil =>
    rw [translateFrom, emitEnd_stop_eq_none_iff, closes_nil]
    simp [AllOperands]
  | cons lexeme rest ih =>
    rw [translateFrom, Code.append_stop_eq_none_iff, ih]
    rcases lexeme with symbol | word
    · rw [allOperands_symbol]
      rcases bracket_or_operator symbol with rfl | rfl | ⟨hfollow, hop⟩
      · rw [emit_openBracket, List.count_cons_self, closes_openBracket]
        simp [Code.empty]
      · rw [emit_closeBracket_stop_eq_none_iff, count_emit_closeBracket]
        cases pending.count .leftBracket with
        | zero => simp
        | succ opened => simp
      · rw [count_emit_operator pending (hop _), emit_operator pending (hop _),
          closes_operator (hop true)]
        simp [Code.applying]
    · rw [allOperands_word, closes_word]
      have hstop := Code.operand_stop_eq_none_iff word
      constructor
      · rintro ⟨hcode, hcloses, hrest⟩
        exact ⟨hcloses, hstop.1 hcode, hrest⟩
      · rintro ⟨hcloses, hword, hrest⟩
        exact ⟨hstop.2 hword, hcloses, hrest⟩

/-- **The translator runs to the end** exactly where the brackets close and
every word is an operand. -/
theorem translate_stop_eq_none_iff (lexemes : List Lexeme) :
    (translate lexemes).stop = none ↔ Closes 0 lexemes ∧ AllOperands lexemes :=
  translateFrom_stop_eq_none_iff lexemes none []

end Postfix

/-- An expression that has a value has brackets that close and words that
are operands: the translator has run to the end of it. -/
theorem closes_of_evaluate_eq_ok {expression : String} {v : Float}
    (h : evaluate expression = .ok v) :
    Closes 0 (tokenize expression) ∧ AllOperands (tokenize expression) := by
  rw [evaluate_eq_value] at h
  obtain ⟨left, hrun, -⟩ := bind_eq_ok_iff.1 h
  obtain ⟨operands, -, hstop⟩ := bind_eq_ok_iff.1 hrun
  rw [← translate_stop_eq_none_iff]
  cases hcode : (translate (tokenize expression)).stop with
  | none => rfl
  | some fault => rw [hcode] at hstop; cases hstop

end Reckoner
