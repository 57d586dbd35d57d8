import Reckoner.Proofs.Brackets
import Reckoner.Proofs.Characters
import Reckoner.Proofs.Faults
import Reckoner.Proofs.Numerals
/-!
# What messages hold

Every message is in one line (`Fault.unbroken_message`), and the message of
an expression has no arrow in it (`noArrow_message`). Only a word that is no
operand is quoted at length, and no word has a minus sign; the other
messages have no greater sign. An expression that has a value is made of
operands, symbols and blanks, so it holds neither an equals sign nor a
greater sign (`notMem_of_evaluate_eq_ok`).
-/

namespace Reckoner

/-! ## Characters of a message -/

/-- A character that neither ends a line nor can end an arrow. -/
def IsTame (c : Char) : Prop :=
  Text.isPrintable c = true ∧ c ≠ '>'

instance : DecidablePred IsTame :=
  fun c => inferInstanceAs (Decidable (Text.isPrintable c = true ∧ c ≠ '>'))

/-- Tame characters only. -/
def AllTame (cs : List Char) : Prop :=
  ∀ c ∈ cs, IsTame c

instance : DecidablePred AllTame :=
  fun cs => List.decidableBAll IsTame cs

namespace AllTame

variable {cs ds : List Char}

theorem append (h : AllTame cs) (h' : AllTame ds) : AllTame (cs ++ ds) :=
  List.forall_mem_append.2 ⟨h, h'⟩

/-- A text given by its characters. -/
theorem literal (h : AllTame cs) : AllTame (String.ofList cs).toList := by
  rwa [String.toList_ofList]

theorem of_allPlain (h : Number.AllPlain cs) : AllTame cs := by
  intro c hc
  have hplain := h c hc
  refine ⟨Number.isPrintable_of_isPlain hplain, ?_⟩
  rintro rfl
  exact absurd hplain (by decide)

/-- Quoting tame characters gives tame ones. -/
theorem quote (h : AllTame cs) : AllTame (Text.quote cs).toList := by
  intro c hc
  rcases Text.mem_quote hc with ⟨hmem, -⟩ | hadded
  · exact h c hmem
  · have hall : AllTame Text.Quoted.added := by decide
    exact hall c hadded

end AllTame

namespace Fault

/-- The message of a word that is no operand. -/
theorem toList_message_invalidOperand (word : List Char) :
    (invalidOperand word).message.toList =
      "Invalid operand: ".toList ++ (Text.quote word).toList :=
  String.toList_append

/-- **The messages that quote no word** are tame. -/
theorem allTame_message {fault : Fault} (h : ∀ word, fault ≠ .invalidOperand word) :
    AllTame fault.message.toList := by
  cases fault with
  | insufficientOperands op =>
    have hop : AllTame [op.symbol.char] := by cases op <;> decide
    have hmessage : (insufficientOperands op).message.toList =
        "Not enough operands for ".toList ++ (Text.quote [op.symbol.char]).toList :=
      String.toList_append
    rw [hmessage]
    exact AllTame.append (.literal (by decide)) hop.quote
  | divisionByZero => exact AllTame.literal (by decide)
  | zeroToNegativePower => exact AllTame.literal (by decide)
  | negativeToFractionalPower base exponent =>
    have hbase := AllTame.of_allPlain (Number.allPlain_text base)
    have hexponent := AllTame.of_allPlain (Number.allPlain_text exponent)
    have hmessage : (negativeToFractionalPower base exponent).message.toList =
        "Trying to raise a negative number to a fractional power: ".toList ++
          (Number.text base).toList ++ " ^ ".toList ++ (Number.text exponent).toList := by
      simp only [← String.toList_append]
      rfl
    rw [hmessage]
    exact (AllTame.append (.append (.literal (by decide)) hbase) (.literal (by decide))).append
      hexponent
  | unmatchedBracket => exact AllTame.literal (by decide)
  | unclosedBracket => exact AllTame.literal (by decide)
  | invalidOperand word => exact absurd rfl (h word)
  | malformedExpression count =>
    have hcount : (toString count).toList = Number.decimalDigits count := Nat.toList_repr
    have hmessage : (malformedExpression count).message.toList =
        "Malformed expression: expected a single value, got ".toList ++ (toString count).toList :=
      String.toList_append
    rw [hmessage, hcount]
    exact AllTame.append (.literal (by decide)) (.of_allPlain (Number.allPlain_decimalDigits count))
  | bracketApplied op =>
    have hname : AllTame op.name.toList := by
      cases op <;> exact AllTame.literal (by decide)
    have hmessage : (bracketApplied op).message.toList =
        op.name.toList ++ " is a stack boundary, not an operator that can be applied".toList :=
      String.toList_append
    rw [hmessage]
    exact hname.append (.literal (by decide))
  | nothingPending => exact AllTame.literal (by decide)

/-- **A message is in one line.** -/
theorem unbroken_message (fault : Fault) : Text.Unbroken fault.message.toList := by
  by_cases h : ∃ word, fault = .invalidOperand word
  · obtain ⟨word, rfl⟩ := h
    have hfront : AllTame "Invalid operand: ".toList := AllTame.literal (by decide)
    rw [toList_message_invalidOperand]
    exact (Text.unbroken_of_printable fun c hc => (hfront c hc).1).append (Text.unbroken_quote _)
  · have htame := allTame_message (not_exists.1 h)
    exact Text.unbroken_of_printable fun c hc => (htame c hc).1

/-! ## Arrows -/

/-- **A greater sign** is in no message but that of a word that is no
operand. -/
theorem eq_invalidOperand_of_mem_message {fault : Fault} (h : '>' ∈ fault.message.toList) :
    ∃ word, fault = .invalidOperand word := by
  by_contra hne
  exact (allTame_message (not_exists.1 hne) _ h).2 rfl

/-- **A minus sign** is in the message of a word only where it is in the
word. -/
theorem mem_of_mem_message {word : List Char}
    (h : '-' ∈ (Fault.invalidOperand word).message.toList) : '-' ∈ word := by
  rw [toList_message_invalidOperand] at h
  rcases List.mem_append.1 h with h | h
  · exact absurd h (by decide)
  · exact Text.mem_of_mem_quote h (by decide)

end Fault

namespace Postfix

/-- A lexeme that stops the translator as no operand is that word. -/
theorem word_of_emit_stop {sign : Bool} {pending : List Operator} {lexeme : Lexeme}
    {word : List Char} (h : (emit sign pending lexeme).1.stop = some (.invalidOperand word)) :
    lexeme = .word word := by
  rcases lexeme with symbol | cs
  · rcases bracket_or_operator symbol with rfl | rfl | ⟨-, hop⟩
    · rw [emit_openBracket] at h
      cases h
    · rw [emit_closeBracket, Code.stop_append] at h
      split at h <;> cases h
    · rw [emit_operator _ (hop sign)] at h
      cases h
  · simp only [emit, Code.operand] at h
    cases hvalue : Operand.value cs with
    | ok v => rw [hvalue] at h; cases h
    | error fault =>
      rw [hvalue, Operand.value_eq_error hvalue] at h
      cases h
      rfl

/-- So it is one of the lexemes. -/
theorem mem_of_translateFrom_stop {lexemes : List Lexeme} {previous : Option Lexeme}
    {pending : List Operator} {word : List Char}
    (h : (translateFrom previous pending lexemes).stop = some (.invalidOperand word)) :
    .word word ∈ lexemes := by
  induction lexemes generalizing previous pending with
  | nil => cases fault_of_emitEnd_stop h
  | cons lexeme rest ih =>
    rw [translateFrom, Code.stop_append, Option.or_eq_some_iff] at h
    rcases h with hfirst | ⟨-, hrest⟩
    · rw [word_of_emit_stop hfirst]
      exact List.mem_cons_self
    · exact List.mem_cons_of_mem _ (ih hrest)

/-- No item that is run takes a word for an operand. -/
theorem runItems_ne_invalidOperand {items : List Item} {operands : List Float}
    {word : List Char} : runItems items operands ≠ .error (.invalidOperand word) := by
  intro h
  induction items generalizing operands with
  | nil => cases h
  | cons item rest ih =>
    rcases bind_eq_error_iff.1 h with hitem | ⟨left, -, hrest⟩
    · cases item with
      | operand v => cases hitem
      | apply op =>
        rw [Item.run] at hitem
        cases happly : op.apply operands with
        | ok left => rw [happly] at hitem; cases hitem
        | error e =>
          rw [happly] at hitem
          obtain ⟨fault, left⟩ := e
          obtain rfl : fault = .invalidOperand word := Except.error.inj hitem
          cases Operator.refuses_of_apply_eq_error happly with
          | computation haction hf =>
            rcases Operator.kind_of_binary_eq_error haction hf with hkind | hkind <;> cases hkind
    · exact ih hrest

end Postfix

/-- **A word that an expression fails at** is one of its lexemes. -/
theorem mem_of_evaluate_eq_error {expression : String} {word : List Char}
    (h : evaluate expression = .error (.invalidOperand word)) :
    .word word ∈ tokenize expression := by
  rw [Postfix.evaluate_eq_value] at h
  rcases bind_eq_error_iff.1 h with hrun | ⟨left, -, hsingle⟩
  · rcases bind_eq_error_iff.1 hrun with hitems | ⟨left, -, hstop⟩
    · exact absurd hitems Postfix.runItems_ne_invalidOperand
    · cases hcode : (Postfix.translate (tokenize expression)).stop with
      | none => rw [hcode] at hstop; cases hstop
      | some fault =>
        rw [hcode] at hstop
        cases hstop
        exact Postfix.mem_of_translateFrom_stop hcode
  · cases Postfix.Code.kind_of_single_eq_error hsingle

/-! ## The characters of an expression -/

/-- The lexemes of a text are proper, and have all its characters but the
blanks. -/
theorem tokenize_chars (expression : String) :
    (∀ l ∈ tokenize expression, l.IsProper) ∧
      ∀ c ∈ expression.toList, Text.isBlank c = false → ∃ l ∈ tokenize expression, c ∈ l.chars := by
  obtain ⟨s, hapart, hchars⟩ := Spelling.exists_spelling expression.toList
  have htext : s.text = expression := by
    rw [Spelling.text, hchars, String.ofList_toList]
  have hlexemes : tokenize expression = s.lexemes := by
    rw [← htext]
    exact Spelling.tokenize_text hapart
  rw [hlexemes]
  refine ⟨fun l hl => s.isProper_of_mem hl, fun c hc hblank => ?_⟩
  have hfilter : c ∈ s.chars.filter (fun c => !Text.isBlank c) := by
    rw [hchars]
    exact List.mem_filter.2 ⟨hc, by simp [hblank]⟩
  rw [s.filter_chars] at hfilter
  exact List.mem_flatMap.1 hfilter

/-- **A message of an expression has no arrow in it.** -/
theorem noArrow_message {expression : String} {fault : Fault}
    (h : evaluate expression = .error fault) : ¬ ['-', '>'] <:+: fault.message.toList := by
  intro harrow
  -- its head makes it the message of a word, and its shaft would be in that word
  obtain ⟨word, rfl⟩ := Fault.eq_invalidOperand_of_mem_message (harrow.subset (by simp))
  have hminus : '-' ∈ word := Fault.mem_of_mem_message (harrow.subset (by simp))
  have hproper := (tokenize_chars expression).1 _ (mem_of_evaluate_eq_error h)
  cases (hproper.2 _ hminus).2

/-- **What an expression with a value does not hold:** what is no blank, no
symbol and in no operand. -/
theorem notMem_of_evaluate_eq_ok {expression : String} {v : Float}
    (h : evaluate expression = .ok v) :
    '=' ∉ expression.toList ∧ '>' ∉ expression.toList := by
  have hoperands := (closes_of_evaluate_eq_ok h).2
  have hnotMem : ∀ c : Char, Text.isBlank c = false → Symbol.ofChar? c = none →
      ¬ (c.isDigit = true ∨ c ∈ ['.', 'e', 'E', 'p', 'i']) → c ∉ expression.toList := by
    intro c hblank hsymbol hoperand hc
    obtain ⟨lexeme, hlexeme, hmem⟩ := (tokenize_chars expression).2 c hc hblank
    cases lexeme with
    | symbol symbol =>
      rw [List.mem_singleton.1 hmem, Symbol.ofChar?_char] at hsymbol
      cases hsymbol
    | word word =>
      obtain ⟨x, hx⟩ := hoperands word hlexeme
      exact hoperand ((Operand.exists_value_iff.1 ⟨x, hx⟩).mem hmem)
  exact ⟨hnotMem '=' (by decide) (by decide) (by decide),
    hnotMem '>' (by decide) (by decide) (by decide)⟩

end Reckoner
