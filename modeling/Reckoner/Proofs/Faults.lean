import Reckoner.Proofs.Postfix
/-!
# Faults of an expression

Every fault that an expression gives rise to has a kind. Two faults have
none, a bracket that is applied and an operator taken from an empty
stack. The translator puts out no bracket, because it has no closing one
pending and takes operators off either by their precedence or down to an
opening bracket (`bracketFree_emit`); and the machine keeps no operators.
-/

namespace Reckoner

namespace Postfix

namespace Code

/-- **Code that applies no brackets.** -/
def BracketFree (c : Code) : Prop :=
  ∀ op, .apply op ∈ c.items → 0 ≤ op.precedence

theorem bracketFree_empty : empty.BracketFree :=
  fun _ h => absurd h List.not_mem_nil

theorem bracketFree_stopped (fault : Fault) : (stopped fault).BracketFree :=
  fun _ h => absurd h List.not_mem_nil

theorem bracketFree_operand (word : List Char) : (operand word).BracketFree := by
  intro op hop
  rw [operand] at hop
  cases hvalue : Operand.value word with
  | ok v =>
    rw [hvalue] at hop
    cases List.mem_singleton.1 hop
  | error fault =>
    rw [hvalue] at hop
    exact absurd hop List.not_mem_nil

theorem bracketFree_applying {ops : List Operator} (h : ∀ op ∈ ops, 0 ≤ op.precedence) :
    (applying ops).BracketFree := by
  intro op hop
  obtain ⟨op', hmem, heq⟩ := List.mem_map.1 hop
  cases heq
  exact h _ hmem

theorem BracketFree.append {c d : Code} (hc : c.BracketFree) (hd : d.BracketFree) :
    (c ++ d).BracketFree := by
  obtain ⟨items, stop⟩ := c
  cases stop with
  | some fault => exact hc
  | none =>
    intro op hop
    rcases List.mem_append.1 hop with hop | hop
    · exact hc op hop
    · exact hd op hop

/-- Items that apply no brackets fail with a fault of the expression. -/
theorem kind_of_runItems_eq_error {items : List Item} {operands : List Float} {fault : Fault}
    (hfree : ∀ op, .apply op ∈ items → 0 ≤ op.precedence)
    (h : runItems items operands = .error fault) : ∃ kind, fault.kind? = some kind := by
  induction items generalizing operands with
  | nil => cases h
  | cons item rest ih =>
    rcases bind_eq_error_iff.1 h with hitem | ⟨left, -, hrest⟩
    · cases item with
      | operand v => cases hitem
      | apply op =>
        have hbinds : 0 ≤ op.precedence := hfree op (List.mem_cons_self ..)
        rw [Item.run] at hitem
        cases happly : op.apply operands with
        | ok left => rw [happly] at hitem; cases hitem
        | error e =>
          rw [happly] at hitem
          cases hitem
          exact Operator.kind_of_apply_eq_error hbinds happly
    · exact ih (fun op hop => hfree op (List.mem_cons_of_mem _ hop)) hrest

/-- Other than one operand is a fault of the expression. -/
theorem kind_of_single_eq_error {operands : List Float} {fault : Fault}
    (h : single operands = .error fault) : fault.kind? = some .malformedExpression := by
  unfold single at h
  split at h
  · cases h
  · cases h; rfl

end Code

/-! ## The code of the translator -/

open Code

variable {pending : List Operator}

/-- What is above the nearest bracket binds, if no closing bracket is
pending. -/
theorem bracketFree_applying_takeWhile (h : .rightBracket ∉ pending) :
    (applying (pending.takeWhile (· ≠ .leftBracket))).BracketFree := by
  refine bracketFree_applying fun op hop => Operator.precedence_nonneg_iff.2 ⟨?_, ?_⟩
  · have hne := List.mem_takeWhile_imp hop
    exact of_decide_eq_true hne
  · rintro rfl
    exact h ((List.takeWhile_sublist _).mem hop)

/-- **No closing bracket is ever pending.** -/
theorem rightBracket_notMem_emit (sign : Bool) (lexeme : Lexeme) (h : .rightBracket ∉ pending) :
    .rightBracket ∉ (emit sign pending lexeme).2 := by
  rcases lexeme with symbol | word
  · rcases bracket_or_operator symbol with rfl | rfl | ⟨-, hop⟩
    · rw [emit_openBracket]
      simpa using h
    · rw [emit_closeBracket]
      intro hmem
      exact h ((List.dropWhile_sublist _).mem (List.mem_of_mem_tail hmem))
    · obtain ⟨-, hne⟩ := Operator.precedence_nonneg_iff.1 (hop sign)
      rw [emit_operator pending (hop sign)]
      intro hmem
      rcases List.mem_cons.1 hmem with he | hmem
      · exact hne he.symm
      · exact h ((List.dropWhile_sublist _).mem hmem)
  · exact h

/-- **What a lexeme puts out applies no brackets.** -/
theorem bracketFree_emit (sign : Bool) (lexeme : Lexeme) (h : .rightBracket ∉ pending) :
    (emit sign pending lexeme).1.BracketFree := by
  rcases lexeme with symbol | word
  · rcases bracket_or_operator symbol with rfl | rfl | ⟨-, hop⟩
    · rw [emit_openBracket]
      exact bracketFree_empty
    · rw [emit_closeBracket]
      refine (bracketFree_applying_takeWhile h).append ?_
      split
      · exact bracketFree_empty
      · exact bracketFree_stopped _
    · rw [emit_operator pending (hop sign)]
      refine bracketFree_applying fun op hmem => ?_
      have hbinds := List.mem_takeWhile_imp hmem
      have htop := of_decide_eq_true hbinds
      have hnonneg := hop sign
      omega
  · exact bracketFree_operand word

theorem bracketFree_emitEnd (h : .rightBracket ∉ pending) : (emitEnd pending).BracketFree := by
  refine (bracketFree_applying_takeWhile h).append ?_
  split
  · exact bracketFree_stopped _
  · exact bracketFree_empty

/-- **A translation applies no brackets.** -/
theorem bracketFree_translateFrom (lexemes : List Lexeme) (previous : Option Lexeme)
    (h : .rightBracket ∉ pending) : (translateFrom previous pending lexemes).BracketFree := by
  induction lexemes generalizing previous pending with
  | nil => exact bracketFree_emitEnd h
  | cons lexeme rest ih =>
    have hfirst := bracketFree_emit (signFollows previous) lexeme h
    exact hfirst.append (ih _ (rightBracket_notMem_emit _ lexeme h))

end Postfix

open Postfix in
/-- **An expression that has no value has a fault of a kind:** it comes of
an item, of what stopped the translator, or of the operands left over. -/
theorem kind_of_evaluate_eq_error {expression : String} {fault : Fault}
    (h : evaluate expression = .error fault) : ∃ kind, fault.kind? = some kind := by
  rw [evaluate_eq_value] at h
  rcases bind_eq_error_iff.1 h with hrun | ⟨left, -, hsingle⟩
  · rcases bind_eq_error_iff.1 hrun with hitems | ⟨left, -, hstop⟩
    · have hfree := bracketFree_translateFrom (tokenize expression) none List.not_mem_nil
      exact Code.kind_of_runItems_eq_error hfree hitems
    · cases hcode : (translate (tokenize expression)).stop with
      | none => rw [hcode] at hstop; cases hstop
      | some fault' =>
        rw [hcode] at hstop
        cases hstop
        rcases kind_of_translateFrom_stop hcode with hkind | hkind
        · exact ⟨_, hkind⟩
        · exact ⟨_, hkind⟩
  · exact ⟨_, Code.kind_of_single_eq_error hsingle⟩

end Reckoner
