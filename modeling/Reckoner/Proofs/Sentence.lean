import Reckoner.Proofs.Brackets
import Reckoner.Proofs.Faults
import Reckoner.Proofs.Grammar
/-!
# Sentences

Which lexemes are those of a syntax tree: those whose brackets close and
that each stand where they may (`isSentence_iff`). The evaluator checks
the brackets and the operands, and of where lexemes stand it checks only
how many operands there are, so that an expression it gives a value to is
a sentence exactly where its lexemes stand where they may
(`evaluate_rejects_iff`).
-/

namespace Reckoner

open Postfix

/-- **A sentence** of the grammar: the lexemes of a syntax tree, whose
words are operands. -/
def IsSentence (lexemes : List Lexeme) : Prop :=
  (∃ t : Tree .expression, t.lexemes = lexemes) ∧ AllOperands lexemes

/-! ## Where lexemes stand -/

/-- Whether a lexeme may stand where an operand is awaited, or where one
has just been read. -/
def Lexeme.Fits (awaited : Bool) : Lexeme → Prop
  | .word _ | .symbol .openBracket => awaited = true
  | .symbol .plus | .symbol .minus => True
  | .symbol .closeBracket | .symbol .star | .symbol .slash | .symbol .caret => awaited = false

/-- **Lexemes stand where they may,** and no operand is awaited at the
end. One is awaited where a sign may follow. -/
def Placed (awaited : Bool) : List Lexeme → Prop
  | [] => awaited = false
  | lexeme :: rest => lexeme.Fits awaited ∧ Placed (signFollows (some lexeme)) rest

instance (awaited : Bool) : DecidablePred (Lexeme.Fits awaited)
  | .word _ | .symbol .openBracket => inferInstanceAs (Decidable (awaited = true))
  | .symbol .plus | .symbol .minus => inferInstanceAs (Decidable True)
  | .symbol .closeBracket | .symbol .star | .symbol .slash | .symbol .caret =>
    inferInstanceAs (Decidable (awaited = false))

instance Placed.decidable : (awaited : Bool) → DecidablePred (Placed awaited)
  | awaited, [] => inferInstanceAs (Decidable (awaited = false))
  | awaited, lexeme :: rest =>
    have := Placed.decidable (signFollows (some lexeme)) rest
    inferInstanceAs (Decidable (lexeme.Fits awaited ∧ Placed (signFollows (some lexeme)) rest))

/-- A symbol is a bracket, or an operator of one of two levels. -/
theorem Symbol.cases_grammar (symbol : Symbol) :
    symbol = .openBracket ∨ symbol = .closeBracket ∨ (∃ sign : Sign, symbol = sign.symbol) ∨
      ∃ op : TermOp, symbol = op.symbol := by
  cases symbol with
  | openBracket => exact Or.inl rfl
  | closeBracket => exact Or.inr (Or.inl rfl)
  | plus => exact Or.inr (Or.inr (Or.inl ⟨.plus, rfl⟩))
  | minus => exact Or.inr (Or.inr (Or.inl ⟨.minus, rfl⟩))
  | star => exact Or.inr (Or.inr (Or.inr ⟨.times, rfl⟩))
  | slash => exact Or.inr (Or.inr (Or.inr ⟨.divide, rfl⟩))
  | caret => exact Or.inr (Or.inr (Or.inr ⟨.power, rfl⟩))

section Symbols

variable {awaited : Bool} {opened : Nat} {rest : List Lexeme}

theorem placed_sign (sign : Sign) :
    Placed awaited (.symbol sign.symbol :: rest) ↔ Placed true rest := by
  cases sign <;> exact ⟨And.right, And.intro trivial⟩

theorem placed_termOp (op : TermOp) :
    Placed awaited (.symbol op.symbol :: rest) ↔ awaited = false ∧ Placed true rest := by
  cases op <;> exact Iff.rfl

@[simp] theorem closes_sign (sign : Sign) :
    Closes opened (.symbol sign.symbol :: rest) ↔ Closes opened rest := by
  cases sign <;> exact Iff.rfl

@[simp] theorem closes_termOp (op : TermOp) :
    Closes opened (.symbol op.symbol :: rest) ↔ Closes opened rest := by
  cases op <;> exact Iff.rfl

end Symbols

namespace Tree

variable {l : Level}

/-- **The lexemes of a tree stand where they may,** if those after it do
after an operand. -/
theorem placed_lexemes (t : Tree l) {rest : List Lexeme} (h : Placed false rest) :
    Placed true (t.lexemes ++ rest) := by
  induction t generalizing rest with
  | operand word => exact ⟨rfl, h⟩
  | bracketed inner ih =>
    have hclosed : Placed false (.symbol .closeBracket :: rest) := ⟨rfl, h⟩
    rw [lexemes, List.cons_append, List.append_assoc]
    exact ⟨rfl, ih hclosed⟩
  | signed sign body ih =>
    rw [lexemes, List.cons_append, placed_sign]
    exact ih h
  | ofFactor factor ih => exact ih h
  | product left op right ihl ihr =>
    rw [lexemes, List.append_assoc, List.cons_append]
    exact ihl ((placed_termOp op).2 ⟨rfl, ihr h⟩)
  | ofTerm term ih => exact ih h
  | sum left sign right ihl ihr =>
    rw [lexemes, List.append_assoc, List.cons_append]
    exact ihl ((placed_sign sign).2 (ihr h))

/-- **The brackets of a tree close.** -/
theorem closes_lexemes (t : Tree l) (opened : Nat) (rest : List Lexeme) :
    Closes opened (t.lexemes ++ rest) ↔ Closes opened rest := by
  induction t generalizing opened rest with
  | operand word => exact Iff.rfl
  | bracketed inner ih =>
    rw [lexemes, List.cons_append, List.append_assoc, closes_openBracket, ih]
    exact Iff.rfl
  | signed sign body ih => rw [lexemes, List.cons_append, closes_sign, ih]
  | ofFactor factor ih => exact ih opened rest
  | product left op right ihl ihr =>
    rw [lexemes, List.append_assoc, ihl, List.cons_append, closes_termOp, ihr]
  | ofTerm term ih => exact ih opened rest
  | sum left sign right ihl ihr =>
    rw [lexemes, List.append_assoc, ihl, List.cons_append, closes_sign, ihr]

end Tree

/-! ## Trees read from left to right -/

/-- **A slot** for a tree of a level: what has been read to the left of it,
with this many brackets open. -/
inductive Slot : Tree.Level → Nat → List Lexeme → Prop where
  /-- An expression fits at the start. -/
  | start : Slot .expression 0 []
  /-- And after a bracket that opens where a factor fits. -/
  | bracket {opened left} : Slot .factor opened left →
      Slot .expression (opened + 1) (left ++ [.symbol .openBracket])
  /-- A term fits where an expression does. -/
  | firstTerm {opened left} : Slot .expression opened left → Slot .term opened left
  /-- And after an expression and a plus or minus. -/
  | nextTerm {opened left} (e : Tree .expression) (sign : Sign) : Slot .expression opened left →
      Slot .term opened (left ++ (e.lexemes ++ [.symbol sign.symbol]))
  /-- A factor fits where a term does. -/
  | firstFactor {opened left} : Slot .term opened left → Slot .factor opened left
  /-- And after a term and an operator. -/
  | nextFactor {opened left} (t : Tree .term) (op : TermOp) : Slot .term opened left →
      Slot .factor opened (left ++ (t.lexemes ++ [.symbol op.symbol]))
  /-- And after a sign. -/
  | sign {opened left} (front : Sign) : Slot .factor opened left →
      Slot .factor opened (left ++ [.symbol front.symbol])

namespace Slot

variable {opened : Nat} {left rest : List Lexeme}

/-- A factor in its slot ends a term in a slot of its own: signs in front
of the slot go to the factor. -/
theorem exists_term {l : Tree.Level} (h : Slot l opened left) (hl : l = .factor)
    (factor : Tree .factor) :
    ∃ left' : List Lexeme, ∃ term : Tree .term, Slot .term opened left' ∧
      left' ++ term.lexemes = left ++ factor.lexemes := by
  induction h generalizing factor with
  | start => cases hl
  | bracket _ _ => cases hl
  | firstTerm _ _ => cases hl
  | nextTerm _ _ _ _ => cases hl
  | @firstFactor _ left h _ => exact ⟨left, .ofFactor factor, h, rfl⟩
  | @nextFactor _ left t op h _ => exact ⟨left, .product t op factor, h, by simp [Tree.lexemes]⟩
  | sign front _ ih =>
    obtain ⟨left', term, hterm, heq⟩ := ih rfl (.signed front factor)
    exact ⟨left', term, hterm, by simpa [Tree.lexemes] using heq⟩

/-- A term in its slot ends an expression in a slot of its own. -/
theorem exists_expression (h : Slot .term opened left) (term : Tree .term) :
    ∃ left' : List Lexeme, ∃ e : Tree .expression, Slot .expression opened left' ∧
      left' ++ e.lexemes = left ++ term.lexemes := by
  cases h with
  | firstTerm h => exact ⟨left, .ofTerm term, h, rfl⟩
  | @nextTerm _ left e sign h => exact ⟨left, .sum e sign term, h, by simp [Tree.lexemes]⟩

/-- So a factor in its slot ends an expression. -/
theorem exists_expression_of_factor (h : Slot .factor opened left) (factor : Tree .factor) :
    ∃ left' : List Lexeme, ∃ e : Tree .expression, Slot .expression opened left' ∧
      left' ++ e.lexemes = left ++ factor.lexemes := by
  obtain ⟨left₁, term, hterm, heq₁⟩ := h.exists_term rfl factor
  obtain ⟨left₂, e, he, heq₂⟩ := hterm.exists_expression term
  exact ⟨left₂, e, he, heq₂.trans heq₁⟩

/-- With no bracket open, an expression in its slot is all there is. -/
theorem left_eq_nil (h : Slot .expression 0 left) : left = [] := by
  cases h
  rfl

/-- With one open, closing it makes the expression a factor. -/
theorem exists_factor (h : Slot .expression (opened + 1) left) (e : Tree .expression) :
    ∃ left' : List Lexeme, ∃ factor : Tree .factor, Slot .factor opened left' ∧
      left' ++ factor.lexemes = left ++ e.lexemes ++ [.symbol .closeBracket] := by
  cases h with
  | @bracket _ left h => exact ⟨left, .bracketed e, h, by simp [Tree.lexemes]⟩

/-- **What is left to read completes a tree,** where a factor is awaited
and after one, if its lexemes stand where they may and its brackets
close. -/
theorem exists_tree (rest : List Lexeme) :
    (∀ opened left, Slot .factor opened left → Placed true rest → Closes opened rest →
      ∃ t : Tree .expression, t.lexemes = left ++ rest) ∧
    (∀ opened left (factor : Tree .factor), Slot .factor opened left → Placed false rest →
      Closes opened rest → ∃ t : Tree .expression, t.lexemes = left ++ factor.lexemes ++ rest) := by
  -- both at once, since each lexeme takes the one to itself or to the other
  induction rest with
  | nil =>
    refine ⟨fun _ _ _ hplaced _ => Bool.noConfusion hplaced,
      fun opened left factor h _ hcloses => ?_⟩
    obtain ⟨left', e, he, heq⟩ := h.exists_expression_of_factor factor
    rw [closes_nil.1 hcloses] at he
    rw [he.left_eq_nil, List.nil_append] at heq
    exact ⟨e, by rw [heq, List.append_nil]⟩
  | cons lexeme rest ih =>
    obtain ⟨await, follow⟩ := ih
    constructor
    · intro opened left h hplaced hcloses
      rcases lexeme with symbol | word
      · rcases symbol.cases_grammar with rfl | rfl | ⟨sign, rfl⟩ | ⟨op, rfl⟩
        · -- a bracket opens a slot for an expression of its own
          have hslot := h.bracket.firstTerm.firstFactor
          obtain ⟨t, ht⟩ := await _ _ hslot hplaced.2 (closes_openBracket.1 hcloses)
          exact ⟨t, by rw [ht, List.append_assoc]; rfl⟩
        · cases hplaced.1
        · obtain ⟨t, ht⟩ := await _ _ (h.sign sign) ((placed_sign sign).1 hplaced)
            ((closes_sign sign).1 hcloses)
          exact ⟨t, by rw [ht, List.append_assoc]; rfl⟩
        · cases ((placed_termOp op).1 hplaced).1
      · obtain ⟨t, ht⟩ := follow _ _ (.operand word) h hplaced.2 hcloses
        exact ⟨t, by rw [ht, List.append_assoc]; rfl⟩
    · intro opened left factor h hplaced hcloses
      rcases lexeme with symbol | word
      · rcases symbol.cases_grammar with rfl | rfl | ⟨sign, rfl⟩ | ⟨op, rfl⟩
        · cases hplaced.1
        · -- a closing bracket ends the expression whose slot the last one opened
          obtain ⟨left', e, he, heq⟩ := h.exists_expression_of_factor factor
          cases opened with
          | zero => exact absurd hcloses not_closes_closeBracket
          | succ opened =>
            obtain ⟨left'', factor', hfactor, heq'⟩ := he.exists_factor e
            obtain ⟨t, ht⟩ := follow _ _ factor' hfactor hplaced.2 (closes_closeBracket.1 hcloses)
            exact ⟨t, by rw [ht, heq', heq, List.append_assoc]; rfl⟩
        · obtain ⟨left', e, he, heq⟩ := h.exists_expression_of_factor factor
          have hslot := (he.nextTerm e sign).firstFactor
          obtain ⟨t, ht⟩ := await _ _ hslot ((placed_sign sign).1 hplaced)
            ((closes_sign sign).1 hcloses)
          exact ⟨t, by rw [ht, ← heq]; simp⟩
        · obtain ⟨left', term, hterm, heq⟩ := h.exists_term rfl factor
          have hslot := hterm.nextFactor term op
          obtain ⟨t, ht⟩ := await _ _ hslot ((placed_termOp op).1 hplaced).2
            ((closes_termOp op).1 hcloses)
          exact ⟨t, by rw [ht, ← heq]; simp⟩
      · cases hplaced.1

end Slot

/-- **The sentences** are the lexemes that stand where they may, whose
brackets close, and whose words are operands. -/
theorem isSentence_iff (lexemes : List Lexeme) :
    IsSentence lexemes ↔ Placed true lexemes ∧ Closes 0 lexemes ∧ AllOperands lexemes := by
  constructor
  · rintro ⟨⟨t, rfl⟩, hoperands⟩
    have hplaced : Placed true (t.lexemes ++ []) := t.placed_lexemes rfl
    have hcloses := (t.closes_lexemes 0 []).2 rfl
    rw [List.append_nil] at hplaced hcloses
    exact ⟨hplaced, hcloses, hoperands⟩
  · rintro ⟨hplaced, hcloses, hoperands⟩
    have hslot := Slot.start.firstTerm.firstFactor
    exact ⟨(Slot.exists_tree lexemes).1 0 [] hslot hplaced hcloses, hoperands⟩

/-! ## What the evaluator accepts -/

/-- **Which expressions are rejected.** One that has a value has brackets
that close and words that are operands. One that is no sentence is
rejected, with a fault of the expression, exactly where having a value
means besides that its lexemes stand where they may. -/
theorem evaluate_rejects_iff (expression : String) :
    ((∃ v, evaluate expression = .ok v) →
        Closes 0 (tokenize expression) ∧ AllOperands (tokenize expression)) ∧
      ((¬ IsSentence (tokenize expression) →
          ∃ fault kind, evaluate expression = .error fault ∧ fault.kind? = some kind) ↔
        ((∃ v, evaluate expression = .ok v) → Placed true (tokenize expression))) := by
  refine ⟨?_, ?_, ?_⟩
  · rintro ⟨v, hv⟩
    exact closes_of_evaluate_eq_ok hv
  · rintro hreject ⟨v, hv⟩
    by_contra hplaced
    obtain ⟨fault, kind, hfault, -⟩ := hreject fun hsentence =>
      hplaced ((isSentence_iff _).1 hsentence).1
    rw [hv] at hfault
    cases hfault
  · intro hplaced hsentence
    cases hvalue : evaluate expression with
    | ok v =>
      obtain ⟨hcloses, hoperands⟩ := closes_of_evaluate_eq_ok hvalue
      have hsentence' := (isSentence_iff _).2 ⟨hplaced ⟨v, hvalue⟩, hcloses, hoperands⟩
      exact absurd hsentence' hsentence
    | error fault =>
      obtain ⟨kind, hkind⟩ := kind_of_evaluate_eq_error hvalue
      exact ⟨fault, kind, rfl, hkind⟩

/-- **An operator after both its operands** is accepted, and the expression
is no sentence. -/
theorem evaluate_postfix_plus :
    evaluate "1 2 +" = .ok 3 ∧ ¬ IsSentence (tokenize "1 2 +") := by
  have hlexemes : tokenize "1 2 +" = [.word ['1'], .word ['2'], .symbol .plus] := rfl
  have hvalue : evaluate "1 2 +" = .ok (1 + 2) := rfl
  have hsum : (1 : Float) + 2 = 3 := by decide +kernel
  refine ⟨by rw [hvalue, hsum], fun hsentence => ?_⟩
  rw [hlexemes, isSentence_iff] at hsentence
  exact absurd hsentence.1 (by decide)

end Reckoner
