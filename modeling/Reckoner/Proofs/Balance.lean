import Reckoner.Proofs.Brackets
import Reckoner.Proofs.Faults
import Reckoner.Proofs.Reductions
import Reckoner.Proofs.Running
/-!
# Balance

Brackets that close, told by the depth of what has been read: it is never
below zero, and zero at the end (`balanced_iff_closes`). The number of open
brackets is stored nowhere. It is the number of opening brackets that are
pending, and that is the depth: no reduction takes one off the stack, a
closing bracket takes off one, and where there is none it fails. So an
expression with a value is balanced, and one that is refused for its
brackets is not (`evaluate_brackets`). A reduction keeps the number, also if
it breaks off (`Reduced.opened_eq`, `BrokenOff.opened_eq`), and the steps and
the end are read off that.
-/

namespace Reckoner

/-- **The depth of lexemes:** how many brackets they open, less those they
close. -/
def depth (lexemes : List Lexeme) : Int :=
  (lexemes.count (.symbol .openBracket) : Int) - lexemes.count (.symbol .closeBracket)

/-- **Lexemes are balanced:** no bracket is closed that is not open, and
none is open at the end. -/
structure Balanced (lexemes : List Lexeme) : Prop where
  nonneg : ∀ read, read <+: lexemes → 0 ≤ depth read
  settled : depth lexemes = 0

@[simp] theorem depth_nil : depth [] = 0 := rfl

@[simp] theorem depth_append (before after : List Lexeme) :
    depth (before ++ after) = depth before + depth after := by
  simp only [depth, List.count_append]
  omega

theorem depth_cons (lexeme : Lexeme) (rest : List Lexeme) :
    depth (lexeme :: rest) = depth [lexeme] + depth rest :=
  depth_append [lexeme] rest

@[simp] theorem depth_word (word : List Char) : depth [.word word] = 0 := by
  simp [depth]

@[simp] theorem depth_openBracket : depth [.symbol .openBracket] = 1 := by
  decide

@[simp] theorem depth_closeBracket : depth [.symbol .closeBracket] = -1 := by
  decide

/-- An operator opens and closes nothing. -/
theorem depth_operator {symbol : Symbol} {sign : Bool}
    (h : 0 ≤ (symbol.operator sign).precedence) : depth [.symbol symbol] = 0 := by
  cases symbol with
  | openBracket => cases sign <;> exact absurd h (by decide)
  | closeBracket => cases sign <;> exact absurd h (by decide)
  | _ => decide

/-- With a lexeme in front, the depth is never below zero where it is not
below zero before that lexeme, nor anywhere from it on. -/
theorem depth_nonneg_cons (opened : Int) (lexeme : Lexeme) (rest : List Lexeme) :
    (∀ read, read <+: lexeme :: rest → 0 ≤ opened + depth read) ↔
      0 ≤ opened ∧ ∀ read, read <+: rest → 0 ≤ opened + depth [lexeme] + depth read := by
  constructor
  · intro h
    refine ⟨?_, fun read hread => ?_⟩
    · have hnil := h [] List.nil_prefix
      rw [depth_nil] at hnil
      omega
    · have hcons := h (lexeme :: read) (List.cons_prefix_cons.2 ⟨rfl, hread⟩)
      rw [depth_cons] at hcons
      omega
  · rintro ⟨hopened, hrest⟩ read hread
    rcases List.prefix_cons_iff.1 hread with rfl | ⟨tail, rfl, htail⟩
    · rw [depth_nil]
      omega
    · have hnonneg := hrest tail htail
      rw [depth_cons]
      omega

/-- **Brackets close,** with a number of them open before, where that and
the depth together are never below zero, and are zero at the end. -/
theorem closes_iff_depth (opened : Nat) (lexemes : List Lexeme) :
    Closes opened lexemes ↔
      (∀ read, read <+: lexemes → 0 ≤ opened + depth read) ∧ opened + depth lexemes = 0 := by
  induction lexemes generalizing opened with
  | nil =>
    rw [closes_nil]
    constructor
    · rintro rfl
      refine ⟨fun read hread => ?_, rfl⟩
      rw [List.prefix_nil.1 hread, depth_nil]
      omega
    · rintro ⟨-, hsettled⟩
      rw [depth_nil] at hsettled
      omega
  | cons lexeme rest ih =>
    have hopened : (0 : Int) ≤ opened := Int.natCast_nonneg opened
    rw [depth_nonneg_cons, depth_cons lexeme rest, ← Int.add_assoc, and_assoc,
      and_iff_right hopened]
    rcases lexeme with symbol | word
    · rcases Postfix.bracket_or_operator symbol with rfl | rfl | ⟨-, hop⟩
      · rw [closes_openBracket, ih, depth_openBracket, Int.natCast_succ]
      · rw [depth_closeBracket]
        cases opened with
        | zero =>
          -- the bracket alone takes the depth below zero
          refine iff_of_false not_closes_closeBracket ?_
          rintro ⟨hnonneg, -⟩
          have hnil := hnonneg [] List.nil_prefix
          rw [depth_nil] at hnil
          omega
        | succ opened =>
          have hless : ((opened + 1 : Nat) : Int) + -1 = opened := by omega
          rw [closes_closeBracket, ih, hless]
      · rw [closes_operator (hop true), ih, depth_operator (hop true), Int.add_zero]
    · rw [closes_word, ih, depth_word, Int.add_zero]

/-- Lexemes are balanced where their brackets close. -/
theorem balanced_iff_closes (lexemes : List Lexeme) : Balanced lexemes ↔ Closes 0 lexemes := by
  rw [closes_iff_depth]
  constructor
  · intro h
    refine ⟨fun read hread => ?_, ?_⟩
    · have hnonneg := h.nonneg read hread
      omega
    · have hsettled := h.settled
      omega
  · rintro ⟨hnonneg, hsettled⟩
    refine ⟨fun read hread => ?_, ?_⟩
    · have hread := hnonneg read hread
      omega
    · omega

/-- **What an operator fails with** has nothing to do with brackets that
match or do not. -/
theorem Operator.kind_ne_of_apply_eq_error {op : Operator} {operands left : List Float}
    {fault : Fault} (h : op.apply operands = .error (fault, left)) :
    fault.kind? ≠ some .mismatchedBrackets := by
  intro hmatched
  cases Operator.refuses_of_apply_eq_error h with
  | computation haction hf =>
    rcases Operator.kind_of_binary_eq_error haction hf with hkind | hkind
    · cases hkind.symm.trans hmatched
    · cases hkind.symm.trans hmatched
  | bracket => cases hmatched
  | wanting => cases hmatched

namespace Stacks

/-- How many brackets are open. -/
def opened (s : Stacks) : Nat :=
  s.operators.count .leftBracket

/-! ## What a reduction can do -/

/-- Operators above the nearest bracket leave as many of them open. -/
theorem Reduced.opened_eq {s left : Stacks} {taken : List Operator} (h : s.Reduced taken left)
    (hnone : .leftBracket ∉ taken) : left.opened = s.opened := by
  rw [opened, opened, h.operators, List.count_append, List.count_eq_zero_of_not_mem hnone,
    Nat.zero_add]

/-- **A reduction that breaks off at an operator** leaves as many open too,
and it does not fail for the brackets. -/
theorem BrokenOff.opened_eq {s : Stacks} {taken : List Operator} {op : Operator}
    {failure : Failure} (h : s.BrokenOff taken op failure) (hnone : .leftBracket ∉ op :: taken) :
    failure.left.opened = s.opened ∧ failure.fault.kind? ≠ some .mismatchedBrackets := by
  obtain ⟨hreduced, hfails⟩ := h
  obtain ⟨hop, htaken⟩ := not_or.1 (mt List.mem_cons.2 hnone)
  refine ⟨?_, Operator.kind_ne_of_apply_eq_error hfails⟩
  rw [← hreduced.opened_eq htaken]
  exact (List.count_cons_of_ne (Ne.symm hop)).symm

/-- A reduction to the nearest bracket comes to one, or to the end of the
stack. -/
theorem reduceToBracket_ends (s : Stacks) :
    Ends s.reduceToBracket
      (fun s' => s'.opened = s.opened ∧
        (s'.operators = [] ∨ ∃ below, s'.operators = .leftBracket :: below))
      fun failure => failure.left.opened = s.opened ∧
        failure.fault.kind? ≠ some .mismatchedBrackets := by
  refine s.reduceToBracket_reduces.mono ?_ ?_
  · rintro s' ⟨⟨taken, hreduced, htaken⟩, hstop⟩
    exact ⟨hreduced.opened_eq htaken, hstop⟩
  · rintro failure ⟨taken, op, hbroken, hnone⟩
    exact hbroken.opened_eq hnone

/-! ## Steps -/

/-- **Closing a bracket** takes one off, and fails for the brackets only
where none is open. -/
theorem closeBracket_ends (s : Stacks) :
    Ends s.closeBracket (fun s' => s'.opened + 1 = s.opened) fun failure =>
      failure.left.opened = s.opened ∧
        (failure.fault.kind? = some .mismatchedBrackets → s.opened = 0) := by
  refine s.reduceToBracket_ends.bind ?_ fun failure ⟨hleft, hkind⟩ =>
    ⟨hleft, fun h => absurd h hkind⟩
  rintro ⟨operators, operands⟩ ⟨hopened, hend⟩
  rw [← hopened]
  rcases hend with rfl | ⟨below, rfl⟩
  · exact ⟨rfl, fun _ => rfl⟩
  · exact List.count_cons_self.symm

/-- **Pushing an operator** leaves the brackets as they are. -/
theorem pushOperator_ends {op : Operator} (hop : 0 ≤ op.precedence) (s : Stacks) :
    Ends (s.pushOperator op) (fun s' => s'.opened = s.opened) fun failure =>
      failure.left.opened = s.opened ∧ failure.fault.kind? ≠ some .mismatchedBrackets := by
  have hne : op ≠ .leftBracket := (Operator.precedence_nonneg_iff.1 hop).1
  -- an operator that binds at least as tightly is no bracket
  have hnone : ∀ {ops : List Operator}, (∀ top ∈ ops, op.precedence ≤ top.precedence) →
      .leftBracket ∉ ops := fun hops hmem =>
    Operator.not_precedence_le_leftBracket hop (hops _ hmem)
  refine (pushOperator_reduces op s).mono ?_ ?_
  · rintro ⟨_, operands⟩ ⟨taken, below, rfl, hreduced, htaken, -⟩
    have hcount : (op :: below).count .leftBracket = below.count .leftBracket :=
      List.count_cons_of_ne hne
    exact hcount.trans (hreduced.opened_eq (hnone htaken))
  · rintro failure ⟨taken, last, hbroken, htaken⟩
    exact hbroken.opened_eq (hnone htaken)

open Postfix in
/-- **A step** goes as deep as its lexeme does. One that fails leaves the
brackets as they are, and fails for them only where it closes one and none
is open. -/
theorem step_ends (s : Stacks) (lexeme : Lexeme) (sign : Bool) :
    Ends (s.step lexeme sign) (fun after => (after.1.opened : Int) = s.opened + depth [lexeme])
      fun failure => failure.left.opened = s.opened ∧
        (failure.fault.kind? = some .mismatchedBrackets →
          lexeme = .symbol .closeBracket ∧ s.opened = 0) := by
  rcases lexeme with symbol | word
  · rcases bracket_or_operator symbol with rfl | rfl | ⟨-, hop⟩
    · rw [step_openBracket, depth_openBracket]
      have hcount : (Operator.leftBracket :: s.operators).count .leftBracket = s.opened + 1 :=
        List.count_cons_self
      exact congrArg Int.ofNat hcount
    · rw [step_closeBracket, depth_closeBracket]
      refine s.closeBracket_ends.bind (fun s' hs' => ?_) fun failure ⟨hleft, hkind⟩ =>
        ⟨hleft, fun h => ⟨rfl, hkind h⟩⟩
      show (s'.opened : Int) = s.opened + -1
      omega
    · rw [step_operator s (hop sign), depth_operator (hop sign)]
      refine (s.pushOperator_ends (hop sign)).bind (fun s' hs' => ?_) fun failure ⟨hleft, hkind⟩ =>
        ⟨hleft, fun h => absurd h hkind⟩
      show (s'.opened : Int) = s.opened + 0
      omega
  · rw [depth_word, step]
    cases hvalue : Operand.value word with
    | ok v => exact (Int.add_zero _).symm
    | error fault =>
      refine ⟨rfl, fun h => ?_⟩
      rw [Operand.value_eq_error hvalue] at h
      cases h

/-- **The end** comes to a value where no bracket is open, and fails for
the brackets only where one is. -/
theorem finish_ends (s : Stacks) :
    Ends s.finish (fun after => s.opened = 0 ∧ after.2.opened = 0) fun failure =>
      failure.left.opened = s.opened ∧
        (failure.fault.kind? = some .mismatchedBrackets → 0 < s.opened) := by
  refine s.reduceToBracket_ends.bind ?_ fun failure ⟨hleft, hkind⟩ =>
    ⟨hleft, fun h => absurd h hkind⟩
  rintro ⟨operators, operands⟩ ⟨hopened, hend⟩
  rw [← hopened]
  rcases hend with rfl | ⟨below, rfl⟩
  · match operands with
    | [v] => exact ⟨rfl, rfl⟩
    | [] => exact ⟨rfl, fun h => by cases h⟩
    | _ :: _ :: _ => exact ⟨rfl, fun h => by cases h⟩
  · refine ⟨rfl, fun _ => ?_⟩
    rw [opened, List.count_cons_self]
    omega

/-! ## Runs -/

/-- **A run** goes as deep as its lexemes do. -/
theorem opened_run {s s' : Stacks} {sign sign' : Bool} {lexemes : List Lexeme}
    (h : s.run sign lexemes = .ok (s', sign')) : (s'.opened : Int) = s.opened + depth lexemes := by
  induction lexemes generalizing s sign with
  | nil =>
    cases h
    exact (Int.add_zero _).symm
  | cons lexeme rest ih =>
    obtain ⟨⟨s₁, sign₁⟩, hstep, hrest⟩ := bind_eq_ok_iff.1 h
    have hfirst : (s₁.opened : Int) = s.opened + depth [lexeme] :=
      (s.step_ends lexeme sign).of_ok hstep
    have hafter := ih hrest
    rw [depth_cons]
    omega

/-- **Stacks are reached** when these lexemes have been read: those that a
run from empty stacks leads to, and those that the next step leaves if it
fails, or the end. -/
inductive Reached (read : List Lexeme) : Stacks → Prop where
  | run {s sign} : run {} true read = .ok (s, sign) → Reached read s
  | failedStep {s sign lexeme failure} : run {} true read = .ok (s, sign) →
      s.step lexeme sign = .error failure → Reached read failure.left
  | failedEnd {s sign failure} : run {} true read = .ok (s, sign) →
      s.finish = .error failure → Reached read failure.left
  | finished {s sign v s'} : run {} true read = .ok (s, sign) →
      s.finish = .ok (v, s') → Reached read s'

/-- **As many brackets are open as the depth is,** wherever an evaluation
gets to. -/
theorem Reached.opened_eq {read : List Lexeme} {s : Stacks} (h : Reached read s) :
    (s.opened : Int) = depth read := by
  have hrun : ∀ {s sign}, Stacks.run {} true read = .ok (s, sign) → (s.opened : Int) = depth read :=
    fun hrun => (opened_run hrun).trans (Int.zero_add _)
  cases h with
  | run hs => exact hrun hs
  | failedStep hs hstep =>
    have hopened := hrun hs
    have hleft := ((step_ends _ _ _).of_error hstep).1
    omega
  | failedEnd hs hend =>
    have hopened := hrun hs
    have hleft := ((finish_ends _).of_error hend).1
    omega
  | @finished s₁ _ _ _ hs hend =>
    have hopened := hrun hs
    have hends : s₁.opened = 0 ∧ s.opened = 0 := s₁.finish_ends.of_ok hend
    omega

end Stacks

open Stacks

/-- An expression that has a value is balanced. -/
theorem balanced_of_evaluate_eq_ok {expression : String} {v : Float}
    (h : evaluate expression = .ok v) : Balanced (tokenize expression) :=
  (balanced_iff_closes _).2 (closes_of_evaluate_eq_ok h).1

/-- One that is refused for its brackets is not. -/
theorem not_balanced_of_evaluate_eq_error {expression : String} {fault : Fault}
    (h : evaluate expression = .error fault) (hkind : fault.kind? = some .mismatchedBrackets) :
    ¬ Balanced (tokenize expression) := by
  intro hbalanced
  obtain ⟨failure, rfl, hrun | ⟨s, sign, hrun, hfinish⟩⟩ := evaluate_eq_error_iff.1 h
  · obtain ⟨before, lexeme, after, s, sign, heq, hbefore, hstep⟩ :=
      exists_step_of_run_eq_error hrun
    have hopened := (Reached.run hbefore).opened_eq
    obtain ⟨rfl, hzero⟩ := ((s.step_ends lexeme sign).of_error hstep).2 hkind
    -- with the bracket that closes none, the depth is below zero
    have hread : before ++ [.symbol .closeBracket] <+: tokenize expression :=
      ⟨after, by rw [heq, List.append_assoc, List.singleton_append]⟩
    have hnonneg := hbalanced.nonneg _ hread
    rw [depth_append, depth_closeBracket] at hnonneg
    omega
  · have hopened := (Reached.run hrun).opened_eq
    have hsettled := hbalanced.settled
    have hpositive := (s.finish_ends.of_error hfinish).2 hkind
    omega

/-- **Faults of brackets are found, and are real.** An expression with a
value is balanced, so that one which is not balanced has a fault of some
kind. One that is refused for its brackets is not balanced, whatever else
is wrong with it. And at any moment as many opening brackets are pending
as have been read, less the closing ones. -/
theorem evaluate_brackets (expression : String) :
    ((∃ v, evaluate expression = .ok v) → Balanced (tokenize expression)) ∧
      (¬ Balanced (tokenize expression) →
        ∃ fault kind, evaluate expression = .error fault ∧ fault.kind? = some kind) ∧
      (∀ fault, evaluate expression = .error fault →
        fault.kind? = some .mismatchedBrackets → ¬ Balanced (tokenize expression)) ∧
      ∀ read s, Reached read s → (s.operators.count .leftBracket : Int) = depth read := by
  refine ⟨?_, fun hunbalanced => ?_, ?_, fun read s h => h.opened_eq⟩
  · rintro ⟨v, hv⟩
    exact balanced_of_evaluate_eq_ok hv
  · cases hvalue : evaluate expression with
    | ok v => exact absurd (balanced_of_evaluate_eq_ok hvalue) hunbalanced
    | error fault =>
      obtain ⟨kind, hkind⟩ := kind_of_evaluate_eq_error hvalue
      exact ⟨fault, kind, rfl, hkind⟩
  · intro fault hfault hkind
    exact not_balanced_of_evaluate_eq_error hfault hkind

/-- A constant in brackets, and behind a bracket that is left open. -/
theorem evaluate_brackets_constant :
    Balanced (tokenize "(pi)") ∧ evaluate "(pi" = .error .unclosedBracket ∧
      ¬ Balanced (tokenize "(pi") := by
  have hvalue : evaluate "(pi)" = .ok 3.141592653589793 := by rfl
  have hfault : evaluate "(pi" = .error .unclosedBracket := by rfl
  have hbalanced := (evaluate_brackets "(pi)").1
  have hrefused := (evaluate_brackets "(pi").2.2.1
  exact ⟨hbalanced ⟨_, hvalue⟩, hfault, hrefused _ hfault rfl⟩

end Reckoner
