import Reckoner.Proofs.Losses
/-!
# Layers of pending operators

The pending operators lie in layers, with an opening bracket between two of
them, and in a layer each operator binds tighter than the one below it
(`Layered`). An operator is pushed only on one that binds less tightly, and
everything else that is done to the stack opens a layer or takes operators
off the top; a failure takes off operators too, and puts none on. So the
stacks are layered after any commands, whether or not they fail
(`layered_performAll`). There are three levels of precedence, so a layer
holds three operators at most.
-/

namespace Reckoner

/-- **Operators in layers,** the top one first. No closing bracket is among
them, and from the bottom to the top of a layer they bind ever tighter. -/
structure Layered (ops : List Operator) : Prop where
  noClosing : .rightBracket ∉ ops
  increasing : ∀ layer, layer <:+: ops → .leftBracket ∉ layer →
    layer.Pairwise fun upper lower => lower.precedence < upper.precedence

namespace Layered

variable {op low : Operator} {ops below : List Operator}

theorem nil : Layered [] where
  noClosing := List.not_mem_nil
  increasing := by
    intro layer hlayer _
    rw [List.infix_nil.1 hlayer]
    exact .nil

/-- What is left when operators are taken off the top. -/
theorem of_suffix (h : Layered ops) (hsuffix : below <:+ ops) : Layered below where
  noClosing hmem := h.noClosing (hsuffix.subset hmem)
  increasing layer hlayer := h.increasing layer (hlayer.trans hsuffix.isInfix)

/-- An opening bracket opens a layer. -/
theorem openBracket (h : Layered ops) : Layered (.leftBracket :: ops) where
  noClosing hmem := h.noClosing ((List.mem_cons.1 hmem).resolve_left (by decide))
  increasing := by
    intro layer hlayer hnone
    rcases List.infix_cons_iff.1 hlayer with hprefix | hinfix
    · -- a layer at the top of the stack would hold the bracket
      rcases List.prefix_cons_iff.1 hprefix with rfl | ⟨rest, rfl, -⟩
      · exact .nil
      · exact absurd List.mem_cons_self hnone
    · exact h.increasing layer hinfix hnone

/-- **An operator is pushed** on one that binds less tightly. -/
theorem push (h : Layered below) (hop : 0 ≤ op.precedence)
    (htop : ∀ top ∈ below.head?, top.precedence < op.precedence) : Layered (op :: below) where
  noClosing hmem := by
    rcases List.mem_cons.1 hmem with heq | hmem
    · exact (Operator.precedence_nonneg_iff.1 hop).2 heq.symm
    · exact h.noClosing hmem
  increasing := by
    intro layer hlayer hnone
    rcases List.infix_cons_iff.1 hlayer with hprefix | hinfix
    · rcases List.prefix_cons_iff.1 hprefix with rfl | ⟨rest, rfl, hrest⟩
      · exact .nil
      · have hpair := h.increasing rest hrest.isInfix fun hmem =>
          hnone (List.mem_cons_of_mem _ hmem)
        refine List.pairwise_cons.2 ⟨fun lower hlower => ?_, hpair⟩
        -- the top one of the rest binds less tightly, and the others less than that
        cases rest with
        | nil => exact absurd hlower List.not_mem_nil
        | cons top rest =>
          obtain ⟨after, rfl⟩ := hrest
          have hless := htop top rfl
          rcases List.mem_cons.1 hlower with rfl | hlower
          · exact hless
          · exact Int.lt_trans (List.rel_of_pairwise_cons hpair hlower) hless
    · exact h.increasing layer hinfix hnone

/-! ## How high they are -/

/-- An operator binds tighter than what is right below it. -/
theorem precedence_lt (h : Layered (op :: low :: below)) (hop : op ≠ .leftBracket) :
    low.precedence < op.precedence := by
  have hclosing : op ≠ .rightBracket := fun heq => h.noClosing (heq ▸ List.mem_cons_self)
  by_cases hlow : low = .leftBracket
  · have hbinds := Operator.precedence_nonneg_iff.2 ⟨hop, hclosing⟩
    rw [hlow]
    exact Int.not_le.1 (Operator.not_precedence_le_leftBracket hbinds)
  · have hlayer : [op, low] <:+: op :: low :: below := ⟨[], below, rfl⟩
    have hnone : .leftBracket ∉ [op, low] := by
      simp [Ne.symm hop, Ne.symm hlow]
    exact List.rel_of_pairwise_cons (h.increasing _ hlayer hnone) List.mem_cons_self

theorem precedence_le_two (op : Operator) : op.precedence ≤ 2 := by
  cases op <;> decide

/-- **The top layer is as high as its top operator binds.** Each layer below
it has three operators at most, and a bracket on it. -/
theorem length_le_precedence (h : Layered (op :: below)) :
    ((op :: below).length : Int) ≤
      4 * (op :: below).count .leftBracket + (op.precedence + 1) := by
  induction below generalizing op with
  | nil =>
    have hclosing : op ≠ .rightBracket := fun heq => h.noClosing (heq ▸ List.mem_cons_self)
    by_cases hop : op = .leftBracket
    · rw [hop]
      decide
    · have hbinds := Operator.precedence_nonneg_iff.2 ⟨hop, hclosing⟩
      rw [List.count_cons_of_ne hop, List.count_nil, List.length_singleton]
      omega
  | cons low below ih =>
    have hheight := ih (h.of_suffix (List.suffix_cons _ _))
    rw [List.length_cons]
    by_cases hop : op = .leftBracket
    · have hbracket : Operator.leftBracket.precedence = -1 := rfl
      have htwo := precedence_le_two low
      rw [hop, hbracket, List.count_cons_self]
      omega
    · have hless := h.precedence_lt hop
      rw [List.count_cons_of_ne hop]
      omega

/-- **How many operators are pending,** by the brackets among them. -/
theorem length_le (h : Layered ops) : ops.length ≤ 4 * ops.count .leftBracket + 3 := by
  cases ops with
  | nil => exact Nat.zero_le _
  | cons op below =>
    have hheight := h.length_le_precedence
    have htwo := precedence_le_two op
    omega

end Layered

/-! ## Commands -/

namespace Session

variable {session : Session} {s s' : Stacks} {command : Command}

/-- The commands that put on the stack of operators no bracket but those of
lexemes, and no operator without reducing others before. -/
def Command.Orderly : Command → Prop
  | .pushOperator op => 0 ≤ op.precedence
  | .placeOperator _ => False
  | _ => True

/-- What a command leaves is what its operation does. -/
theorem perform_of_ends {P : Stacks → Prop}
    (h : Ends (perform.outcome session session.state command) (fun result => P result.1)
      fun failure => P failure.left) : P (session.perform command).1.state := by
  rw [perform]
  cases houtcome : perform.outcome session session.state command with
  | error failure => exact h.of_error houtcome
  | ok result =>
    have hresult := h.of_ok houtcome
    obtain ⟨s, reply⟩ := result
    cases reply <;> exact hresult

/-- A failure takes operators off, if anything. -/
theorem suffix_of_outcome_eq_error {failure : Failure}
    (h : perform.outcome session s command = .error failure) :
    failure.left.operators <:+ s.operators := by
  by_cases hcommand : ∃ op, command = .apply op
  · obtain ⟨op, rfl⟩ := hcommand
    have hkept := ((Stacks.reduce_applies op s).of_error (eq_error_of_bind_ok h)).2
    exact ⟨[], hkept⟩
  · exact (leaves_of_outcome_eq_error (fun op heq => hcommand ⟨op, heq⟩) h).suffix

/-- **A step** keeps the layers. -/
theorem layered_step {lexeme : Lexeme} {sign : Bool} {after : Stacks × Bool}
    (hs : Layered s.operators) (h : s.step lexeme sign = .ok after) :
    Layered after.1.operators := by
  cases (s.step_reduces lexeme sign).of_ok h with
  | operand => exact hs
  | openBracket => exact hs.openBracket
  | closeBracket hreduced =>
    exact hs.of_suffix ((List.suffix_cons _ _).trans hreduced.suffix)
  | operator hop hreduced _ htop => exact (hs.of_suffix hreduced.suffix).push hop htop

/-- **A command that succeeds** keeps the layers. -/
theorem layered_of_outcome_eq_ok {reply : Reply} (hcommand : command.Orderly)
    (hs : Layered s.operators) (h : perform.outcome session s command = .ok (s', reply)) :
    Layered s'.operators := by
  cases command with
  | step lexeme sign =>
    obtain ⟨after, hstep, heq⟩ := bind_eq_ok_iff.1 h
    cases heq
    exact layered_step hs hstep
  | reduceTop =>
    obtain ⟨left, hreduce, heq⟩ := bind_eq_ok_iff.1 h
    cases heq
    obtain ⟨op, hreduced⟩ := s.reduceTop_reduces.of_ok hreduce
    exact hs.of_suffix hreduced.suffix
  | closeBracket =>
    obtain ⟨left, hclose, heq⟩ := bind_eq_ok_iff.1 h
    cases heq
    obtain ⟨taken, hreduced, -⟩ := s.closeBracket_reduces.of_ok hclose
    exact hs.of_suffix ((List.suffix_cons _ _).trans hreduced.suffix)
  | finish =>
    obtain ⟨⟨v, left⟩, hfinish, heq⟩ := bind_eq_ok_iff.1 h
    cases heq
    obtain ⟨-, taken, hreduced⟩ := s.finish_reduces.of_ok hfinish
    exact hs.of_suffix hreduced.suffix
  | pushOperator op =>
    obtain ⟨left, hpush, heq⟩ := bind_eq_ok_iff.1 h
    cases heq
    obtain ⟨taken, below, hoperators, hreduced, -, htop⟩ := (s.pushOperator_reduces op).of_ok hpush
    rw [hoperators]
    exact (hs.of_suffix hreduced.suffix).push hcommand htop
  | apply op =>
    obtain ⟨left, hreduce, heq⟩ := bind_eq_ok_iff.1 h
    cases heq
    obtain ⟨-, hkept⟩ := (Stacks.reduce_applies op s).of_ok hreduce
    rw [hkept]
    exact hs
  | pushOperand v =>
    cases h
    exact hs
  | placeOperator op => exact hcommand.elim

/-- **Any orderly command keeps the layers,** whether or not it fails. -/
theorem layered_perform (hcommand : command.Orderly) (hs : Layered session.state.operators) :
    Layered (session.perform command).1.state.operators := by
  refine perform_of_ends (P := fun s => Layered s.operators) ?_
  cases houtcome : perform.outcome session session.state command with
  | ok result => exact layered_of_outcome_eq_ok hcommand hs houtcome
  | error failure => exact hs.of_suffix (suffix_of_outcome_eq_error houtcome)

/-- And so do any number of them. -/
theorem layered_of_mem_performAll {commands : List Command}
    (hcommands : ∀ command ∈ commands, command.Orderly) (hs : Layered session.state.operators) :
    ∀ answer ∈ session.performAll commands, Layered answer.state.operators := by
  induction commands generalizing session with
  | nil => exact fun _ hmem => absurd hmem List.not_mem_nil
  | cons command rest ih =>
    intro answer hmem
    have hfirst := layered_perform (hcommands command List.mem_cons_self) hs
    rcases List.mem_cons.1 hmem with rfl | hmem
    · exact hfirst
    · exact ih (fun c hc => hcommands c (List.mem_cons_of_mem _ hc)) hfirst answer hmem

/-- **Pending operators are always layered.** From empty stacks, after each
of any orderly commands, of which some may have failed, the stack of
operators is layered, and it holds four of them at most for each bracket
that is open, and three. -/
theorem layered_performAll (sign : Bool) (commands : List Command)
    (hcommands : ∀ command ∈ commands, command.Orderly) :
    ∀ answer ∈ performAll ⟨{}, sign⟩ commands,
      Layered answer.state.operators ∧
        answer.state.operators.length ≤ 4 * answer.state.operators.count .leftBracket + 3 := by
  intro answer hmem
  have hlayered := layered_of_mem_performAll hcommands .nil answer hmem
  exact ⟨hlayered, hlayered.length_le⟩

/-- A minus fails for want of an operand, and the lexemes after it make two
layers of three operators, which is as many as there can be. -/
theorem layered_performAll_full :
    let commands := (tokenize "-*e+e*-(e+e*-").map fun lexeme => .step lexeme none
    (∀ command ∈ commands, command.Orderly) ∧
      ∃ answer ∈ performAll ⟨{}, true⟩ commands, Layered answer.state.operators ∧
        answer.state.operators.length = 7 ∧ answer.state.operators.count .leftBracket = 1 := by
  intro commands
  have horderly : ∀ command ∈ commands, command.Orderly := by
    intro command hmem
    obtain ⟨lexeme, -, rfl⟩ := List.mem_map.1 hmem
    exact trivial
  have hlast : ∃ answer ∈ performAll ⟨{}, true⟩ commands,
      answer.state.operators = [.unaryMinus, .multiply, .add, .leftBracket, .unaryMinus, .multiply,
        .add] := ⟨_, List.getLast_mem (List.cons_ne_nil _ _), rfl⟩
  obtain ⟨answer, hmem, hoperators⟩ := hlast
  obtain ⟨hlayered, -⟩ := layered_performAll true commands horderly answer hmem
  refine ⟨horderly, answer, hmem, hlayered, ?_⟩
  rw [hoperators]
  decide

end Session

end Reckoner
