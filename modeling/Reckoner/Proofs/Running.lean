import Reckoner.Evaluation
import Reckoner.Proofs.Failing
/-!
# Runs

A run takes in lexemes one after the other. It splits wherever they do
(`run_append`), and one that fails does so at a certain lexeme, after a
run over those before it (`exists_step_of_run_eq_error`). An evaluation is
a run from empty stacks and what finishes it, so what is kept by a step is
kept up to there.
-/

namespace Reckoner

namespace Stacks

variable {s s' : Stacks} {sign sign' : Bool} {failure : Failure}

/-- One lexeme is a step. -/
theorem run_singleton (s : Stacks) (sign : Bool) (lexeme : Lexeme) :
    s.run sign [lexeme] = s.step lexeme sign := by
  rw [run]
  cases s.step lexeme sign <;> rfl

/-- **A run splits where its lexemes do.** -/
theorem run_append (s : Stacks) (sign : Bool) (before after : List Lexeme) :
    s.run sign (before ++ after) =
      s.run sign before >>= fun (s, sign) => s.run sign after := by
  induction before generalizing s sign with
  | nil => rfl
  | cons lexeme before ih =>
    rw [List.cons_append, run, run, bind_assoc]
    exact bind_congr fun (s, sign) => ih s sign

/-- **A run that fails** does so at a lexeme that it comes to. -/
theorem exists_step_of_run_eq_error {lexemes : List Lexeme}
    (h : s.run sign lexemes = .error failure) :
    ∃ before lexeme after s' sign', lexemes = before ++ lexeme :: after ∧
      s.run sign before = .ok (s', sign') ∧ s'.step lexeme sign' = .error failure := by
  induction lexemes generalizing s sign with
  | nil => cases h
  | cons lexeme rest ih =>
    rcases bind_eq_error_iff.1 h with hstep | ⟨⟨s₁, sign₁⟩, hstep, hrest⟩
    · exact ⟨[], lexeme, rest, s, sign, rfl, rfl, hstep⟩
    · obtain ⟨before, last, after, s', sign', rfl, hbefore, hlast⟩ := ih hrest
      refine ⟨lexeme :: before, last, after, s', sign', rfl, ?_, hlast⟩
      rw [run, hstep]
      exact hbefore

/-- **An end with a value:** the reduction leaves no operator and one
operand, which is the value and stays on its stack. -/
theorem finish_eq_ok_iff {v : Float} {left : Stacks} :
    s.finish = .ok (v, left) ↔ s.reduceToBracket = .ok ⟨[], [v]⟩ ∧ left = ⟨[], [v]⟩ := by
  rw [finish, bind_eq_ok_iff]
  constructor
  · rintro ⟨⟨operators, operands⟩, hreduce, hmatch⟩
    match operators, operands with
    | [], [a] =>
      cases hmatch
      exact ⟨hreduce, rfl⟩
    | _ :: _, _ => cases hmatch
    | [], [] => cases hmatch
    | [], _ :: _ :: _ => cases hmatch
  · rintro ⟨hreduce, rfl⟩
    exact ⟨_, hreduce, rfl⟩

end Stacks

/-! ## Evaluations -/

/-- An evaluation keeps of its stacks the value, or the fault. -/
theorem evaluate_eq_forget (expression : String) :
    evaluate expression =
      (Failure.forget (evaluateLexemes (tokenize expression))).map Prod.fst := by
  rw [evaluate]
  cases evaluateLexemes (tokenize expression) <;> rfl

/-- **A value** is what finishes a run over the whole expression. -/
theorem evaluate_eq_ok_iff {expression : String} {v : Float} :
    evaluate expression = .ok v ↔ ∃ s sign left,
      Stacks.run {} true (tokenize expression) = .ok (s, sign) ∧ s.finish = .ok (v, left) := by
  constructor
  · intro h
    rw [evaluate] at h
    cases hlexemes : evaluateLexemes (tokenize expression) with
    | error failure => rw [hlexemes] at h; cases h
    | ok result =>
      rw [hlexemes] at h
      cases h
      obtain ⟨⟨s, sign⟩, hrun, hfinish⟩ := bind_eq_ok_iff.1 hlexemes
      exact ⟨s, sign, result.2, hrun, hfinish⟩
  · rintro ⟨s, sign, left, hrun, hfinish⟩
    simp only [evaluate, evaluateLexemes, hrun, ok_bind, hfinish]

/-- **A fault** is met in the run, or in what finishes it. -/
theorem evaluate_eq_error_iff {expression : String} {fault : Fault} :
    evaluate expression = .error fault ↔ ∃ failure, failure.fault = fault ∧
      (Stacks.run {} true (tokenize expression) = .error failure ∨
        ∃ s sign, Stacks.run {} true (tokenize expression) = .ok (s, sign) ∧
          s.finish = .error failure) := by
  constructor
  · intro h
    rw [evaluate] at h
    cases hlexemes : evaluateLexemes (tokenize expression) with
    | ok result => rw [hlexemes] at h; cases h
    | error failure =>
      rw [hlexemes] at h
      cases h
      refine ⟨failure, rfl, ?_⟩
      rcases bind_eq_error_iff.1 hlexemes with hrun | ⟨⟨s, sign⟩, hrun, hfinish⟩
      · exact Or.inl hrun
      · exact Or.inr ⟨s, sign, hrun, hfinish⟩
  · rintro ⟨failure, rfl, hrun | ⟨s, sign, hrun, hfinish⟩⟩
    · simp only [evaluate, evaluateLexemes, hrun, error_bind]
    · simp only [evaluate, evaluateLexemes, hrun, ok_bind, hfinish]

end Reckoner
