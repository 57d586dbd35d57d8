import Reckoner.Stacks
/-!
# Computations that may fail

What follows a computation follows its value, and a failure ends it all.
A failed operation on the stacks says what went wrong and what it left;
`Failure.forget` keeps the first and drops the second, so that it can be
compared with a computation that has no stacks.
-/

namespace Reckoner

section Except

variable {α β ε : Type}

@[simp] theorem ok_bind (a : α) (f : α → Except ε β) : (.ok a >>= f) = f a := rfl

@[simp] theorem error_bind (e : ε) (f : α → Except ε β) :
    ((.error e : Except ε α) >>= f) = .error e := rfl

/-- A computation in two parts succeeds where both do. -/
theorem bind_eq_ok_iff {x : Except ε α} {f : α → Except ε β} {b : β} :
    (x >>= f) = .ok b ↔ ∃ a, x = .ok a ∧ f a = .ok b := by
  cases x <;> simp

/-- And fails where the first of them does, or the second on what the
first gives. -/
theorem bind_eq_error_iff {x : Except ε α} {f : α → Except ε β} {e : ε} :
    (x >>= f) = .error e ↔ x = .error e ∨ ∃ a, x = .ok a ∧ f a = .error e := by
  cases x <;> simp

/-- If the second part cannot fail, it is the first that does. -/
theorem eq_error_of_bind_ok {x : Except ε α} {f : α → β} {e : ε}
    (h : (x >>= fun a => .ok (f a)) = .error e) : x = .error e := by
  cases x with
  | ok a => cases h
  | error e' => exact congrArg Except.error (Except.error.inj h)

@[simp] theorem mapError_ok {ε' : Type} (a : α) (f : ε → ε') :
    (.ok a : Except ε α).mapError f = .ok a := rfl

@[simp] theorem mapError_error {ε' : Type} (e : ε) (f : ε → ε') :
    (.error e : Except ε α).mapError f = .error (f e) := rfl

/-- Failing in other words is no success. -/
theorem mapError_eq_ok_iff {ε' : Type} {x : Except ε α} {f : ε → ε'} {a : α} :
    x.mapError f = .ok a ↔ x = .ok a := by
  cases x with
  | ok b =>
    constructor <;> rintro ⟨⟩ <;> rfl
  | error e =>
    constructor <;> rintro ⟨⟩

/-- **What a computation comes to:** where it succeeds, its value has the
property `P`, and where it fails, its failure has the property `Q`. -/
def Ends (x : Except ε α) (P : α → Prop) (Q : ε → Prop) : Prop :=
  match x with
  | .ok a => P a
  | .error e => Q e

namespace Ends

variable {x : Except ε α} {P : α → Prop} {Q : ε → Prop}

theorem of_ok {a : α} (h : Ends x P Q) (hx : x = .ok a) : P a := by
  rw [hx] at h
  exact h

theorem of_error {e : ε} (h : Ends x P Q) (hx : x = .error e) : Q e := by
  rw [hx] at h
  exact h

theorem mono {P' : α → Prop} {Q' : ε → Prop} (h : Ends x P Q) (hok : ∀ a, P a → P' a)
    (herror : ∀ e, Q e → Q' e) : Ends x P' Q' := by
  cases x with
  | ok a => exact hok a h
  | error e => exact herror e h

/-- **A computation in two parts** comes to what the second does, or to the
failure of the first. -/
theorem bind {f : α → Except ε β} {P' : β → Prop} {Q' : ε → Prop} (h : Ends x P Q)
    (hok : ∀ a, P a → Ends (f a) P' Q') (herror : ∀ e, Q e → Q' e) :
    Ends (x >>= f) P' Q' := by
  cases x with
  | ok a => exact hok a h
  | error e => exact herror e h

end Ends

end Except

namespace Failure

variable {α β : Type}

/-- Keeps of a failure what went wrong, and not the stacks it left. -/
def forget (x : Except Failure α) : Except Fault α :=
  x.mapError Failure.fault

@[simp] theorem forget_ok (a : α) : forget (.ok a) = .ok a := rfl

@[simp] theorem forget_error (failure : Failure) :
    forget (.error failure : Except Failure α) = .error failure.fault := rfl

/-- What is left by a failure does not matter to what follows it. -/
theorem forget_bind (x : Except Failure α) (f : α → Except Failure β) :
    forget (x >>= f) = forget x >>= fun a => forget (f a) := by
  cases x <;> rfl

end Failure

/-! ## What fails, and how -/

/-- Only a word that is no operand fails to have a value. -/
theorem Operand.value_eq_error {word : List Char} {fault : Fault}
    (h : Operand.value word = .error fault) : fault = .invalidOperand word := by
  unfold Operand.value at h
  split at h
  · cases h
  · split at h
    · cases h
    · cases h; rfl

/-- Only a division by zero fails. -/
theorem Operator.quotient_eq_error {a b : Float} {fault : Fault}
    (h : Operator.quotient a b = .error fault) : fault = .divisionByZero := by
  unfold Operator.quotient at h
  split at h
  · cases h; rfl
  · cases h

/-- A power fails where it is not defined. -/
theorem Power.kind_of_raise_eq_error {a b : Float} {fault : Fault}
    (h : Power.raise a b = .error fault) : fault.kind? = some .invalidDomain := by
  simp only [Power.raise, Power.raiseWith] at h
  split at h
  · cases h; rfl
  · split at h
    · cases h
    · cases h; rfl
    · cases h

/-- What a binary operator can fail with, given both its operands. -/
theorem Operator.kind_of_binary_eq_error {op : Operator} {f : Float → Float → Except Fault Float}
    {a b : Float} {fault : Fault} (hop : op.action = .binary f) (h : f a b = .error fault) :
    fault.kind? = some .divisionByZero ∨ fault.kind? = some .invalidDomain := by
  cases op <;> cases hop
  · cases h
  · cases h
  · cases h
  · rw [Operator.quotient_eq_error h]
    exact Or.inl rfl
  · exact Or.inr (Power.kind_of_raise_eq_error h)

/-- Only a bracket is a boundary. -/
theorem Operator.bracket_of_boundary {op : Operator} (h : op.action = .boundary) :
    op = .leftBracket ∨ op = .rightBracket := by
  cases op with
  | leftBracket => exact Or.inl rfl
  | rightBracket => exact Or.inr rfl
  | _ => cases h

/-- **How an operator is applied:** it joins two operands, or replaces
one. -/
theorem Operator.apply_eq_ok {op : Operator} {operands left : List Float}
    (h : op.apply operands = .ok left) :
    (∃ f a b v rest, op.action = .binary f ∧ f a b = .ok v ∧ operands = b :: a :: rest ∧
        left = v :: rest) ∨
      ∃ f a rest, op.action = .unary f ∧ operands = a :: rest ∧ left = f a :: rest := by
  unfold Operator.apply at h
  split at h
  · rename_i f b a rest haction
    cases hf : f a b with
    | ok v =>
      rw [hf] at h
      cases h
      exact Or.inl ⟨f, a, b, v, rest, haction, hf, rfl, rfl⟩
    | error fault =>
      rw [hf] at h
      cases h
  · rename_i f a rest haction
    cases h
    exact Or.inr ⟨f, a, rest, haction, rfl, rfl⟩
  · cases h
  · cases h

/-- An operator takes as many operands as its action has. -/
theorem Operator.arity_eq (op : Operator) :
    op.arity = match op.action with
      | .binary _ => 2
      | .unary _ => 1
      | .boundary => 0 := by
  cases op <;> rfl

/-- **How an operator fails,** and what it leaves of the operands. -/
inductive Operator.Refuses (op : Operator) : List Float → Fault → List Float → Prop where
  /-- What it computes has no result, and both operands are used up. -/
  | computation {f : Float → Float → Except Fault Float} {a b : Float} {rest : List Float}
      {fault : Fault} : op.action = .binary f → f a b = .error fault →
      Refuses op (b :: a :: rest) fault rest
  /-- It is a bracket. -/
  | bracket {operands : List Float} : op.action = .boundary →
      Refuses op operands (.bracketApplied op) operands
  /-- Operands are wanting. -/
  | wanting {operands : List Float} : operands.length < op.arity →
      Refuses op operands (.insufficientOperands op) operands

/-- **An operator that is applied and fails** does so in one of these
ways. -/
theorem Operator.refuses_of_apply_eq_error {op : Operator} {operands left : List Float}
    {fault : Fault} (h : op.apply operands = .error (fault, left)) :
    op.Refuses operands fault left := by
  have harity := op.arity_eq
  cases haction : op.action with
  | binary f =>
    rw [haction] at harity
    match operands with
    | b :: a :: rest =>
      cases hf : f a b with
      | ok v =>
        simp only [Operator.apply, haction, hf] at h
        cases h
      | error fault' =>
        simp only [Operator.apply, haction, hf] at h
        cases h
        exact .computation haction hf
    | [] | [_] =>
      simp only [Operator.apply, haction] at h
      cases h
      exact .wanting (by simp [harity])
  | unary f =>
    rw [haction] at harity
    match operands with
    | a :: rest =>
      simp only [Operator.apply, haction] at h
      cases h
    | [] =>
      simp only [Operator.apply, haction] at h
      cases h
      exact .wanting (by simp [harity])
  | boundary =>
    simp only [Operator.apply, haction] at h
    cases h
    exact .bracket haction

/-- **An operator that is no bracket fails with a fault of the
expression.** -/
theorem Operator.kind_of_apply_eq_error {op : Operator} {operands left : List Float}
    {fault : Fault} (hop : 0 ≤ op.precedence) (h : op.apply operands = .error (fault, left)) :
    ∃ kind, fault.kind? = some kind := by
  cases Operator.refuses_of_apply_eq_error h with
  | computation haction hf =>
    exact (Operator.kind_of_binary_eq_error haction hf).elim (⟨_, ·⟩) (⟨_, ·⟩)
  | bracket haction =>
    obtain ⟨hleft, hright⟩ := Operator.precedence_nonneg_iff.1 hop
    rcases Operator.bracket_of_boundary haction with heq | heq
    · exact absurd heq hleft
    · exact absurd heq hright
  | wanting => exact ⟨_, rfl⟩

end Reckoner
