import Reckoner.Proofs.Failing
import Reckoner.Proofs.Spelling
/-!
# The grammar of expressions

Syntax trees of infix expressions, on three levels:

    expression := term (('+' | '-') term)*
    term       := factor (('*' | '/' | '^') factor)*
    factor     := ('+' | '-') factor | operand | '(' expression ')'

Operators of one level group to the left, power included, and a sign
binds tighter than any of them. `Tree.value` evaluates a tree from the
left operand to the right one to the operator. Where a factor has several
signs, `Tree.drifted` evaluates it another way: each sign but the last is
taken to change the operand to the left of the factor (`Tree.strays`).
-/

namespace Reckoner

/-- The levels of the grammar. -/
inductive Tree.Level where
  | expression | term | factor

/-- How tightly the operators of a level bind. -/
def Tree.Level.precedence : Tree.Level → Int
  | expression => 0
  | term => 1
  | factor => 2

/-! ## Operators of the grammar -/

/-- A plus or minus, in front of a factor or between two terms. -/
inductive Sign where
  | plus | minus
  deriving DecidableEq, Repr

namespace Sign

/-- How a sign is written. -/
def symbol : Sign → Symbol
  | plus => .plus
  | minus => .minus

/-- The operator in front of a factor. -/
def unary : Sign → Operator
  | plus => .unaryPlus
  | minus => .unaryMinus

/-- The operator between two terms. -/
def binary : Sign → Operator
  | plus => .add
  | minus => .subtract

@[simp] theorem operator_symbol_true (sign : Sign) : sign.symbol.operator true = sign.unary := by
  cases sign <;> rfl

@[simp] theorem operator_symbol_false (sign : Sign) : sign.symbol.operator false = sign.binary := by
  cases sign <;> rfl

@[simp] theorem precedence_unary (sign : Sign) : sign.unary.precedence = 2 := by
  cases sign <;> rfl

@[simp] theorem precedence_binary (sign : Sign) : sign.binary.precedence = 0 := by
  cases sign <;> rfl

/-- What a sign makes of the value of its factor. -/
def apply : Sign → Float → Float
  | plus, v => v
  | minus, v => -v

/-- What it makes of the values on its two sides. -/
def join : Sign → Float → Float → Float
  | plus, a, b => a + b
  | minus, a, b => a - b

/-- Signs applied one after the other. -/
def applyAll (signs : List Sign) (v : Float) : Float :=
  signs.foldl (fun v sign => sign.apply v) v

/-- A plus changes nothing. -/
theorem applyAll_of_minus_notMem {signs : List Sign} (h : .minus ∉ signs) (v : Float) :
    applyAll signs v = v := by
  induction signs with
  | nil => rfl
  | cons sign signs ih =>
    obtain ⟨hsign, hsigns⟩ := not_or.1 (List.mem_cons.not.1 h)
    cases sign with
    | plus => exact ih hsigns
    | minus => exact absurd rfl hsign

end Sign

/-- An operator between two factors. -/
inductive TermOp where
  | times | divide | power
  deriving DecidableEq, Repr

namespace TermOp

/-- How it is written. -/
def symbol : TermOp → Symbol
  | times => .star
  | divide => .slash
  | power => .caret

/-- The operator it is. -/
def operator : TermOp → Operator
  | times => .multiply
  | divide => .divide
  | power => .power

@[simp] theorem operator_symbol (op : TermOp) (sign : Bool) :
    op.symbol.operator sign = op.operator := by
  cases op <;> cases sign <;> rfl

@[simp] theorem precedence_operator (op : TermOp) : op.operator.precedence = 1 := by
  cases op <;> rfl

/-- What it makes of the values on its two sides. -/
def compute : TermOp → Float → Float → Except Fault Float
  | times, a, b => .ok (a * b)
  | divide, a, b => Operator.quotient a b
  | power, a, b => Power.raise a b

end TermOp

/-! ## Trees -/

/-- **A syntax tree.** -/
inductive Tree : Tree.Level → Type where
  | operand (word : List Char) : Tree .factor
  | bracketed (inner : Tree .expression) : Tree .factor
  | signed (sign : Sign) (body : Tree .factor) : Tree .factor
  | ofFactor (factor : Tree .factor) : Tree .term
  | product (left : Tree .term) (op : TermOp) (right : Tree .factor) : Tree .term
  | ofTerm (term : Tree .term) : Tree .expression
  | sum (left : Tree .expression) (sign : Sign) (right : Tree .term) : Tree .expression

namespace Tree

variable {l : Level}

/-- The lexemes of a tree, in order. -/
def lexemes {l : Level} : Tree l → List Lexeme
  | operand word => [.word word]
  | bracketed inner => .symbol .openBracket :: (inner.lexemes ++ [.symbol .closeBracket])
  | signed sign body => .symbol sign.symbol :: body.lexemes
  | ofFactor factor => factor.lexemes
  | product left op right => left.lexemes ++ .symbol op.symbol :: right.lexemes
  | ofTerm term => term.lexemes
  | sum left sign right => left.lexemes ++ .symbol sign.symbol :: right.lexemes

/-- **The value of a tree,** or the first fault met. -/
def value {l : Level} : Tree l → Except Fault Float
  | operand word => Operand.value word
  | bracketed inner => inner.value
  | signed sign body => do
    let v ← body.value
    return sign.apply v
  | ofFactor factor => factor.value
  | product left op right => do
    let a ← left.value
    let b ← right.value
    op.compute a b
  | ofTerm term => term.value
  | sum left sign right => do
    let a ← left.value
    let b ← right.value
    return sign.join a b

/-- Whether a tree is a factor with a sign in front. -/
def isSigned {l : Level} : Tree l → Bool
  | signed _ _ => true
  | _ => false

/-- No sign in the tree stands in front of another. -/
def SingleSigned {l : Level} : Tree l → Prop
  | operand _ => True
  | bracketed inner => inner.SingleSigned
  | signed _ body => body.isSigned = false ∧ body.SingleSigned
  | ofFactor factor => factor.SingleSigned
  | product left _ right => left.SingleSigned ∧ right.SingleSigned
  | ofTerm term => term.SingleSigned
  | sum left _ right => left.SingleSigned ∧ right.SingleSigned

/-! ## Signs that go astray -/

/-- The signs at the front of a tree that another sign follows, brackets
left aside. -/
def strays {l : Level} : Tree l → List Sign
  | operand _ => []
  | bracketed inner => inner.strays
  | signed sign body => if body.isSigned then sign :: body.strays else body.strays
  | ofFactor factor => factor.strays
  | product left _ _ => left.strays
  | ofTerm term => term.strays
  | sum left _ _ => left.strays

/-- **The value of a tree whose signs drift:** a sign that another one
follows changes the operand to the left, and not the factor it stands in
front of. -/
def drifted {l : Level} : Tree l → Except Fault Float
  | operand word => Operand.value word
  | bracketed inner => inner.drifted
  | signed sign body =>
    if body.isSigned then body.drifted
    else do
      let v ← body.drifted
      return sign.apply v
  | ofFactor factor => factor.drifted
  | product left op right => do
    let a ← left.drifted
    let b ← right.drifted
    op.compute (Sign.applyAll right.strays a) b
  | ofTerm term => term.drifted
  | sum left sign right => do
    let a ← left.drifted
    let b ← right.drifted
    return sign.join (Sign.applyAll right.strays a) b

/-- No minus drifts onto an operand to the left. -/
def Steady {l : Level} : Tree l → Prop
  | operand _ => True
  | bracketed inner => inner.Steady
  | signed _ body => body.Steady
  | ofFactor factor => factor.Steady
  | product left _ right => left.Steady ∧ right.Steady ∧ .minus ∉ right.strays
  | ofTerm term => term.Steady
  | sum left _ right => left.Steady ∧ right.Steady ∧ .minus ∉ right.strays

/-- **How a tree is read:** with drifting signs, which an operand has to
be there for. -/
def reading (t : Tree l) : Except Fault Float :=
  match t.strays with
  | [] => t.drifted
  | sign :: _ => .error (.insufficientOperands sign.unary)

/-! ## Where the two values agree -/

/-- **Without a drifting minus the two values are one.** -/
theorem drifted_of_steady {t : Tree l} (h : t.Steady) (hstrays : .minus ∉ t.strays) :
    t.drifted = t.value := by
  induction t with
  | operand word => rfl
  | bracketed inner ih => exact ih h hstrays
  | signed sign body ih =>
    rw [strays] at hstrays
    by_cases hbody : body.isSigned = true
    · rw [if_pos hbody] at hstrays
      obtain ⟨hsign, hrest⟩ := not_or.1 (List.mem_cons.not.1 hstrays)
      -- only a plus goes astray, and it changes nothing wherever it acts
      have hplus : sign = .plus := by cases sign <;> simp_all
      rw [drifted, if_pos hbody, ih h hrest, value, hplus]
      cases body.value <;> rfl
    · rw [if_neg hbody] at hstrays
      rw [drifted, if_neg hbody, ih h hstrays, value]
  | ofFactor factor ih => exact ih h hstrays
  | product left op right ihl ihr =>
    obtain ⟨hl, hr, hright⟩ := h
    simp only [drifted, value, ihl hl hstrays, ihr hr hright, Sign.applyAll_of_minus_notMem hright]
  | ofTerm term ih => exact ih h hstrays
  | sum left sign right ihl ihr =>
    obtain ⟨hl, hr, hright⟩ := h
    simp only [drifted, value, ihl hl hstrays, ihr hr hright, Sign.applyAll_of_minus_notMem hright]

/-- With one sign at most in front of a factor, none goes astray. -/
theorem strays_of_singleSigned {t : Tree l} (h : t.SingleSigned) : t.strays = [] := by
  induction t with
  | operand word => rfl
  | bracketed inner ih => exact ih h
  | signed sign body ih => rw [strays, if_neg (by simp [h.1]), ih h.2]
  | ofFactor factor ih => exact ih h
  | product left op right ihl _ => exact ihl h.1
  | ofTerm term ih => exact ih h
  | sum left sign right ihl _ => exact ihl h.1

theorem steady_of_singleSigned {t : Tree l} (h : t.SingleSigned) : t.Steady := by
  induction t with
  | operand word => trivial
  | bracketed inner ih => exact ih h
  | signed sign body ih => exact ih h.2
  | ofFactor factor ih => exact ih h
  | product left op right ihl ihr =>
    exact ⟨ihl h.1, ihr h.2, by simp [strays_of_singleSigned h.2]⟩
  | ofTerm term ih => exact ih h
  | sum left sign right ihl ihr =>
    exact ⟨ihl h.1, ihr h.2, by simp [strays_of_singleSigned h.2]⟩

/-- **With one sign at most in front of a factor a tree is read as it
is.** -/
theorem reading_of_singleSigned {t : Tree l} (h : t.SingleSigned) : t.reading = t.value := by
  have hstrays := strays_of_singleSigned h
  rw [reading, hstrays]
  exact drifted_of_steady (steady_of_singleSigned h) (by simp [hstrays])

/-- **Without a drifting minus a tree is read as it is,** or not at all. -/
theorem value_of_reading_steady {t : Tree l} (h : t.Steady) {v : Float}
    (hv : t.reading = .ok v) : t.value = .ok v := by
  rw [reading] at hv
  cases hstrays : t.strays with
  | nil =>
    rw [hstrays] at hv
    rw [← drifted_of_steady h (by simp [hstrays])]
    exact hv
  | cons sign signs =>
    rw [hstrays] at hv
    cases hv

/-! ## The faults of a tree -/

/-- What joins two factors fails in its arithmetic alone. -/
theorem kind_of_compute_eq_error {op : TermOp} {a b : Float} {fault : Fault}
    (h : op.compute a b = .error fault) :
    fault.kind? = some .divisionByZero ∨ fault.kind? = some .invalidDomain := by
  cases op with
  | times => cases h
  | divide => exact @Operator.kind_of_binary_eq_error .divide _ _ _ _ rfl h
  | power => exact @Operator.kind_of_binary_eq_error .power _ _ _ _ rfl h

/-- **A tree has a fault in an operand or in its arithmetic,** and none in
its form. -/
theorem kind_of_value_eq_error {t : Tree l} {fault : Fault} (h : t.value = .error fault) :
    fault.kind? = some .invalidOperand ∨ fault.kind? = some .divisionByZero ∨
      fault.kind? = some .invalidDomain := by
  induction t generalizing fault with
  | operand word =>
    rw [Operand.value_eq_error h]
    exact Or.inl rfl
  | bracketed inner ih => exact ih h
  | signed sign body ih =>
    rcases bind_eq_error_iff.1 h with hbody | ⟨_, _, hv⟩
    · exact ih hbody
    · cases hv
  | ofFactor factor ih => exact ih h
  | product left op right ihl ihr =>
    rcases bind_eq_error_iff.1 h with hl | ⟨a, _, h⟩
    · exact ihl hl
    rcases bind_eq_error_iff.1 h with hr | ⟨b, _, h⟩
    · exact ihr hr
    exact Or.inr (kind_of_compute_eq_error h)
  | ofTerm term ih => exact ih h
  | sum left sign right ihl ihr =>
    rcases bind_eq_error_iff.1 h with hl | ⟨a, _, h⟩
    · exact ihl hl
    rcases bind_eq_error_iff.1 h with hr | ⟨b, _, h⟩
    · exact ihr hr
    cases h

end Tree

end Reckoner
