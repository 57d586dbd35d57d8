import Reckoner.Proofs.Grammar
import Reckoner.Proofs.Postfix
/-!
# Reading an expression

What the evaluator makes of a text that spells a syntax tree. The
translator turns the lexemes of a tree into the postfix code of the tree
(`translate_lexemes`): where a tree begins, nothing that is pending binds
as tightly as its outermost operator, and where it ends, what it has left
pending binds at least as tightly, so that whatever comes next applies
just that. The one operator that comes too early is a sign that another
sign follows: it is applied before its operand is read.
-/

namespace Reckoner

open Postfix

/-! ## The translator, lexeme by lexeme -/

namespace Postfix

/-- The next operator of this precedence applies nothing that is
pending. -/
def Loose (precedence : Int) (pending : List Operator) : Prop :=
  ∀ op ∈ pending.head?, op.precedence < precedence

theorem Loose.mono {p q : Int} {pending : List Operator} (h : Loose p pending) (hpq : p ≤ q) :
    Loose q pending := by
  intro op hop
  have hlow := h op hop
  omega

theorem loose_cons {p : Int} {op : Operator} (h : op.precedence < p) (pending : List Operator) :
    Loose p (op :: pending) := by
  rintro _ ⟨⟩
  exact h

/-- What is pending splits where `p` first fails. -/
theorem split_of_boundary (opened pending : List Operator) (p : Operator → Bool)
    (hopened : ∀ op ∈ opened, p op = true) (hpending : ∀ op ∈ pending.head?, p op = false) :
    (opened ++ pending).takeWhile p = opened ∧ (opened ++ pending).dropWhile p = pending := by
  rw [List.takeWhile_append_of_pos hopened, List.dropWhile_append_of_pos hopened]
  cases pending with
  | nil => exact ⟨List.append_nil _, rfl⟩
  | cons op below =>
    have hop : ¬ p op = true := by rw [hpending op rfl]; exact Bool.false_ne_true
    rw [List.takeWhile_cons_of_neg hop, List.dropWhile_cons_of_neg hop]
    exact ⟨List.append_nil _, rfl⟩

variable {previous : Option Lexeme} {pending : List Operator}

/-- **An operator applies what binds at least as tightly,** and is left
pending. -/
theorem translateFrom_operator (opened : List Operator) {symbol : Symbol} {op : Operator}
    (hop : symbol.operator (signFollows previous) = op) (hnonneg : 0 ≤ op.precedence)
    (hopened : ∀ o ∈ opened, op.precedence ≤ o.precedence) (hloose : Loose op.precedence pending)
    (rest : List Lexeme) :
    translateFrom previous (opened ++ pending) (.symbol symbol :: rest) =
      .applying opened ++ translateFrom (some (.symbol symbol)) (op :: pending) rest := by
  have hstop : ∀ o ∈ pending.head?, ¬ op.precedence ≤ o.precedence := by
    intro o ho
    have hlow := hloose o ho
    omega
  obtain ⟨htake, hdrop⟩ := split_of_boundary opened pending
    (fun top => op.precedence ≤ top.precedence) (fun o ho => decide_eq_true (hopened o ho))
    (fun o ho => decide_eq_false (hstop o ho))
  rw [translateFrom, emit_operator _ (by rw [hop]; exact hnonneg), hop, htake, hdrop]

theorem translateFrom_openBracket (rest : List Lexeme) :
    translateFrom previous pending (.symbol .openBracket :: rest) =
      translateFrom (some (.symbol .openBracket)) (.leftBracket :: pending) rest := by
  rw [translateFrom, emit_openBracket]
  rfl

/-- **A closing bracket applies what is pending inside it,** and the
opening one goes. -/
theorem translateFrom_closeBracket {opened : List Operator}
    (hopened : ∀ op ∈ opened, 0 ≤ op.precedence)
    (rest : List Lexeme) :
    translateFrom previous (opened ++ .leftBracket :: pending) (.symbol .closeBracket :: rest) =
      .applying opened ++ translateFrom (some (.symbol .closeBracket)) pending rest := by
  have hne : ∀ op ∈ opened, op ≠ .leftBracket :=
    fun op hop => (Operator.precedence_nonneg_iff.1 (hopened op hop)).1
  obtain ⟨htake, hdrop⟩ := split_of_boundary opened (.leftBracket :: pending)
    (· ≠ .leftBracket) (fun op hop => decide_eq_true (hne op hop)) (by rintro _ ⟨⟩; rfl)
  rw [translateFrom, emit_closeBracket, htake, hdrop, if_pos (by simp), Code.append_empty]
  rfl

/-- The end applies what is pending. -/
theorem translateFrom_nil {opened : List Operator} (hopened : ∀ op ∈ opened, 0 ≤ op.precedence) :
    translateFrom previous opened [] = .applying opened := by
  have hne : ∀ op ∈ opened, op ≠ .leftBracket :=
    fun op hop => (Operator.precedence_nonneg_iff.1 (hopened op hop)).1
  have hmem : .leftBracket ∉ opened := fun h => hne _ h rfl
  have htake : opened.takeWhile (· ≠ .leftBracket) = opened :=
    List.takeWhile_eq_self_iff.2 fun op hop => decide_eq_true (hne op hop)
  rw [translateFrom, emitEnd, htake, if_neg hmem, Code.append_empty]

/-! ## What is read of a piece of an expression -/

/-- **Lexemes are read as code** from where a sign may stand, over what is
pending. Some of the code is put out, and the rest is left pending: the
operators of `opened`, which bind at least as tightly as `precedence`. -/
def Reads (pending : List Operator) (lexemes : List Lexeme) (precedence : Int) (code : Code) :
    Prop :=
  ∀ previous, signFollows previous = true →
    ∃ done opened last, signFollows last = false ∧ (∀ op ∈ opened, precedence ≤ op.precedence) ∧
      done ++ .applying opened = code ∧
      ∀ rest, translateFrom previous pending (lexemes ++ rest) =
        done ++ translateFrom last (opened ++ pending) rest

/-- **Two pieces joined by an operator.** The operator applies what the
left piece has left pending, and the right piece is read over it. -/
theorem Reads.join {left right : List Lexeme} {p q : Int} {c d : Code} {symbol : Symbol}
    {op : Operator} (hop : symbol.operator false = op)
    (hfollow : signFollows (some (.symbol symbol)) = true) (hnonneg : 0 ≤ op.precedence)
    (hloose : Loose op.precedence pending) (hp : op.precedence ≤ p) (hq : op.precedence ≤ q)
    (hleft : Reads pending left p c) (hright : Reads (op :: pending) right q d) :
    Reads pending (left ++ .symbol symbol :: right) op.precedence
      (c ++ d ++ .applying [op]) := by
  intro previous hprevious
  obtain ⟨done, opened, last, hlast, hopened, rfl, htranslate⟩ := hleft previous hprevious
  obtain ⟨done', opened', last', hlast', hopened', rfl, htranslate'⟩ := hright _ hfollow
  have hbinds : ∀ o ∈ opened, op.precedence ≤ o.precedence := by
    intro o ho
    have hbound := hopened o ho
    omega
  refine ⟨done ++ .applying opened ++ done', opened' ++ [op], last', hlast', ?_, ?_, fun rest => ?_⟩
  · intro o ho
    rcases List.mem_append.1 ho with ho | ho
    · have hbound := hopened' o ho
      omega
    · have heq := congrArg Operator.precedence (List.mem_singleton.1 ho)
      omega
  · simp only [Code.applying_append, Code.append_assoc]
  · have hsign : symbol.operator (signFollows last) = op := by rw [hlast]; exact hop
    rw [List.append_assoc, htranslate, List.cons_append,
      translateFrom_operator opened hsign hnonneg hbinds hloose, htranslate', List.append_assoc]
    simp only [Code.append_assoc, List.singleton_append]

/-- **A piece in brackets** is read on its own, and leaves nothing
pending. -/
theorem Reads.bracket {inner : List Lexeme} {p q : Int} {c : Code} (hp : 0 ≤ p)
    (hinner : Reads (.leftBracket :: pending) inner p c) :
    Reads pending (.symbol .openBracket :: (inner ++ [.symbol .closeBracket])) q c := by
  intro previous _
  obtain ⟨done, opened, last, hlast, hopened, rfl, htranslate⟩ :=
    hinner (some (.symbol .openBracket)) rfl
  have hbinds : ∀ o ∈ opened, 0 ≤ o.precedence := by
    intro o ho
    have hbound := hopened o ho
    omega
  refine ⟨done ++ .applying opened, [], some (.symbol .closeBracket), rfl, ?_, ?_, fun rest => ?_⟩
  · exact fun o ho => absurd ho List.not_mem_nil
  · exact Code.append_empty _
  · rw [List.cons_append, translateFrom_openBracket, List.append_assoc, htranslate,
      List.singleton_append, translateFrom_closeBracket hbinds, Code.append_assoc]
    rfl

theorem signFollows_sign (sign : Sign) : signFollows (some (.symbol sign.symbol)) = true := by
  cases sign <;> rfl

theorem signFollows_termOp (op : TermOp) : signFollows (some (.symbol op.symbol)) = true := by
  cases op <;> rfl

/-- A sign where a sign may stand applies the signs that are pending on
top. -/
theorem translateFrom_sign (opened : List Operator) (sign : Sign)
    (hprevious : signFollows previous = true) (hopened : ∀ op ∈ opened, 2 ≤ op.precedence)
    (hloose : Loose 2 pending) (rest : List Lexeme) :
    translateFrom previous (opened ++ pending) (.symbol sign.symbol :: rest) =
      .applying opened ++
        translateFrom (some (.symbol sign.symbol)) (sign.unary :: pending) rest := by
  rw [← sign.precedence_unary] at hopened hloose
  exact translateFrom_operator opened (by rw [hprevious, sign.operator_symbol_true])
    (by rw [sign.precedence_unary]; decide) hopened hloose rest

/-- **A sign in front of a piece** waits for the piece to be read. -/
theorem Reads.sign {sign : Sign} {body : List Lexeme} {p : Int} {c : Code}
    (hloose : Loose 2 pending) (hp : 2 ≤ p) (hbody : Reads (sign.unary :: pending) body p c) :
    Reads pending (.symbol sign.symbol :: body) 2 (c ++ .applying [sign.unary]) := by
  intro previous hprevious
  obtain ⟨done, opened, last, hlast, hopened, rfl, htranslate⟩ := hbody _ (signFollows_sign sign)
  refine ⟨done, opened ++ [sign.unary], last, hlast, ?_, ?_, fun rest => ?_⟩
  · intro o ho
    rcases List.mem_append.1 ho with ho | ho
    · have hbound := hopened o ho
      omega
    · have heq := congrArg Operator.precedence (List.mem_singleton.1 ho)
      have hsign := sign.precedence_unary
      omega
  · simp only [Code.applying_append, Code.append_assoc]
  · have hsign := translateFrom_sign [] sign hprevious (by simp) hloose (body ++ rest)
    rw [List.append_assoc opened, List.cons_append]
    exact hsign.trans (htranslate rest)

/-- **A sign in front of a sign** is applied before anything of the piece
is read. -/
theorem Reads.sign_sign {sign next : Sign} {body : List Lexeme} {c : Code}
    (hloose : Loose 2 pending) (hbody : Reads pending (.symbol next.symbol :: body) 2 c) :
    Reads pending (.symbol sign.symbol :: .symbol next.symbol :: body) 2
      (.applying [sign.unary] ++ c) := by
  intro previous hprevious
  obtain ⟨done, opened, last, hlast, hopened, rfl, htranslate⟩ := hbody _ (signFollows_sign sign)
  refine ⟨.applying [sign.unary] ++ done, opened, last, hlast, hopened, Code.append_assoc .., ?_⟩
  intro rest
  -- the second sign is read with the first one pending, and as if it were not there
  have hfirst := translateFrom_sign [] sign hprevious (by simp) hloose
    (.symbol next.symbol :: body ++ rest)
  have hsecond := translateFrom_sign [] next (signFollows_sign sign) (by simp) hloose
    (body ++ rest)
  have htogether := translateFrom_sign [sign.unary] next (signFollows_sign sign) (by simp) hloose
    (body ++ rest)
  rw [Code.append_assoc, ← htranslate, List.cons_append]
  exact hfirst.trans (htogether.trans (congrArg _ hsecond.symm))

end Postfix

/-! ## The code of a tree -/

namespace Tree

variable {l : Level}

/-- How tightly the outermost operator of a tree binds; operands and
brackets hold together more tightly than any operator. -/
def precedence {l : Level} : Tree l → Int
  | operand _ | bracketed _ => 3
  | signed _ _ => 2
  | ofFactor factor => factor.precedence
  | product _ _ _ => 1
  | ofTerm term => term.precedence
  | sum _ _ _ => 0

/-- **The postfix code of a tree:** operands first, except that a sign in
front of a sign is applied at once. -/
def code {l : Level} : Tree l → Code
  | operand word => .operand word
  | bracketed inner => inner.code
  | signed sign body =>
    if body.isSigned then .applying [sign.unary] ++ body.code
    else body.code ++ .applying [sign.unary]
  | ofFactor factor => factor.code
  | product left op right => left.code ++ right.code ++ .applying [op.operator]
  | ofTerm term => term.code
  | sum left sign right => left.code ++ right.code ++ .applying [sign.binary]

/-- The outermost operator of a tree is one of its level, or binds tighter
than they do. -/
theorem level_le_precedence (t : Tree l) : l.precedence ≤ t.precedence := by
  induction t <;> simp only [Level.precedence, precedence] at * <;> omega

theorem precedence_of_isSigned {t : Tree l} (h : t.isSigned = true) : t.precedence = 2 := by
  cases t with
  | signed sign body => rfl
  | _ => cases h

theorem precedence_of_not_isSigned {t : Tree .factor} (h : ¬ t.isSigned = true) :
    t.precedence = 3 := by
  cases t with
  | signed sign body => exact absurd rfl h
  | _ => rfl

/-- **A tree is read as its code** wherever what is pending binds less
tightly than its outermost operator. -/
theorem reads (t : Tree l) {pending : List Operator} (h : Loose t.precedence pending) :
    Reads pending t.lexemes t.precedence t.code := by
  induction t generalizing pending with
  | operand word =>
    intro previous _
    exact ⟨.operand word, [], some (.word word), rfl, by simp, Code.append_empty _, fun _ => rfl⟩
  | bracketed inner ih =>
    have hinner : 0 ≤ inner.precedence := inner.level_le_precedence
    have hbracket : Operator.leftBracket.precedence = -1 := rfl
    refine Reads.bracket hinner (ih (loose_cons ?_ pending))
    omega
  | signed sign body ih =>
    by_cases hbody : body.isSigned = true
    · -- the sign behind binds as tightly as the one in front, and so applies it at once
      have hprecedence := precedence_of_isSigned hbody
      rw [hprecedence] at ih
      rw [code, if_pos hbody]
      cases body with
      | signed next body => exact Reads.sign_sign h (ih h)
      | _ => cases hbody
    · -- nothing in an operand or in brackets reaches the sign, which waits below
      have hprecedence := precedence_of_not_isSigned hbody
      rw [code, if_neg hbody]
      have hsign := sign.precedence_unary
      refine Reads.sign h (by omega) (ih (loose_cons ?_ pending))
      omega
  | ofFactor factor ih => exact ih h
  | product left op right ihl ihr =>
    have hl : 1 ≤ left.precedence := left.level_le_precedence
    have hr : 2 ≤ right.precedence := right.level_le_precedence
    have hop := op.precedence_operator
    have hjoin := Reads.join (op.operator_symbol false) (signFollows_termOp op) (by omega)
      (by rw [hop]; exact h) (by omega) (by omega) (ihl (h.mono hl))
      (ihr (loose_cons (by omega) pending))
    rw [hop] at hjoin
    exact hjoin
  | ofTerm term ih => exact ih h
  | sum left sign right ihl ihr =>
    have hl : 0 ≤ left.precedence := left.level_le_precedence
    have hr : 1 ≤ right.precedence := right.level_le_precedence
    have hop := sign.precedence_binary
    have hjoin := Reads.join sign.operator_symbol_false (signFollows_sign sign) (by omega)
      (by rw [hop]; exact h) (by omega) (by omega) (ihl (h.mono hl))
      (ihr (loose_cons (by omega) pending))
    rw [hop] at hjoin
    exact hjoin

/-- **The lexemes of a tree translate to its code.** -/
theorem translate_lexemes (t : Tree .expression) : translate t.lexemes = t.code := by
  have hloose : Loose t.precedence [] := fun _ h => absurd h (by simp)
  obtain ⟨done, opened, last, -, hopened, hcode, htranslate⟩ := t.reads hloose none rfl
  have hnonneg : 0 ≤ t.precedence := t.level_le_precedence
  have hbinds : ∀ op ∈ opened, 0 ≤ op.precedence := by
    intro op hop
    have hbound := hopened op hop
    omega
  have hnil := htranslate []
  rw [List.append_nil, List.append_nil, translateFrom_nil hbinds, hcode] at hnil
  exact hnil

end Tree

/-! ## Running the code of a tree -/

namespace Postfix

namespace Code

/-- **Code yields a value:** it applies signs to the operand that is on top
already, and then pushes the value, or fails as the value does. -/
def Yields (c : Code) (signs : List Sign) (x : Except Fault Float) : Prop :=
  ∀ operands, c.run operands =
    (applying (signs.map Sign.unary)).run operands >>= fun left => x >>= fun v => .ok (v :: left)

/-- Signs on an operand that is there. -/
theorem run_applying_signs (signs : List Sign) (a : Float) (operands : List Float) :
    (applying (signs.map Sign.unary)).run (a :: operands) =
      .ok (Sign.applyAll signs a :: operands) := by
  induction signs generalizing a with
  | nil => rfl
  | cons sign signs ih =>
    rw [List.map_cons, run_applying_cons]
    cases sign <;> exact ih _

theorem run_applying_binary (sign : Sign) (a b : Float) (operands : List Float) :
    (applying [sign.binary]).run (b :: a :: operands) =
      .ok (sign.join a b) >>= fun v => .ok (v :: operands) := by
  cases sign <;> rfl

theorem run_applying_termOp (op : TermOp) (a b : Float) (operands : List Float) :
    (applying [op.operator]).run (b :: a :: operands) =
      op.compute a b >>= fun v => .ok (v :: operands) := by
  rw [run_applying_cons]
  cases op with
  | times => rfl
  | divide =>
    simp only [TermOp.operator, TermOp.compute, Item.run, Operator.apply, Operator.action]
    cases Operator.quotient a b <;> rfl
  | power =>
    simp only [TermOp.operator, TermOp.compute, Item.run, Operator.apply, Operator.action]
    cases Power.raise a b <;> rfl

/-- An operand yields its value. -/
theorem yields_operand (word : List Char) : (operand word).Yields [] (Operand.value word) := by
  intro operands
  rw [operand]
  cases Operand.value word <;> rfl

variable {c d : Code} {signs signs' : List Sign} {x y : Except Fault Float}

/-- **A sign after the code** applies to the value. -/
theorem Yields.sign (hc : c.Yields signs x) (sign : Sign) :
    (c ++ applying [sign.unary]).Yields signs (x >>= fun v => .ok (sign.apply v)) := by
  intro operands
  rw [run_append, hc, bind_assoc]
  refine bind_congr fun left => ?_
  cases x with
  | error fault => rfl
  | ok v => exact run_applying_signs [sign] v left

/-- **A sign before the code** applies to what is on top already. -/
theorem Yields.stray (hc : c.Yields signs x) (sign : Sign) :
    (applying [sign.unary] ++ c).Yields (sign :: signs) x := by
  intro operands
  rw [run_append, List.map_cons, run_applying_cons, run_applying_cons, bind_assoc, bind_assoc]
  refine bind_congr fun left => ?_
  exact hc left

/-- **An operator after two pieces of code** joins their values. The signs
of the second piece find the value of the first. -/
theorem Yields.join {op : Operator} {f : Float → Float → Except Fault Float}
    (hc : c.Yields signs x) (hd : d.Yields signs' y)
    (hop : ∀ a b operands, (applying [op]).run (b :: a :: operands) =
      f a b >>= fun v => .ok (v :: operands)) :
    (c ++ d ++ applying [op]).Yields signs
      (x >>= fun a => y >>= fun b => f (Sign.applyAll signs' a) b) := by
  intro operands
  rw [run_append, run_append, hc, bind_assoc, bind_assoc]
  refine bind_congr fun below => ?_
  cases x with
  | error fault => rfl
  | ok a =>
    rw [ok_bind, ok_bind, ok_bind, hd, run_applying_signs, ok_bind]
    cases y with
    | error fault => rfl
    | ok b => exact hop _ b below

end Code

end Postfix

namespace Tree

variable {l : Level}

open Code

/-- **The code of a tree yields its drifted value,** and its stray signs
are those that apply to what is on its left. -/
theorem yields_code (t : Tree l) : t.code.Yields t.strays t.drifted := by
  induction t with
  | operand word => exact yields_operand word
  | bracketed inner ih => exact ih
  | signed sign body ih =>
    by_cases hbody : body.isSigned = true
    · rw [code, strays, drifted, if_pos hbody, if_pos hbody, if_pos hbody]
      exact ih.stray sign
    · rw [code, strays, drifted, if_neg hbody, if_neg hbody, if_neg hbody]
      exact ih.sign sign
  | ofFactor factor ih => exact ih
  | product left op right ihl ihr => exact ihl.join ihr (run_applying_termOp op)
  | ofTerm term ih => exact ih
  | sum left sign right ihl ihr => exact ihl.join ihr (run_applying_binary sign)

/-- **The value of the code of a tree** is the tree as it is read. -/
theorem value_code (t : Tree .expression) : t.code.value = t.reading := by
  rw [Code.value, t.yields_code, reading]
  cases t.strays with
  | nil =>
    rw [List.map_nil]
    cases t.drifted <;> rfl
  | cons sign signs =>
    rw [List.map_cons, run_applying_cons]
    cases sign <;> rfl

/-! ## The text of a tree -/

/-- Between two words of a tree there is always a symbol. -/
theorem separate_lexemes (t : Tree l) : Spelling.Separate t.lexemes := by
  induction t with
  | operand word => exact List.isChain_singleton _
  | bracketed inner ih =>
    exact Spelling.separate_append_symbol _ List.isChain_nil
      (Spelling.separate_append_symbol _ ih List.isChain_nil)
  | signed sign body ih => exact Spelling.separate_append_symbol _ List.isChain_nil ih
  | ofFactor factor ih => exact ih
  | product left op right ihl ihr => exact Spelling.separate_append_symbol _ ihl ihr
  | ofTerm term ih => exact ih
  | sum left sign right ihl ihr => exact Spelling.separate_append_symbol _ ihl ihr

end Tree

/-- **What the evaluator makes of a text that spells a tree.** -/
theorem evaluate_text_eq_reading {t : Tree .expression} {s : Spelling}
    (hs : s.lexemes = t.lexemes) : evaluate s.text = t.reading := by
  have hapart : s.Apart := Spelling.apart_of_separate (hs ▸ t.separate_lexemes)
  rw [evaluate_eq_value, Spelling.tokenize_text hapart, hs, t.translate_lexemes, t.value_code]

/-- **An expression is evaluated as its syntax tree,** however it is
spelled, if no sign stands in front of another: it has the value of the
tree, or the first fault of the tree. So its faults are those of operands
and of arithmetic, and never of its form. -/
theorem evaluate_text_eq_value (t : Tree .expression) (ht : t.SingleSigned) (s : Spelling)
    (hs : s.lexemes = t.lexemes) :
    evaluate s.text = t.value ∧
      ∀ fault, evaluate s.text = .error fault →
        fault.kind? ≠ some .insufficientOperands ∧ fault.kind? ≠ some .mismatchedBrackets ∧
          fault.kind? ≠ some .malformedExpression := by
  have hvalue : evaluate s.text = t.value := by
    rw [evaluate_text_eq_reading hs, Tree.reading_of_singleSigned ht]
  refine ⟨hvalue, fun fault hfault => ?_⟩
  rw [hvalue] at hfault
  rcases Tree.kind_of_value_eq_error hfault with h | h | h <;> rw [h] <;> decide

/-- Power groups to the left, and a sign binds tighter. -/
theorem evaluate_text_eq_value_power :
    let t : Tree .expression :=
      .ofTerm (.product (.product (.ofFactor (.operand ['2'])) .power (.operand ['3'])) .power
        (.signed .minus (.bracketed (.ofTerm (.ofFactor (.operand ['2']))))))
    let s : Spelling :=
      ⟨[⟨[], .word ['2'], rfl, by decide⟩, ⟨[' '], .symbol .caret, rfl, trivial⟩,
        ⟨[], .word ['3'], rfl, by decide⟩, ⟨[], .symbol .caret, rfl, trivial⟩,
        ⟨[' '], .symbol .minus, rfl, trivial⟩, ⟨[' '], .symbol .openBracket, rfl, trivial⟩,
        ⟨[], .word ['2'], rfl, by decide⟩, ⟨[], .symbol .closeBracket, rfl, trivial⟩], [], rfl⟩
    t.SingleSigned ∧ s.lexemes = t.lexemes ∧ s.text = "2 ^3^ - (2)" ∧ evaluate s.text = t.value :=
  ⟨by simp [Tree.SingleSigned, Tree.isSigned], rfl, rfl,
    (evaluate_text_eq_value _ (by simp [Tree.SingleSigned, Tree.isSigned]) _ rfl).1⟩

/-! ## Signs that follow signs -/

/-- **What becomes of signs that follow signs.** Each of them but the last
changes the operand to the left, and if there is none, the expression is
refused. So a value that is returned is the value of the tree exactly
where none is returned or the drifting signs make no difference; they make
none where no minus drifts. -/
theorem evaluate_text_with_signs (t : Tree .expression) (s : Spelling)
    (hs : s.lexemes = t.lexemes) :
    evaluate s.text = t.reading ∧
      ((∀ v, evaluate s.text = .ok v → t.value = .ok v) ↔
        t.strays ≠ [] ∨ ∀ v, t.drifted = .ok v → t.value = .ok v) ∧
      (t.Steady → ∀ v, evaluate s.text = .ok v → t.value = .ok v) := by
  have hreading : evaluate s.text = t.reading := evaluate_text_eq_reading hs
  refine ⟨hreading, ?_, ?_⟩
  · rw [hreading, Tree.reading]
    cases t.strays with
    | nil => simp
    | cons sign signs => simp
  · intro hsteady v hv
    exact Tree.value_of_reading_steady hsteady (hreading ▸ hv)

/-- A plus in front of a sign makes no difference. -/
theorem evaluate_text_with_signs_plus :
    let t : Tree .expression :=
      .sum (.ofTerm (.ofFactor (.operand ['2']))) .minus
        (.ofFactor (.signed .plus (.signed .minus (.operand ['3']))))
    let s : Spelling :=
      ⟨[⟨[], .word ['2'], rfl, by decide⟩, ⟨[], .symbol .minus, rfl, trivial⟩,
        ⟨[], .symbol .plus, rfl, trivial⟩, ⟨[], .symbol .minus, rfl, trivial⟩,
        ⟨[], .word ['3'], rfl, by decide⟩], [], rfl⟩
    s.lexemes = t.lexemes ∧ s.text = "2-+-3" ∧ evaluate s.text = t.reading ∧
      t.Steady ∧ ∀ v, evaluate s.text = .ok v → t.value = .ok v := by
  refine ⟨rfl, rfl, (evaluate_text_with_signs _ _ rfl).1, by simp [Tree.Steady, Tree.strays,
    Tree.isSigned], (evaluate_text_with_signs _ _ rfl).2.2 (by simp [Tree.Steady, Tree.strays,
    Tree.isSigned])⟩

/-- **A minus in front of a sign does:** two minus the negative of the
negative of three comes out as one. -/
theorem evaluate_drifting_minus :
    let t : Tree .expression :=
      .sum (.ofTerm (.ofFactor (.operand ['2']))) .minus
        (.ofFactor (.signed .minus (.signed .minus (.operand ['3']))))
    tokenize "2---3" = t.lexemes ∧ evaluate "2---3" = .ok 1 ∧ t.value = .ok (-1) ∧
      ¬ ∀ v, evaluate "2---3" = .ok v → t.value = .ok v := by
  have hvalue : evaluate "2---3" = .ok 1 := rfl
  refine ⟨rfl, hvalue, rfl, fun h => ?_⟩
  have heq : (1 : Float) = -1 := Except.ok.inj (h 1 hvalue).symm
  have hbits : (1 : Float).toBits = (-1 : Float).toBits := congrArg Float.toBits heq
  exact absurd hbits (by decide)

end Reckoner
