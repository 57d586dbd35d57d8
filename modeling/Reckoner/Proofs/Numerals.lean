import Mathlib.Data.List.TakeWhile
import Reckoner.Proofs.Failing
import Reckoner.Proofs.Splitting
import Reckoner.Evaluation
/-!
# The form of operands

An operand is the name of a constant, or a numeral: a mantissa, which is
digits with at most one point among them, and perhaps an exponent behind
it. Recognising a numeral takes the longest runs of digits, and as neither
a point nor the mark of an exponent is a digit, these are the runs it was
put together from (`exists_numeral?_iff`). The characters of an operand all
gather into words, so an operand is a lexeme of its own, and an expression
that is one word comes to what the word does (`evaluate_of_word`).
-/

namespace Reckoner

namespace Number

/-! ## Numerals by their form -/

/-- Digits, or nothing. -/
def Digits (cs : List Char) : Prop :=
  ∀ c ∈ cs, c.isDigit = true

/-- **What a numeral begins with:** digits, with a point behind them or
among them or without one, or a point and digits behind it. -/
inductive Mantissa : List Char → Prop
  /-- Digits alone. -/
  | whole {whole : List Char} (hwhole : Digits whole) (hne : whole ≠ []) : Mantissa whole
  /-- Digits and a point, and perhaps more digits. -/
  | point {whole fraction : List Char} (hwhole : Digits whole) (hne : whole ≠ [])
    (hfraction : Digits fraction) : Mantissa (whole ++ '.' :: fraction)
  /-- A point and digits. -/
  | fraction {fraction : List Char} (hfraction : Digits fraction) (hne : fraction ≠ []) :
    Mantissa ('.' :: fraction)

/-- **What a numeral ends with:** nothing more, or an exponent without a
sign. -/
inductive Exponent : List Char → Prop
  | absent : Exponent []
  | marked {mark : Char} {digits : List Char} (hmark : mark = 'e' ∨ mark = 'E')
    (hdigits : Digits digits) (hne : digits ≠ []) : Exponent (mark :: digits)

variable {cs whole fraction mantissa rest : List Char} {c : Char}

/-- A run of digits, as it is tested. -/
theorem isDigits_iff : isDigits cs = true ↔ Digits cs ∧ cs ≠ [] := by
  simp [isDigits, Digits, and_comm]

theorem digits_takeWhile (cs : List Char) : Digits (cs.takeWhile Char.isDigit) :=
  fun _ hc => List.mem_takeWhile_imp hc

/-- A text that ends the digits before it: it does not begin with one. -/
def EndsDigits (cs : List Char) : Prop :=
  ∀ c ∈ cs.head?, c.isDigit = false

theorem endsDigits_cons (h : c.isDigit = false) (cs : List Char) : EndsDigits (c :: cs) :=
  fun _ hc => Option.some.inj hc ▸ h

/-- **The longest run of digits** is the one in front of what ends it. -/
theorem takeWhile_isDigit (h : Digits whole) (hrest : EndsDigits rest) :
    (whole ++ rest).takeWhile Char.isDigit = whole := by
  have hstop : rest.takeWhile Char.isDigit = [] := by
    cases rest with
    | nil => rfl
    | cons c rest => rw [List.takeWhile_cons, hrest c rfl, if_neg Bool.false_ne_true]
  rw [List.takeWhile_append_of_pos h, hstop, List.append_nil]

/-- And what ends it is left. -/
theorem dropWhile_isDigit (h : Digits whole) (hrest : EndsDigits rest) :
    (whole ++ rest).dropWhile Char.isDigit = rest := by
  rw [List.dropWhile_append_of_pos h]
  cases rest with
  | nil => rfl
  | cons c rest => rw [List.dropWhile_cons, hrest c rfl, if_neg Bool.false_ne_true]

/-! ## Recognising a mantissa -/

/-- Digits with a point are split at the point. -/
theorem splitMantissa?_point (hwhole : Digits whole) (hfraction : Digits fraction)
    (hne : whole ≠ [] ∨ fraction ≠ []) (hrest : EndsDigits rest) :
    splitMantissa? (whole ++ '.' :: (fraction ++ rest)) = some (whole, fraction, rest) := by
  have hpoint : EndsDigits ('.' :: (fraction ++ rest)) := endsDigits_cons (by decide) _
  have hsome : ¬ (whole.isEmpty && fraction.isEmpty) = true := by
    rw [Bool.and_eq_true, List.isEmpty_iff, List.isEmpty_iff]
    exact not_and_or.2 hne
  rw [splitMantissa?, dropWhile_isDigit hwhole hpoint, takeWhile_isDigit hwhole hpoint]
  simp only [takeWhile_isDigit hfraction hrest, dropWhile_isDigit hfraction hrest, if_neg hsome]

/-- **A mantissa is taken off** the text it begins, where neither a digit
nor a point follows it. -/
theorem splitMantissa?_of_mantissa (h : Mantissa mantissa) (hrest : EndsDigits rest)
    (hpoint : ∀ c ∈ rest.head?, c ≠ '.') :
    ∃ whole fraction, splitMantissa? (mantissa ++ rest) = some (whole, fraction, rest) := by
  cases h with
  | whole hwhole hne =>
    refine ⟨mantissa, [], ?_⟩
    rw [splitMantissa?, dropWhile_isDigit hwhole hrest, takeWhile_isDigit hwhole hrest]
    split
    · exact absurd rfl (hpoint _ rfl)
    · rw [if_neg (by simpa using hne)]
  | @point whole fraction hwhole hne hfraction =>
    refine ⟨whole, fraction, ?_⟩
    rw [List.append_assoc]
    exact splitMantissa?_point hwhole hfraction (Or.inl hne) hrest
  | @fraction fraction hfraction hne =>
    have hwhole : Digits [] := fun _ hc => absurd hc List.not_mem_nil
    exact ⟨[], fraction, splitMantissa?_point hwhole hfraction (Or.inr hne) hrest⟩

/-- **And only a mantissa** is taken off. -/
theorem mantissa_of_splitMantissa? (h : splitMantissa? cs = some (whole, fraction, rest)) :
    ∃ mantissa, Mantissa mantissa ∧ cs = mantissa ++ rest := by
  have hsplit : cs.takeWhile Char.isDigit ++ cs.dropWhile Char.isDigit = cs :=
    List.takeWhile_append_dropWhile
  have hwhole := digits_takeWhile cs
  rw [splitMantissa?] at h
  split at h
  · rename_i behind hbehind
    have hsplit' : behind.takeWhile Char.isDigit ++ behind.dropWhile Char.isDigit = behind :=
      List.takeWhile_append_dropWhile
    have hfraction := digits_takeWhile behind
    rw [hbehind] at hsplit
    dsimp only at h
    split at h
    · cases h
    · rename_i hsome
      cases h
      by_cases hempty : cs.takeWhile Char.isDigit = []
      · have hne : behind.takeWhile Char.isDigit ≠ [] := by
          intro hnone
          exact hsome (by rw [hempty, hnone]; rfl)
        refine ⟨_, .fraction hfraction hne, ?_⟩
        rw [List.cons_append, hsplit', ← hsplit, hempty]
        rfl
      · refine ⟨_, .point hwhole hempty hfraction, ?_⟩
        rw [List.append_assoc, List.cons_append, hsplit', hsplit]
  · split at h
    · cases h
    · rename_i hsome
      cases h
      exact ⟨_, .whole hwhole (by simpa using hsome), hsplit.symm⟩

/-! ## Recognising a numeral -/

/-- What an exponent begins with is neither a digit nor a point. -/
theorem Exponent.head_ne (h : Exponent rest) :
    EndsDigits rest ∧ ∀ c ∈ rest.head?, c ≠ '.' := by
  cases h with
  | absent => exact ⟨fun _ hc => absurd hc (Option.not_mem_none _), fun _ hc =>
      absurd hc (Option.not_mem_none _)⟩
  | @marked mark digits hmark hdigits hne =>
    refine ⟨endsDigits_cons ?_ digits, fun c hc => ?_⟩
    · rcases hmark with rfl | rfl <;> decide
    · rw [← Option.some.inj hc]
      rcases hmark with rfl | rfl <;> decide

/-- The exponent that follows a mantissa; where nothing does, it is zero. -/
def exponentBehind? (exponent? : List Char → Option Int) : List Char → Option Int
  | [] => some 0
  | mark :: digits => if mark = 'e' ∨ mark = 'E' then exponent? digits else none

/-- A numeral is a mantissa and what follows it. -/
theorem numeral?_eq_bind (exponent? : List Char → Option Int) (cs : List Char) :
    numeral? exponent? cs = (splitMantissa? cs).bind fun (whole, fraction, rest) =>
      (exponentBehind? exponent? rest).bind fun exponent =>
        some ⟨ofDigits (whole ++ fraction), exponent - fraction.length⟩ := by
  rw [numeral?]
  cases splitMantissa? cs with
  | none => rfl
  | some parts =>
    obtain ⟨whole, fraction, rest⟩ := parts
    cases rest with
    | nil => rfl
    | cons mark digits =>
      change (if mark = 'e' ∨ mark = 'E' then _ else _) = (exponentBehind? _ _).bind _
      rw [exponentBehind?]
      split <;> rfl

/-- What follows a mantissa has a value just where it is an exponent. -/
theorem exists_exponentBehind?_iff :
    (∃ n, exponentBehind? unsignedExponent? rest = some n) ↔ Exponent rest := by
  constructor
  · rintro ⟨n, hn⟩
    cases rest with
    | nil => exact .absent
    | cons mark digits =>
      rw [exponentBehind?] at hn
      split at hn
      · rename_i hmark
        rw [unsignedExponent?] at hn
        split at hn
        · rename_i hdigits
          have ⟨hall, hne⟩ := isDigits_iff.1 hdigits
          exact .marked hmark hall hne
        · cases hn
      · cases hn
  · intro h
    cases h with
    | absent => exact ⟨0, rfl⟩
    | @marked mark digits hmark hdigits hne =>
      refine ⟨ofDigits digits, ?_⟩
      rw [exponentBehind?, if_pos hmark, unsignedExponent?, if_pos (isDigits_iff.2 ⟨hdigits, hne⟩)]

/-- **The numerals** are the texts of a mantissa and an exponent. -/
theorem exists_numeral?_iff :
    (∃ d, numeral? unsignedExponent? cs = some d) ↔
      ∃ mantissa rest, Mantissa mantissa ∧ Exponent rest ∧ cs = mantissa ++ rest := by
  rw [numeral?_eq_bind]
  constructor
  · rintro ⟨d, hd⟩
    obtain ⟨⟨whole, fraction, rest⟩, hsplit, hd⟩ := Option.bind_eq_some_iff.1 hd
    obtain ⟨n, hn, -⟩ := Option.bind_eq_some_iff.1 hd
    obtain ⟨mantissa, hmantissa, hcs⟩ := mantissa_of_splitMantissa? hsplit
    exact ⟨mantissa, rest, hmantissa, exists_exponentBehind?_iff.1 ⟨n, hn⟩, hcs⟩
  · rintro ⟨mantissa, rest, hmantissa, hrest, rfl⟩
    obtain ⟨hdigits, hpoint⟩ := hrest.head_ne
    obtain ⟨whole, fraction, hsplit⟩ := splitMantissa?_of_mantissa hmantissa hdigits hpoint
    obtain ⟨n, hn⟩ := exists_exponentBehind?_iff.2 hrest
    exact ⟨_, Option.bind_eq_some_iff.2 ⟨_, hsplit, Option.bind_eq_some_iff.2 ⟨n, hn, rfl⟩⟩⟩

/-! ## Numerals as texts of doubles -/

/-- What a mantissa begins with is no sign. -/
theorem splitMantissa?_sign {sign : Char} (hsign : sign = '-' ∨ sign = '+') (cs : List Char) :
    splitMantissa? (sign :: cs) = none := by
  rcases hsign with rfl | rfl <;> rfl

/-- Where an exponent without a sign is read, one with a sign may be. -/
theorem exponentBehind?_signed {n : Int} (h : exponentBehind? unsignedExponent? rest = some n) :
    exponentBehind? signedExponent? rest = some n := by
  have hsigned : ∀ {cs : List Char}, unsignedExponent? cs = some n →
      signedExponent? cs = some n := by
    intro cs h
    unfold signedExponent?
    split
    · cases h
    · cases h
    · exact h
  cases rest with
  | nil => exact h
  | cons mark digits =>
    rw [exponentBehind?] at h ⊢
    split at h
    · rw [if_pos ‹_›]
      exact hsigned h
    · cases h

/-- **A numeral is the text of a double,** of the one nearest to it. -/
theorem ofText?_of_numeral {d : Decimal} (h : numeral? unsignedExponent? cs = some d) :
    ofText? cs = some d.toFloat := by
  have hsigned : numeral? signedExponent? cs = some d := by
    rw [numeral?_eq_bind] at h ⊢
    obtain ⟨⟨whole, fraction, rest⟩, hsplit, h⟩ := Option.bind_eq_some_iff.1 h
    obtain ⟨n, hn, h⟩ := Option.bind_eq_some_iff.1 h
    exact Option.bind_eq_some_iff.2
      ⟨_, hsplit, Option.bind_eq_some_iff.2 ⟨n, exponentBehind?_signed hn, h⟩⟩
  have hmagnitude : magnitude? cs = some d.toFloat := by
    rw [magnitude?, hsigned]
  -- a sign in front would leave no mantissa
  unfold ofText?
  split
  · rw [numeral?_eq_bind, splitMantissa?_sign (Or.inl rfl)] at h
    cases h
  · rw [numeral?_eq_bind, splitMantissa?_sign (Or.inr rfl)] at h
    cases h
  · exact hmagnitude

end Number

/-! ## Operands by their form -/

/-- **The form of an operand:** the name of a constant, or a numeral. -/
inductive IsOperand : List Char → Prop
  | pi : IsOperand "pi".toList
  | e : IsOperand "e".toList
  | numeral {mantissa rest : List Char} (hmantissa : Number.Mantissa mantissa)
    (hrest : Number.Exponent rest) : IsOperand (mantissa ++ rest)

variable {word : List Char} {c : Char}

namespace Operand

/-- The names of the constants. -/
theorem exists_constant?_iff :
    (∃ x, constant? word = some x) ↔ word = "pi".toList ∨ word = "e".toList := by
  constructor
  · rintro ⟨x, hx⟩
    obtain ⟨⟨name, x⟩, hfind, -⟩ := Option.map_eq_some_iff.1 hx
    have hname : name.toList = word := by simpa using List.find?_some hfind
    have hmem := List.mem_of_find?_eq_some hfind
    rw [← hname]
    simp only [constants, List.mem_cons, List.not_mem_nil, or_false, Prod.mk.injEq] at hmem
    exact hmem.imp (fun h => by rw [h.1]) fun h => by rw [h.1]
  · rintro (rfl | rfl)
    · exact ⟨_, rfl⟩
    · exact ⟨_, rfl⟩

/-- **The words that have a value** are those of the form. -/
theorem exists_value_iff : (∃ x, value word = .ok x) ↔ IsOperand word := by
  have hvalue : (∃ x, value word = .ok x) ↔ (∃ x, constant? word = some x) ∨
      ∃ d, Number.numeral? Number.unsignedExponent? word = some d := by
    rw [value]
    cases constant? word with
    | some x => simp
    | none => cases Number.numeral? Number.unsignedExponent? word <;> simp
  rw [hvalue, exists_constant?_iff, Number.exists_numeral?_iff]
  constructor
  · rintro ((rfl | rfl) | ⟨mantissa, rest, hmantissa, hrest, rfl⟩)
    · exact .pi
    · exact .e
    · exact .numeral hmantissa hrest
  · intro h
    cases h with
    | pi => exact Or.inl (Or.inl rfl)
    | e => exact Or.inl (Or.inr rfl)
    | numeral hmantissa hrest => exact Or.inr ⟨_, _, hmantissa, hrest, rfl⟩

end Operand

/-! ## Operands as expressions -/

/-- What an operand is made of. -/
theorem IsOperand.mem (h : IsOperand word) (hc : c ∈ word) :
    c.isDigit = true ∨ c ∈ ['.', 'e', 'E', 'p', 'i'] := by
  have hmantissa : ∀ {mantissa}, Number.Mantissa mantissa → c ∈ mantissa →
      c.isDigit = true ∨ c = '.' := by
    intro mantissa hmantissa hc
    cases hmantissa with
    | whole hwhole _ => exact Or.inl (hwhole c hc)
    | point hwhole _ hfraction =>
      rcases List.mem_append.1 hc with hc | hc
      · exact Or.inl (hwhole c hc)
      · exact (List.mem_cons.1 hc).symm.imp_left (hfraction c)
    | fraction hfraction _ => exact (List.mem_cons.1 hc).symm.imp_left (hfraction c)
  cases h with
  | pi => exact Or.inr ((by decide : "pi".toList ⊆ ['.', 'e', 'E', 'p', 'i']) hc)
  | e => exact Or.inr ((by decide : "e".toList ⊆ ['.', 'e', 'E', 'p', 'i']) hc)
  | numeral hfront hrest =>
    rcases List.mem_append.1 hc with hc | hc
    · exact (hmantissa hfront hc).imp_right fun hpoint => by simp [hpoint]
    · cases hrest with
      | absent => exact absurd hc List.not_mem_nil
      | marked hmark hdigits _ =>
        rcases List.mem_cons.1 hc with rfl | hc
        · exact Or.inr (by rcases hmark with rfl | rfl <;> decide)
        · exact Or.inl (hdigits c hc)

/-- A digit gathers into words. -/
theorem Lexeme.isLiteral_of_isDigit (h : c.isDigit = true) : IsLiteral c := by
  refine ⟨Bool.eq_false_iff.2 fun hblank => ?_, Option.eq_none_iff_forall_not_mem.2 ?_⟩
  · simp only [Char.isDigit, Bool.and_eq_true, decide_eq_true_eq, ge_iff_le,
      UInt32.le_iff_toNat_le] at h
    simp only [Text.isBlank, Char.toNat, Bool.or_eq_true, Bool.and_eq_true, decide_eq_true_eq,
      beq_iff_eq] at hblank
    have hzero : '0'.val.toNat = 48 := rfl
    have hnine : '9'.val.toNat = 57 := rfl
    omega
  · intro symbol hsymbol
    rw [← Symbol.char_of_ofChar? hsymbol] at h
    cases symbol <;> cases h

/-- **An operand is a lexeme:** it is not empty, and none of its characters
ends a word. -/
theorem IsOperand.isProper (h : IsOperand word) : (Lexeme.word word).IsProper := by
  constructor
  · rintro rfl
    obtain ⟨x, hx⟩ := Operand.exists_value_iff.2 h
    cases hx
  · intro c hc
    rcases h.mem hc with hdigit | hletter
    · exact Lexeme.isLiteral_of_isDigit hdigit
    · simp only [List.mem_cons, List.not_mem_nil, or_false] at hletter
      rcases hletter with rfl | rfl | rfl | rfl | rfl <;> decide

/-- A word by itself is the one lexeme of its text. -/
theorem tokenize_of_word (h : (Lexeme.word word).IsProper) :
    tokenize (String.ofList word) = [.word word] := by
  have hends : Lexeme.EndsWord [] := fun _ hc => absurd hc (Option.not_mem_none _)
  have hscan := Lexeme.scan_word h hends
  rw [List.append_nil] at hscan
  rw [tokenize, String.toList_ofList]
  exact hscan

/-- **An expression that is one word** comes to what the word does. -/
theorem evaluate_of_word (h : (Lexeme.word word).IsProper) :
    evaluate (String.ofList word) = Operand.value word := by
  rw [evaluate, tokenize_of_word h, evaluateLexemes, Stacks.run, Stacks.step]
  cases Operand.value word <;> rfl

/-- **The operands are the words of their form,** and each is an expression.
A word has a value just where it is the name of a constant or a numeral,
which then is the text of that double; and where it is not, the fault names
the word. An operand is the one lexeme of its text, which evaluates to its
value; and so does the text of a word that could be a lexeme and is no
operand come to the fault of the word. -/
theorem Operand.value_iff_form (text : String) :
    ((∃ x, value text.toList = .ok x) ↔ IsOperand text.toList) ∧
      (∀ x, value text.toList = .ok x →
        constant? text.toList = some x ∨ Number.ofText? text.toList = some x) ∧
      (¬ IsOperand text.toList → value text.toList = .error (.invalidOperand text.toList)) ∧
      (IsOperand text.toList →
        tokenize text = [.word text.toList] ∧ evaluate text = value text.toList) ∧
      ((Lexeme.word text.toList).IsProper → ¬ IsOperand text.toList →
        evaluate text = .error (.invalidOperand text.toList)) := by
  have hfault : ¬ IsOperand text.toList →
      value text.toList = .error (.invalidOperand text.toList) := by
    intro hnone
    cases hvalue : value text.toList with
    | ok x => exact absurd (exists_value_iff.1 ⟨x, hvalue⟩) hnone
    | error fault => rw [value_eq_error hvalue]
  refine ⟨exists_value_iff, fun x hx => ?_, hfault, fun hoperand => ?_, fun hproper hnone => ?_⟩
  · rw [value] at hx
    split at hx
    · rename_i hconstant
      exact Or.inl (hconstant.trans (congrArg some (Except.ok.inj hx)))
    · split at hx
      · rename_i hnumeral
        cases hx
        exact Or.inr (Number.ofText?_of_numeral hnumeral)
      · cases hx
  · have htokenize := tokenize_of_word hoperand.isProper
    have hevaluate := evaluate_of_word hoperand.isProper
    rw [String.ofList_toList] at htokenize hevaluate
    exact ⟨htokenize, hevaluate⟩
  · have hevaluate := evaluate_of_word hproper
    rw [String.ofList_toList, hfault hnone] at hevaluate
    exact hevaluate

/-- A numeral that ends in its point before the exponent is a lexeme, and
one with an underscore among its digits is a fault. -/
theorem Operand.value_iff_form_underscore :
    IsOperand "5.E07".toList ∧ tokenize "5.E07" = [.word "5.E07".toList] ∧
      ¬ IsOperand "1_0".toList ∧ evaluate "1_0" = .error (.invalidOperand "1_0".toList) := by
  obtain ⟨haccepts, -, -, hlexeme, -⟩ := value_iff_form "5.E07"
  obtain ⟨hrejects, -, -, -, hword⟩ := value_iff_form "1_0"
  have hoperand : IsOperand "5.E07".toList := haccepts.1 ⟨_, rfl⟩
  have hnone : ¬ IsOperand "1_0".toList := by
    intro h
    obtain ⟨x, hx⟩ := hrejects.2 h
    cases hx
  exact ⟨hoperand, (hlexeme hoperand).1, hnone, hword (by decide) hnone⟩

end Reckoner
