import Mathlib.Data.List.Basic
import Reckoner.Fault
import Reckoner.Proofs.Lines
/-!
# Characters of what is printed

A quotation is one line: what it shows is printable, which no line break
is, and all it adds is its marks and its escapes (`mem_quote`). A number
is one line too, of digits and a few more characters (`plain_text`).
-/

namespace Reckoner

namespace Text

instance : DecidablePred Unbroken :=
  fun cs => List.decidableBAll (fun c => endsLine c = false) cs

/-! ## Printable characters -/

/-- Nothing that ends a line is printable. -/
theorem isPrintable_of_endsLine {c : Char} (h : endsLine c = true) : isPrintable c = false := by
  have hn : c.toNat = 0x0A ∨ c.toNat = 0x0B ∨ c.toNat = 0x0C ∨ c.toNat = 0x0D ∨
      c.toNat = 0x1C ∨ c.toNat = 0x1D ∨ c.toNat = 0x1E ∨ c.toNat = 0x85 ∨ c.toNat = 0x2028 ∨
      c.toNat = 0x2029 := by
    rcases Bool.or_eq_true_iff.1 h with hbreak | hreturn
    · simp only [isLineBreak, Bool.or_eq_true, Bool.and_eq_true, decide_eq_true_eq,
        beq_iff_eq] at hbreak
      omega
    · rw [of_decide_eq_true hreturn]
      decide
  rw [← Char.ofNat_toNat c]
  rcases hn with h | h | h | h | h | h | h | h | h | h <;> rw [h] <;> decide +kernel

/-- So printable text is in one line. -/
theorem unbroken_of_printable {cs : List Char} (h : ∀ c ∈ cs, isPrintable c = true) :
    Unbroken cs := by
  intro c hc
  by_contra hends
  have hnot := isPrintable_of_endsLine (eq_true_of_ne_false hends)
  rw [h c hc] at hnot
  cases hnot

/-! ## Quotations -/

/-- The digits of a number are below its base. -/
theorem exists_digit_of_mem_toDigits {base n : Nat} {c : Char} (hbase : 1 < base)
    (h : c ∈ Nat.toDigits base n) : ∃ k < base, c = k.digitChar := by
  induction n using Nat.strongRecOn with
  | _ n ih =>
    by_cases hn : n < base
    · rw [Nat.toDigits_of_lt_base hn] at h
      exact ⟨n, hn, List.mem_singleton.1 h⟩
    · have hpos : 0 < n := by omega
      rw [Nat.toDigits_of_base_le hbase (Nat.le_of_not_lt hn)] at h
      rcases List.mem_append.1 h with h | h
      · exact ih _ (Nat.div_lt_self hpos hbase) h
      · exact ⟨n % base, Nat.mod_lt _ (by omega), List.mem_singleton.1 h⟩

namespace Quoted

/-- What a quotation can add: its marks, the backslash, the letters of
escapes and hexadecimal digits. -/
def added : List Char :=
  ['\'', '"', '\\', 'n', 'r', 't', 'x', 'u', 'U', '0', '1', '2', '3', '4', '5', '6', '7', '8', '9',
    'a', 'b', 'c', 'd', 'e', 'f']

theorem mem_added_of_mem_hexadecimal {width n : Nat} {c : Char} (h : c ∈ hexadecimal width n) :
    c ∈ added := by
  rcases List.mem_append.1 h with h | h
  · rw [List.eq_of_mem_replicate h]
    decide
  · obtain ⟨k, hk, rfl⟩ := exists_digit_of_mem_toDigits (by decide) h
    have hall : ∀ k < 16, k.digitChar ∈ added := by decide
    exact hall k hk

theorem mem_added_mark (cs : List Char) : mark cs ∈ added := by
  rw [mark]
  split <;> decide

/-- An escape is a backslash, a letter and perhaps digits. -/
theorem mem_added_of_mem_escape {letter d : Char} {digits : List Char} (hletter : letter ∈ added)
    (hdigits : ∀ c ∈ digits, c ∈ added) (h : d ∈ '\\' :: letter :: digits) : d ∈ added := by
  rcases List.mem_cons.1 h with rfl | h
  · decide
  · rcases List.mem_cons.1 h with rfl | h
    · exact hletter
    · exact hdigits d h

/-- **A character in a quotation** is shown itself, if it is printable, and
else by something added. -/
theorem mem_escape {q c d : Char} (hq : q ∈ added) (h : d ∈ escape q c) :
    d = c ∧ isPrintable c = true ∨ d ∈ added := by
  have hnone : ∀ c ∈ ([] : List Char), c ∈ added := fun _ hc => absurd hc List.not_mem_nil
  have hhexadecimal : ∀ width, ∀ d ∈ hexadecimal width c.toNat, d ∈ added :=
    fun _ _ => mem_added_of_mem_hexadecimal
  unfold escape at h
  split at h
  · rename_i hself
    have hc : c ∈ added := by
      rcases hself with rfl | rfl
      · decide
      · exact hq
    exact Or.inr (mem_added_of_mem_escape hc hnone h)
  split at h
  · exact Or.inr (mem_added_of_mem_escape (by decide) hnone h)
  split at h
  · exact Or.inr (mem_added_of_mem_escape (by decide) hnone h)
  split at h
  · exact Or.inr (mem_added_of_mem_escape (by decide) hnone h)
  split at h
  · exact Or.inl ⟨List.mem_singleton.1 h, ‹_›⟩
  split at h
  · exact Or.inr (mem_added_of_mem_escape (by decide) (hhexadecimal 2) h)
  split at h
  · exact Or.inr (mem_added_of_mem_escape (by decide) (hhexadecimal 4) h)
  · exact Or.inr (mem_added_of_mem_escape (by decide) (hhexadecimal 8) h)

end Quoted

/-- **A quotation** is made of printable characters of the text and of what
it adds. -/
theorem mem_quote {cs : List Char} {d : Char} (h : d ∈ (quote cs).toList) :
    d ∈ cs ∧ isPrintable d = true ∨ d ∈ Quoted.added := by
  rw [quote, String.toList_ofList, Quoted.encode] at h
  have hmark := Quoted.mem_added_mark cs
  rcases List.mem_append.1 h with h | h
  · rcases List.mem_cons.1 h with rfl | h
    · exact Or.inr hmark
    · obtain ⟨c, hc, hd⟩ := List.mem_flatMap.1 h
      rcases Quoted.mem_escape hmark hd with ⟨rfl, hprintable⟩ | hadded
      · exact Or.inl ⟨hc, hprintable⟩
      · exact Or.inr hadded
  · rw [List.mem_singleton.1 h]
    exact Or.inr hmark

/-- **A quotation is in one line.** -/
theorem unbroken_quote (cs : List Char) : Unbroken (quote cs).toList := by
  refine unbroken_of_printable fun d hd => ?_
  rcases mem_quote hd with ⟨-, hprintable⟩ | hadded
  · exact hprintable
  · have hall : Quoted.added.all isPrintable = true := by decide
    exact List.all_eq_true.1 hall d hadded

/-- And has none but its own of the characters that it never adds. -/
theorem mem_of_mem_quote {cs : List Char} {d : Char} (h : d ∈ (quote cs).toList)
    (hd : d ∉ Quoted.added) : d ∈ cs :=
  (mem_quote h).elim And.left fun hadded => absurd hadded hd

end Text

/-! ## Numbers -/

namespace Number

/-- A character that numbers are written with. -/
def IsPlain (c : Char) : Prop :=
  c.isDigit = true ∨ c ∈ ['.', 'e', '+', '-', 'i', 'n', 'f', 'a']

/-- Characters that numbers are written with, and no other. -/
def AllPlain (cs : List Char) : Prop :=
  ∀ c ∈ cs, IsPlain c

instance : DecidablePred IsPlain :=
  fun c => inferInstanceAs
    (Decidable (c.isDigit = true ∨ c ∈ ['.', 'e', '+', '-', 'i', 'n', 'f', 'a']))

instance : DecidablePred AllPlain :=
  fun cs => List.decidableBAll IsPlain cs

section AllPlain

variable {cs ds : List Char} {c : Char} {n : Nat}

theorem allPlain_append : AllPlain (cs ++ ds) ↔ AllPlain cs ∧ AllPlain ds :=
  List.forall_mem_append

theorem allPlain_cons : AllPlain (c :: cs) ↔ IsPlain c ∧ AllPlain cs :=
  List.forall_mem_cons

theorem AllPlain.of_subset (h : AllPlain cs) (hsub : ds ⊆ cs) : AllPlain ds :=
  fun c hc => h c (hsub hc)

theorem allPlain_zeros (n : Nat) : AllPlain (List.replicate n '0') := by
  intro c hc
  rw [List.eq_of_mem_replicate hc]
  exact Or.inl (by decide)

theorem allPlain_decimalDigits (n : Nat) : AllPlain (decimalDigits n) :=
  fun _ hc => Or.inl (Nat.isDigit_of_mem_toDigits (by decide) (by decide) hc)

theorem allPlain_padStart (width : Nat) (h : AllPlain ds) : AllPlain (padStart width ds) :=
  allPlain_append.2 ⟨allPlain_zeros _, h⟩

theorem allPlain_padEnd (width : Nat) (h : AllPlain ds) : AllPlain (padEnd width ds) :=
  allPlain_append.2 ⟨h, allPlain_zeros _⟩

end AllPlain

namespace Layout

variable (l : Layout) {digits : List Char}

/-- In full. -/
theorem allPlain_plain (h : AllPlain digits) (exponent : Int) :
    AllPlain (l.plain digits exponent) := by
  have hzero : IsPlain '0' := Or.inl (by decide)
  have hpoint : IsPlain '.' := Or.inr (by decide)
  rw [plain]
  split
  · exact allPlain_cons.2 ⟨hzero, allPlain_cons.2 ⟨hpoint, allPlain_padStart _ h⟩⟩
  · have hwhole := h.of_subset (List.take_subset (exponent.toNat + 1) digits)
    have hfraction := h.of_subset (List.drop_subset (exponent.toNat + 1) digits)
    refine allPlain_append.2 ⟨allPlain_padEnd _ hwhole, ?_⟩
    split
    · split
      · exact allPlain_cons.2 ⟨hpoint, allPlain_cons.2 ⟨hzero, fun _ hc => absurd hc (by simp)⟩⟩
      · exact fun _ hc => absurd hc (by simp)
    · exact allPlain_cons.2 ⟨hpoint, hfraction⟩

/-- With an exponent. -/
theorem allPlain_scientific (h : AllPlain digits) (exponent : Int) :
    AllPlain (l.scientific digits exponent) := by
  have hpoint : IsPlain '.' := Or.inr (by decide)
  have hmark : IsPlain 'e' := Or.inr (by decide)
  rw [scientific]
  refine allPlain_append.2 ⟨allPlain_append.2 ⟨h.of_subset (List.take_subset _ _), ?_⟩,
    allPlain_cons.2 ⟨hmark, allPlain_cons.2 ⟨?_, allPlain_padStart _ (allPlain_decimalDigits _)⟩⟩⟩
  · split
    · exact fun _ hc => absurd hc (by simp)
    · exact allPlain_cons.2 ⟨hpoint, h.of_subset (List.drop_subset _ _)⟩
  · split <;> exact Or.inr (by decide)

theorem allPlain_significant (d : Decimal) : AllPlain d.significant.1 := by
  refine (allPlain_decimalDigits d.digits).of_subset fun c hc => ?_
  exact List.mem_reverse.1 ((List.dropWhile_suffix _).subset (List.mem_reverse.1 hc))

theorem allPlain_positive (d : Decimal) : AllPlain (l.positive d) := by
  have hdigits := allPlain_significant d
  simp only [positive]
  split
  · exact allPlain_plain l hdigits _
  · exact allPlain_scientific l hdigits _

theorem allPlain_signed {cs : List Char} (negative : Bool) (h : AllPlain cs) :
    AllPlain (write.signed negative cs) := by
  rw [write.signed]
  split
  · exact allPlain_cons.2 ⟨Or.inr (by decide), h⟩
  · exact h

/-- **Every shape.** -/
theorem allPlain_write (s : Shape) : AllPlain (l.write s) := by
  unfold write
  split
  · have hnan : AllPlain ['n', 'a', 'n'] := by decide
    exact hnan
  · have hinf : AllPlain ['i', 'n', 'f'] := by decide
    exact allPlain_signed _ hinf
  · have hzero : AllPlain ['0'] := allPlain_zeros 1
    exact allPlain_signed _ (allPlain_plain l hzero 0)
  · exact allPlain_signed _ (allPlain_positive l _)

end Layout

/-- **A number is written with plain characters.** -/
theorem allPlain_text (x : Float) : AllPlain (text x).toList := by
  rw [text, String.toList_ofList]
  exact Layout.allPlain_write _ _

/-- **A number has none of the signs** that a line is split at. -/
theorem notMem_text (x : Float) : '>' ∉ (text x).toList ∧ '=' ∉ (text x).toList := by
  have hplain := allPlain_text x
  exact ⟨fun hmem => absurd (hplain _ hmem) (by decide),
    fun hmem => absurd (hplain _ hmem) (by decide)⟩

/-- They are printable. -/
theorem isPrintable_of_isPlain {c : Char} (h : IsPlain c) : Text.isPrintable c = true := by
  rcases h with h | h
  · have hdigit : 48 ≤ c.toNat ∧ c.toNat ≤ 57 := by
      simpa [Char.isDigit, UInt32.le_iff_toNat_le] using h
    simp only [Text.isPrintable]
    rw [if_pos (by omega), decide_eq_true_iff]
    omega
  · have hall : ['.', 'e', '+', '-', 'i', 'n', 'f', 'a'].all Text.isPrintable = true := by decide
    exact List.all_eq_true.1 hall c h

/-- **A number is in one line.** -/
theorem unbroken_text (x : Float) : Text.Unbroken (text x).toList :=
  Text.unbroken_of_printable fun c hc => isPrintable_of_isPlain (allPlain_text x c hc)

end Number

end Reckoner
