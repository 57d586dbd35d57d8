/-!
# Text — blanks

A blank is a character that separates lexemes and that stripping takes
off the ends of a text. The set is the white space of Unicode with the
four information separators added; zero-width characters and the byte
order mark are not in it.
-/

namespace Reckoner

namespace Text

/-- **A blank:** the ASCII white space, the four information separators,
and the spaces, line and paragraph separators of Unicode. -/
def isBlank (c : Char) : Bool :=
  let n := c.toNat
  (0x09 ≤ n && n ≤ 0x0D) || (0x1C ≤ n && n ≤ 0x20) || n == 0x85 || n == 0xA0 || n == 0x1680 ||
    (0x2000 ≤ n && n ≤ 0x200A) || n == 0x2028 || n == 0x2029 || n == 0x202F || n == 0x205F ||
    n == 0x3000

/-- White space in the narrower sense: a blank that is no information
separator. -/
def isSpace (c : Char) : Bool :=
  isBlank c && !(0x1C ≤ c.toNat && c.toNat ≤ 0x1F)

/-- Takes what `p` holds of off both ends. -/
def trim (p : Char → Bool) (cs : List Char) : List Char :=
  ((cs.dropWhile p).reverse.dropWhile p).reverse

/-- Takes the blanks off both ends. -/
def strip (cs : List Char) : List Char :=
  trim isBlank cs

/-- Whether a text holds blanks only, or nothing. -/
def isBlankText (cs : List Char) : Bool :=
  cs.all isBlank

/-- Dropping what `p` holds of leaves nothing exactly where it holds of
everything. -/
theorem dropWhile_eq_nil_iff {p : Char → Bool} {cs : List Char} :
    cs.dropWhile p = [] ↔ ∀ c ∈ cs, p c = true := by
  induction cs with
  | nil => simp
  | cons c cs ih => by_cases h : p c = true <;> simp [h, ih]

/-- What is left after stripping does not end in a blank. -/
theorem strip_eq_nil_of_isBlankText_strip {cs : List Char} (h : isBlankText (strip cs) = true) :
    strip cs = [] := by
  simp only [strip, trim, isBlankText, List.all_eq_true, List.mem_reverse,
    List.reverse_eq_nil_iff] at h ⊢
  refine Classical.byContradiction fun hne => ?_
  have hhead := List.head_dropWhile_not isBlank hne
  rw [h _ (List.head_mem hne)] at hhead
  exact Bool.noConfusion hhead

/-- **A text strips to nothing exactly where it is all blanks.** -/
theorem strip_eq_nil_iff {cs : List Char} : strip cs = [] ↔ isBlankText cs = true := by
  simp only [strip, trim, List.reverse_eq_nil_iff, dropWhile_eq_nil_iff, List.mem_reverse,
    isBlankText, List.all_eq_true]
  constructor
  · intro h
    refine dropWhile_eq_nil_iff.1 (Classical.byContradiction fun hne => ?_)
    have hhead := List.head_dropWhile_not isBlank hne
    rw [h _ (List.head_mem hne)] at hhead
    exact Bool.noConfusion hhead
  · intro h c hc
    exact h c ((List.dropWhile_suffix isBlank).subset hc)

/-- Stripping leaves a text as blank as it was. -/
@[simp] theorem isBlankText_strip (cs : List Char) : isBlankText (strip cs) = isBlankText cs :=
  Bool.eq_iff_iff.2 ⟨fun h => strip_eq_nil_iff.1 (strip_eq_nil_of_isBlankText_strip h),
    fun h => by rw [strip_eq_nil_iff.2 h]; rfl⟩

end Text

end Reckoner
