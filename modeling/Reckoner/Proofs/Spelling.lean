import Mathlib.Data.List.Chain
import Reckoner.Lexeme
/-!
# Spellings

How lexemes can be written: each with blanks in front, as many as one
likes or none, and blanks at the end. A spelling reads back as the
lexemes it spells where it keeps words apart, which takes a blank only
between two words that are neighbours (`tokenize_text`).
-/

namespace Reckoner

namespace Lexeme

/-- A character that gathers into words: no blank and no symbol. -/
def IsLiteral (c : Char) : Prop :=
  Text.isBlank c = false ∧ Symbol.ofChar? c = none

/-- **What can be a lexeme of a text:** any symbol, and any word that is
not empty and has literal characters only. -/
def IsProper : Lexeme → Prop
  | symbol _ => True
  | word cs => cs ≠ [] ∧ ∀ c ∈ cs, IsLiteral c

instance : DecidablePred IsLiteral :=
  fun c => inferInstanceAs (Decidable (Text.isBlank c = false ∧ Symbol.ofChar? c = none))

instance : DecidablePred IsProper
  | symbol _ => isTrue trivial
  | word cs =>
    -- by the word, and not by all there are of characters
    have : Decidable (∀ c ∈ cs, IsLiteral c) := List.decidableBAll IsLiteral cs
    inferInstanceAs (Decidable (cs ≠ [] ∧ ∀ c ∈ cs, IsLiteral c))

/-- Whether a lexeme is a word. -/
def IsWord : Lexeme → Prop
  | symbol _ => False
  | word _ => True

/-- A lexeme and the blanks in front of it. -/
structure Spaced where
  gap : List Char
  lexeme : Lexeme
  gap_blank : Text.isBlankText gap = true
  proper : lexeme.IsProper

/-- Written out. -/
def Spaced.chars (s : Spaced) : List Char :=
  s.gap ++ s.lexeme.chars

/-- Neighbours are kept apart: between two words there is a blank. -/
def Spaced.Apart (s next : Spaced) : Prop :=
  s.lexeme.IsWord → next.lexeme.IsWord → next.gap ≠ []

end Lexeme

/-- **A spelling** of lexemes, with blanks in front of each and at the
end. -/
structure Spelling where
  spaced : List Lexeme.Spaced
  last : List Char
  last_blank : Text.isBlankText last = true

namespace Spelling

/-- The characters of a spelling. -/
def chars (s : Spelling) : List Char :=
  s.spaced.flatMap Lexeme.Spaced.chars ++ s.last

/-- The text of a spelling. -/
def text (s : Spelling) : String :=
  String.ofList s.chars

/-- What is spelled. -/
def lexemes (s : Spelling) : List Lexeme :=
  s.spaced.map Lexeme.Spaced.lexeme

/-- All neighbours are kept apart. -/
def Apart (s : Spelling) : Prop :=
  s.spaced.IsChain Lexeme.Spaced.Apart

end Spelling

/-! ## Scanning a spelling -/

namespace Lexeme

/-- A text that ends the word before it: it does not begin with a literal
character. -/
def EndsWord (cs : List Char) : Prop :=
  ∀ c ∈ cs.head?, ¬ IsLiteral c

theorem endsWord_cons {c : Char} {cs : List Char} : EndsWord (c :: cs) ↔ ¬ IsLiteral c :=
  ⟨fun h => h c rfl, fun h _ hc => Option.some.inj hc ▸ h⟩

/-- A blank is not literal. -/
theorem not_isLiteral_of_blank {c : Char} (h : Text.isBlank c = true) : ¬ IsLiteral c := by
  intro hc
  rw [hc.1] at h
  exact Bool.noConfusion h

/-- Nor is a symbol. -/
theorem not_isLiteral_symbol (symbol : Symbol) : ¬ IsLiteral symbol.char := by
  rintro ⟨-, hnone⟩
  rw [Symbol.ofChar?_char] at hnone
  exact Option.some_ne_none _ hnone

theorem isBlank_char (symbol : Symbol) : Text.isBlank symbol.char = false := by
  cases symbol <;> decide

/-- Blanks between lexemes are passed over. -/
theorem scan_gap {gap : List Char} (h : Text.isBlankText gap = true) (cs : List Char) :
    scan [] (gap ++ cs) = scan [] cs := by
  induction gap with
  | nil => rfl
  | cons c gap ih =>
    obtain ⟨hc, hgap⟩ : Text.isBlank c = true ∧ Text.isBlankText gap = true := by
      simpa [Text.isBlankText] using h
    rw [List.cons_append, scan, if_pos hc]
    exact ih hgap

/-- Blanks alone hold no lexeme. -/
theorem scan_blank {gap : List Char} (h : Text.isBlankText gap = true) : scan [] gap = [] := by
  rw [← List.append_nil gap, scan_gap h]
  rfl

/-- A symbol is a lexeme. -/
theorem scan_symbol (symbol : Symbol) (cs : List Char) :
    scan [] (symbol.char :: cs) = .symbol symbol :: scan [] cs := by
  rw [scan, if_neg (by simp [isBlank_char]), Symbol.ofChar?_char]
  rfl

/-- Literal characters are gathered. -/
theorem scan_literals {word : List Char} (h : ∀ c ∈ word, IsLiteral c) (current cs : List Char) :
    scan current (word ++ cs) = scan (word.reverse ++ current) cs := by
  induction word generalizing current with
  | nil => rfl
  | cons c word ih =>
    obtain ⟨hb, hs⟩ := h c List.mem_cons_self
    rw [List.cons_append, scan, if_neg (by simp [hb]), hs]
    simp only [ih fun c hc => h c (List.mem_cons_of_mem _ hc), List.reverse_cons, List.append_assoc,
      List.cons_append, List.nil_append]

/-- What has been gathered is a word where it ends. -/
theorem scan_gathered (current : List Char) {cs : List Char} (h : EndsWord cs) :
    scan current cs = gathered current ++ scan [] cs := by
  cases cs with
  | nil => exact (List.append_nil _).symm
  | cons c cs =>
    rw [scan, scan]
    by_cases hb : Text.isBlank c = true
    · rw [if_pos hb, if_pos hb]
      rfl
    · -- a symbol flushes the word as a blank does, and `h` leaves nothing else
      rw [if_neg hb, if_neg hb]
      cases hs : Symbol.ofChar? c with
      | some symbol => rfl
      | none => exact absurd ⟨Bool.eq_false_iff.2 hb, hs⟩ (h c rfl)

/-- **A text splits** where no word goes on. -/
theorem scan_append {after : List Char} (h : EndsWord after) (current before : List Char) :
    scan current (before ++ after) = scan current before ++ scan [] after := by
  induction before generalizing current with
  | nil => exact scan_gathered current h
  | cons c before ih =>
    rw [List.cons_append, scan, scan]
    by_cases hblank : Text.isBlank c = true
    · rw [if_pos hblank, if_pos hblank, ih, List.append_assoc]
    · rw [if_neg hblank, if_neg hblank]
      cases Symbol.ofChar? c with
      | some symbol => simp only [ih, List.append_assoc, List.cons_append]
      | none => exact ih (c :: current)

/-- A word is a lexeme where it ends. -/
theorem scan_word {word cs : List Char} (hword : (Lexeme.word word).IsProper) (h : EndsWord cs) :
    scan [] (word ++ cs) = .word word :: scan [] cs := by
  rw [scan_literals hword.2, scan_gathered _ h, gathered, List.append_nil, List.reverse_reverse,
    if_neg (by simpa using hword.1)]
  rfl

theorem endsWord_of_blank {gap cs : List Char} (h : Text.isBlankText gap = true)
    (hcs : gap = [] → EndsWord cs) : EndsWord (gap ++ cs) := by
  cases gap with
  | nil => exact hcs rfl
  | cons c gap =>
    have hb : Text.isBlank c = true := by
      simp only [Text.isBlankText, List.all_cons, Bool.and_eq_true] at h
      exact h.1
    exact endsWord_cons.2 (not_isLiteral_of_blank hb)

theorem endsWord_blank {gap : List Char} (h : Text.isBlankText gap = true) : EndsWord gap := by
  rw [← List.append_nil gap]
  exact endsWord_of_blank h fun _ _ hnone => absurd hnone (Option.not_mem_none _)

/-- Blanks at the end are in no lexeme. -/
theorem scan_append_blank {last : List Char} (h : Text.isBlankText last = true)
    (current cs : List Char) : scan current (cs ++ last) = scan current cs := by
  rw [scan_append (endsWord_blank h), scan_blank h, List.append_nil]

theorem endsWord_of_symbol (symbol : Symbol) (cs : List Char) :
    EndsWord (symbol.char :: cs) :=
  endsWord_cons.2 (not_isLiteral_symbol symbol)

/-- After a word there is the end, a blank or a symbol. -/
theorem endsWord_spaced {s : Spaced} {rest : List Spaced} {last : List Char}
    (hlast : Text.isBlankText last = true) (hs : s.lexeme.IsWord)
    (h : ∀ next ∈ rest.head?, s.Apart next) :
    EndsWord (rest.flatMap Spaced.chars ++ last) := by
  cases rest with
  | nil =>
    rw [List.flatMap_nil, List.nil_append]
    exact endsWord_blank hlast
  | cons next rest =>
    simp only [List.flatMap_cons, Spaced.chars, List.append_assoc]
    refine endsWord_of_blank next.gap_blank fun hgap => ?_
    have hnext : ¬ next.lexeme.IsWord := fun hw => h next rfl hs hw hgap
    rcases hl : next.lexeme with symbol | word
    · exact endsWord_of_symbol symbol _
    · rw [hl] at hnext
      exact absurd trivial hnext

/-- Scanning gives the lexemes that were written. -/
theorem scan_spaced {spaced : List Spaced} {last : List Char}
    (hlast : Text.isBlankText last = true) (h : spaced.IsChain Spaced.Apart) :
    scan [] (spaced.flatMap Spaced.chars ++ last) = spaced.map Spaced.lexeme := by
  induction spaced with
  | nil =>
    exact scan_blank hlast
  | cons s rest ih =>
    obtain ⟨hnext, hrest⟩ := List.isChain_cons.1 h
    rw [List.flatMap_cons, Spaced.chars, List.append_assoc, List.append_assoc,
      scan_gap s.gap_blank, List.map_cons]
    rcases hs : s.lexeme with symbol | word
    · exact (scan_symbol symbol _).trans (congrArg _ (ih hrest))
    · have hends := endsWord_spaced hlast (by rw [hs]; trivial) hnext
      exact (scan_word (hs ▸ s.proper) hends).trans (congrArg _ (ih hrest))

end Lexeme

namespace Spelling

/-- **A spelling that keeps words apart reads back** as what it spells. -/
theorem tokenize_text {s : Spelling} (h : s.Apart) : tokenize s.text = s.lexemes := by
  rw [tokenize, text, String.toList_ofList]
  exact Lexeme.scan_spaced s.last_blank h

/-- Lexemes no two of which are words that are neighbours. -/
def Separate (lexemes : List Lexeme) : Prop :=
  lexemes.IsChain fun l next => l.IsWord → ¬ next.IsWord

/-- However such lexemes are spelled, words are kept apart. -/
theorem apart_of_separate {s : Spelling} (h : Separate s.lexemes) : s.Apart :=
  ((List.isChain_map _).1 h).imp fun _ _ hsep hw hnext => absurd hnext (hsep hw)

/-- A symbol in between keeps lexemes separate. -/
theorem separate_append_symbol {before after : List Lexeme} (symbol : Symbol)
    (hbefore : Separate before) (hafter : Separate after) :
    Separate (before ++ .symbol symbol :: after) := by
  refine List.isChain_append.2 ⟨hbefore, List.isChain_cons.2 ⟨?_, hafter⟩, ?_⟩
  · intro _ _ hw
    exact hw.elim
  · rintro _ _ _ ⟨⟩ _ hw
    exact hw

end Spelling

end Reckoner
