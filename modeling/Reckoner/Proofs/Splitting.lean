import Reckoner.Proofs.Spelling
/-!
# Splitting a text

Every text is a spelling that keeps words apart (`exists_spelling`), and
such a spelling reads back as what it spells. So the lexemes of a text are
the one way to cut it into symbols and words with blanks between them, no
two words touching (`tokenize_eq_iff`): the longest words there are. A
spelling is found from the end of the text: a character in front of it is
a blank more, a symbol of its own, or the first of a word.
-/

namespace Reckoner

/-- Only its own character is read as a symbol. -/
theorem Symbol.char_of_ofChar? {c : Char} {symbol : Symbol} (h : ofChar? c = some symbol) :
    symbol.char = c := by
  unfold ofChar? at h
  split at h <;> cases h <;> rfl

namespace Lexeme

/-- A proper lexeme has a character. -/
theorem IsProper.chars_ne_nil {l : Lexeme} (h : l.IsProper) : l.chars ≠ [] := by
  cases l with
  | symbol symbol => exact List.cons_ne_nil _ _
  | word cs => exact h.1

/-- None of its characters is a blank. -/
theorem IsProper.isBlank_of_mem {l : Lexeme} (h : l.IsProper) {c : Char} (hc : c ∈ l.chars) :
    Text.isBlank c = false := by
  cases l with
  | symbol symbol =>
    rw [List.mem_singleton.1 hc]
    exact isBlank_char symbol
  | word cs => exact (h.2 c hc).1

/-- A literal character in front of a word belongs to it. -/
theorem IsProper.cons {c : Char} {cs : List Char} (hc : IsLiteral c) (h : (word cs).IsProper) :
    (word (c :: cs)).IsProper := by
  refine ⟨List.cons_ne_nil _ _, fun d hd => ?_⟩
  rcases List.mem_cons.1 hd with rfl | hd
  · exact hc
  · exact h.2 d hd

/-- A literal character is a word by itself. -/
theorem isProper_singleton {c : Char} (hc : IsLiteral c) : (word [c]).IsProper := by
  refine ⟨List.cons_ne_nil _ _, fun d hd => ?_⟩
  rw [List.mem_singleton.1 hd]
  exact hc

/-- Blanks with a blank in front are blanks. -/
theorem isBlankText_cons {c : Char} {gap : List Char} (hc : Text.isBlank c = true)
    (h : Text.isBlankText gap = true) : Text.isBlankText (c :: gap) = true := by
  rw [Text.isBlankText, List.all_cons, Bool.and_eq_true]
  exact ⟨hc, h⟩

/-- Without its blanks a blank text is empty. -/
theorem filter_of_isBlankText {gap : List Char} (h : Text.isBlankText gap = true) :
    gap.filter (fun c => !Text.isBlank c) = [] := by
  rw [List.filter_eq_nil_iff]
  rw [Text.isBlankText, List.all_eq_true] at h
  intro c hc
  simp [h c hc]

/-- And a spaced lexeme is the lexeme. -/
theorem Spaced.filter_chars (s : Spaced) :
    s.chars.filter (fun c => !Text.isBlank c) = s.lexeme.chars := by
  have hgap := filter_of_isBlankText s.gap_blank
  have hlexeme : s.lexeme.chars.filter (fun c => !Text.isBlank c) = s.lexeme.chars := by
    rw [List.filter_eq_self]
    intro c hc
    simp [s.proper.isBlank_of_mem hc]
  rw [Spaced.chars, List.filter_append, hgap, hlexeme, List.nil_append]

end Lexeme

namespace Spelling

open Lexeme

variable {s : Spelling} {c : Char}

/-! ## A character in front of a spelling -/

/-- **A blank** widens the first gap. -/
theorem exists_cons_blank (h : s.Apart) (hc : Text.isBlank c = true) :
    ∃ t : Spelling, t.Apart ∧ t.chars = c :: s.chars := by
  obtain ⟨spaced, last, hlast⟩ := s
  cases spaced with
  | nil => exact ⟨⟨[], c :: last, isBlankText_cons hc hlast⟩, List.isChain_nil, rfl⟩
  | cons first rest =>
    -- the gap of the first lexeme is asked for by no neighbour
    obtain ⟨hnext, hrest⟩ := List.isChain_cons.1 h
    exact ⟨⟨⟨c :: first.gap, first.lexeme, isBlankText_cons hc first.gap_blank, first.proper⟩ ::
      rest, last, hlast⟩, List.isChain_cons.2 ⟨hnext, hrest⟩, rfl⟩

/-- **A symbol** is a lexeme more. -/
theorem exists_cons_symbol (h : s.Apart) (symbol : Symbol) :
    ∃ t : Spelling, t.Apart ∧ t.chars = symbol.char :: s.chars := by
  obtain ⟨spaced, last, hlast⟩ := s
  refine ⟨⟨⟨[], .symbol symbol, rfl, trivial⟩ :: spaced, last, hlast⟩, ?_, rfl⟩
  exact List.isChain_cons.2 ⟨fun _ _ hword => hword.elim, h⟩

/-- **A literal character** is the first of a word: of the first lexeme,
where that is a word and no blank is in front of it, and else of a word of
its own. -/
theorem exists_cons_literal (h : s.Apart) (hc : IsLiteral c) :
    ∃ t : Spelling, t.Apart ∧ t.chars = c :: s.chars := by
  obtain ⟨spaced, last, hlast⟩ := s
  by_cases hjoin : ∃ word proper rest, spaced = ⟨[], .word word, rfl, proper⟩ :: rest
  · obtain ⟨word, proper, rest, rfl⟩ := hjoin
    obtain ⟨hnext, hrest⟩ := List.isChain_cons.1 h
    exact ⟨⟨⟨[], .word (c :: word), rfl, proper.cons hc⟩ :: rest, last, hlast⟩,
      List.isChain_cons.2 ⟨hnext, hrest⟩, rfl⟩
  · refine ⟨⟨⟨[], .word [c], rfl, isProper_singleton hc⟩ :: spaced, last, hlast⟩, ?_, rfl⟩
    refine List.isChain_cons.2 ⟨?_, h⟩
    rintro ⟨gap, lexeme, hgap, proper⟩ hfirst - hword rfl
    obtain ⟨rest, hspaced⟩ := List.head?_eq_some_iff.1 hfirst
    cases lexeme with
    | symbol symbol => exact hword
    | word word => exact hjoin ⟨word, proper, rest, hspaced⟩

/-- **Every text is a spelling** that keeps words apart. -/
theorem exists_spelling (cs : List Char) : ∃ s : Spelling, s.Apart ∧ s.chars = cs := by
  induction cs with
  | nil => exact ⟨⟨[], [], rfl⟩, List.isChain_nil, rfl⟩
  | cons c cs ih =>
    obtain ⟨s, hapart, rfl⟩ := ih
    by_cases hblank : Text.isBlank c = true
    · exact exists_cons_blank hapart hblank
    · cases hsymbol : Symbol.ofChar? c with
      | some symbol =>
        rw [← Symbol.char_of_ofChar? hsymbol]
        exact exists_cons_symbol hapart symbol
      | none => exact exists_cons_literal hapart ⟨Bool.eq_false_iff.2 hblank, hsymbol⟩

/-- Without its blanks a spelling is what it spells. -/
theorem filter_chars (s : Spelling) :
    s.chars.filter (fun c => !Text.isBlank c) = s.lexemes.flatMap Lexeme.chars := by
  obtain ⟨spaced, last, hlast⟩ := s
  have hend := filter_of_isBlankText hlast
  simp only [chars, lexemes, List.filter_append, hend, List.append_nil]
  induction spaced with
  | nil => rfl
  | cons first rest ih =>
    rw [List.flatMap_cons, List.filter_append, first.filter_chars, ih]
    rfl

/-- What is spelled is proper. -/
theorem isProper_of_mem (s : Spelling) {l : Lexeme} (h : l ∈ s.lexemes) : l.IsProper := by
  obtain ⟨spaced, -, rfl⟩ := List.mem_map.1 h
  exact spaced.proper

end Spelling

/-! ## Symbols split a text -/

/-- Where a symbol stands, what has been gathered is a word. -/
theorem Lexeme.scan_append_symbol (symbol : Symbol) (current cs rest : List Char) :
    scan current (cs ++ symbol.char :: rest) =
      scan current cs ++ .symbol symbol :: scan [] rest := by
  have hends := endsWord_of_symbol symbol rest
  rw [scan_append hends, scan_symbol]

/-- The lexemes of a text in brackets. -/
theorem tokenize_bracketed (text : String) :
    tokenize ("(" ++ text ++ ")") =
      .symbol .openBracket :: (tokenize text ++ [.symbol .closeBracket]) := by
  have hchars : ("(" ++ text ++ ")").toList =
      Symbol.openBracket.char :: (text.toList ++ Symbol.closeBracket.char :: []) := by
    rw [String.toList_append, String.toList_append]
    rfl
  rw [tokenize, hchars, Lexeme.scan_symbol, Lexeme.scan_append_symbol]
  rfl

/-! ## The lexemes of a text -/

/-- A text is what stripping leaves of it, and blanks on both sides. -/
theorem Text.exists_gaps (cs : List Char) :
    ∃ gap last, isBlankText gap = true ∧ isBlankText last = true ∧
      cs = gap ++ (strip cs ++ last) := by
  refine ⟨cs.takeWhile isBlank, ((cs.dropWhile isBlank).reverse.takeWhile isBlank).reverse,
    List.all_takeWhile, ?_, ?_⟩
  · rw [isBlankText, List.all_reverse]
    exact List.all_takeWhile
  · rw [strip, trim, ← List.reverse_append, List.takeWhile_append_dropWhile, List.reverse_reverse,
      List.takeWhile_append_dropWhile]

/-- **Blanks around an expression** are in no lexeme, so it does not matter
whether they are stripped. -/
theorem tokenize_strip (cs : List Char) :
    tokenize (String.ofList (Text.strip cs)) = tokenize (String.ofList cs) := by
  obtain ⟨gap, last, hgap, hlast, hcs⟩ := Text.exists_gaps cs
  rw [tokenize, tokenize, String.toList_ofList, String.toList_ofList]
  conv_rhs => rw [hcs, Lexeme.scan_gap hgap, Lexeme.scan_append_blank hlast]

/-- **The lexemes of a text are the one way to split it:** into symbols and
words that are not empty, with blanks between them and at both ends, of
which there is one at least between two words. So of the characters of a
text its blanks are dropped, and no other, and the order is kept. -/
theorem tokenize_eq_iff (expression : String) :
    (∀ lexemes, tokenize expression = lexemes ↔
        ∃ s : Spelling, s.Apart ∧ s.text = expression ∧ s.lexemes = lexemes) ∧
      (tokenize expression).flatMap Lexeme.chars =
        expression.toList.filter (fun c => !Text.isBlank c) ∧
      ∀ lexeme ∈ tokenize expression, lexeme.chars ≠ [] := by
  obtain ⟨s, hapart, hchars⟩ := Spelling.exists_spelling expression.toList
  have htext : s.text = expression := by
    rw [Spelling.text, hchars, String.ofList_toList]
  have hlexemes : tokenize expression = s.lexemes := by
    rw [← htext]
    exact Spelling.tokenize_text hapart
  refine ⟨fun lexemes => ⟨fun h => ⟨s, hapart, htext, hlexemes.symm.trans h⟩, ?_⟩, ?_, ?_⟩
  · rintro ⟨t, htapart, rfl, rfl⟩
    exact Spelling.tokenize_text htapart
  · rw [hlexemes, ← hchars, s.filter_chars]
  · intro lexeme hmem
    rw [hlexemes] at hmem
    exact (s.isProper_of_mem hmem).chars_ne_nil

end Reckoner
