import Mathlib.Logic.Relation
import Reckoner.Evaluation
import Reckoner.Proofs.Splitting
/-!
# Spacing

Edits of the blanks of a text: some are put in or taken out at a place
where no word is split (`Free`), or some are exchanged for others. A text
can be respaced to another, by any number of such edits, exactly where the
two have the same lexemes (`respaced_iff_tokenize`), and then they evaluate
to the same. In the one direction the text splits at such a place, so the
blanks there are in no lexeme. In the other, either text can be respaced to
its lexemes with one blank between two of them (`respaced_joined`).
-/

namespace Reckoner

namespace Lexeme

/-- A character is a blank, a symbol or literal. -/
theorem blank_or_symbol_of_not_isLiteral {c : Char} (h : ¬ IsLiteral c) :
    Text.isBlank c = true ∨ ∃ symbol : Symbol, symbol.char = c := by
  by_cases hblank : Text.isBlank c = true
  · exact Or.inl hblank
  · cases hsymbol : Symbol.ofChar? c with
    | some symbol => exact Or.inr ⟨symbol, Symbol.char_of_ofChar? hsymbol⟩
    | none => exact absurd ⟨Bool.eq_false_iff.2 hblank, hsymbol⟩ h

end Lexeme

namespace Spacing

open Lexeme

variable {before after gap gap' : List Char}

/-! ## Where blanks make no difference -/

/-- **A place between two parts of a text is free** where it is at an end
of the text, next to a symbol, or beside a blank. -/
inductive Free : List Char → List Char → Prop where
  | atStart {after : List Char} : Free [] after
  | atEnd {before : List Char} : Free before []
  | behindSymbol {before after : List Char} (symbol : Symbol) :
      Free (before ++ [symbol.char]) after
  | beforeSymbol {before after : List Char} (symbol : Symbol) :
      Free before (symbol.char :: after)
  | behindBlank {before after : List Char} {c : Char} :
      Text.isBlank c = true → Free (before ++ [c]) after
  | beforeBlank {before after : List Char} {c : Char} :
      Text.isBlank c = true → Free before (c :: after)

/-- A text whose last character, if there is one, is not literal. -/
def LeavesWord (cs : List Char) : Prop :=
  ∀ c ∈ cs.getLast?, ¬ IsLiteral c

theorem leavesWord_append_singleton {c : Char} :
    LeavesWord (before ++ [c]) ↔ ¬ IsLiteral c := by
  rw [LeavesWord, List.getLast?_concat]
  exact ⟨fun h => h c rfl, fun h _ hc => Option.some.inj hc ▸ h⟩

/-- **A place is free where it is not between two literal characters,** so
that no word is split or joined there. -/
theorem free_iff : Free before after ↔ LeavesWord before ∨ EndsWord after := by
  constructor
  · intro h
    cases h with
    | atStart => exact Or.inl fun c hc => absurd hc (Option.not_mem_none c)
    | atEnd => exact Or.inr fun c hc => absurd hc (Option.not_mem_none c)
    | behindSymbol symbol =>
      exact Or.inl (leavesWord_append_singleton.2 (not_isLiteral_symbol symbol))
    | beforeSymbol symbol => exact Or.inr (endsWord_of_symbol symbol _)
    | behindBlank hc => exact Or.inl (leavesWord_append_singleton.2 (not_isLiteral_of_blank hc))
    | beforeBlank hc => exact Or.inr (endsWord_cons.2 (not_isLiteral_of_blank hc))
  · rintro (h | h)
    · rcases List.eq_nil_or_concat before with rfl | ⟨before, c, rfl⟩
      · exact .atStart
      · rw [List.concat_eq_append] at h ⊢
        rcases blank_or_symbol_of_not_isLiteral (leavesWord_append_singleton.1 h) with
          hc | ⟨symbol, rfl⟩
        · exact .behindBlank hc
        · exact .behindSymbol symbol
    · cases after with
      | nil => exact .atEnd
      | cons c after =>
        rcases blank_or_symbol_of_not_isLiteral (endsWord_cons.1 h) with hc | ⟨symbol, rfl⟩
        · exact .beforeBlank hc
        · exact .beforeSymbol symbol

/-- A text splits behind a part that leaves no word. -/
theorem scan_append_of_leavesWord (h : LeavesWord before) :
    scan [] (before ++ after) = scan [] before ++ scan [] after := by
  rcases List.eq_nil_or_concat before with rfl | ⟨before, c, rfl⟩
  · rfl
  · -- the last character ends the word before it, and is none itself
    rw [List.concat_eq_append] at h ⊢
    have hc := leavesWord_append_singleton.1 h
    have hlast : scan [] ([c] ++ after) = scan [] [c] ++ scan [] after := by
      rcases blank_or_symbol_of_not_isLiteral hc with hblank | ⟨symbol, rfl⟩
      · have hgap : Text.isBlankText [c] = true := isBlankText_cons hblank rfl
        rw [scan_gap hgap, scan_blank hgap, List.nil_append]
      · have hsymbol := scan_symbol symbol
        rw [List.singleton_append, hsymbol, hsymbol]
        rfl
    have hends : EndsWord ([c] ++ after) := endsWord_cons.2 hc
    have hends' : EndsWord [c] := endsWord_cons.2 hc
    rw [List.append_assoc, scan_append hends, scan_append hends', hlast, List.append_assoc]

/-- **A text splits where a place is free.** -/
theorem scan_append_of_free (h : Free before after) :
    scan [] (before ++ after) = scan [] before ++ scan [] after := by
  rcases free_iff.1 h with hbefore | hafter
  · exact scan_append_of_leavesWord hbefore
  · exact scan_append hafter [] before

/-- And where there are blanks. -/
theorem scan_append_gap (hgap : Text.isBlankText gap = true) (hne : gap ≠ []) :
    scan [] (before ++ gap ++ after) = scan [] before ++ scan [] after := by
  have hends : EndsWord (gap ++ after) := endsWord_of_blank hgap fun hnil => absurd hnil hne
  rw [List.append_assoc, scan_append hends, scan_gap hgap]

/-! ## Edits -/

/-- **An edit of the blanks of a text.** -/
inductive Edit : List Char → List Char → Prop where
  /-- Blanks are put in at a free place. -/
  | insert {before gap after : List Char} : Text.isBlankText gap = true → Free before after →
      Edit (before ++ after) (before ++ gap ++ after)
  /-- Blanks are taken out, and the place where they were is free. -/
  | delete {before gap after : List Char} : Text.isBlankText gap = true → Free before after →
      Edit (before ++ gap ++ after) (before ++ after)
  /-- Blanks are exchanged for others. -/
  | replace {before gap gap' after : List Char} : Text.isBlankText gap = true → gap ≠ [] →
      Text.isBlankText gap' = true → gap' ≠ [] →
      Edit (before ++ gap ++ after) (before ++ gap' ++ after)

/-- **A text is respaced to another** by any number of edits. -/
def Respaced : List Char → List Char → Prop :=
  Relation.ReflTransGen Edit

/-- Blanks at a free place are in no lexeme. -/
theorem scan_insert (hgap : Text.isBlankText gap = true) (hfree : Free before after) :
    scan [] (before ++ gap ++ after) = scan [] (before ++ after) := by
  rw [scan_append_of_free hfree]
  by_cases hne : gap = []
  · rw [hne, List.append_nil, scan_append_of_free hfree]
  · exact scan_append_gap hgap hne

/-- **An edit keeps the lexemes.** -/
theorem Edit.scan_eq {cs ds : List Char} (h : Edit cs ds) : scan [] cs = scan [] ds := by
  cases h with
  | insert hgap hfree => exact (scan_insert hgap hfree).symm
  | delete hgap hfree => exact scan_insert hgap hfree
  | replace hgap hne hgap' hne' => rw [scan_append_gap hgap hne, scan_append_gap hgap' hne']

/-- An edit can be taken back. -/
theorem Edit.symm {cs ds : List Char} (h : Edit cs ds) : Edit ds cs := by
  cases h with
  | insert hgap hfree => exact .delete hgap hfree
  | delete hgap hfree => exact .insert hgap hfree
  | replace hgap hne hgap' hne' => exact .replace hgap' hne' hgap hne

namespace Respaced

variable {cs ds es : List Char}

theorem refl (cs : List Char) : Respaced cs cs :=
  Relation.ReflTransGen.refl

theorem of_edit (h : Edit cs ds) : Respaced cs ds :=
  Relation.ReflTransGen.single h

theorem trans (h : Respaced cs ds) (h' : Respaced ds es) : Respaced cs es :=
  Relation.ReflTransGen.trans h h'

theorem symm (h : Respaced cs ds) : Respaced ds cs := by
  induction h with
  | refl => exact refl cs
  | tail _ hedit ih => exact (of_edit hedit.symm).trans ih

/-- Any number of edits keeps the lexemes. -/
theorem scan_eq (h : Respaced cs ds) : scan [] cs = scan [] ds := by
  induction h with
  | refl => rfl
  | tail _ hedit ih => exact ih.trans hedit.scan_eq

end Respaced

/-! ## One blank between two lexemes -/

/-- Lexemes behind another, with one blank in front of each. -/
def evenly (lexemes : List Lexeme) : List Char :=
  lexemes.flatMap fun l => ' ' :: l.chars

/-- **A gap between two lexemes** becomes one blank, since there is a blank
in it or one of the two is a symbol. -/
theorem respaced_gap {s next : Spaced} (hapart : s.Apart next) (before after : List Char) :
    Respaced (before ++ s.lexeme.chars ++ next.gap ++ (next.lexeme.chars ++ after))
      (before ++ s.lexeme.chars ++ [' '] ++ (next.lexeme.chars ++ after)) := by
  have hblank : Text.isBlankText [' '] = true := by decide
  by_cases hgap : next.gap = []
  · have hfree : Free (before ++ s.lexeme.chars) (next.lexeme.chars ++ after) := by
      cases hs : s.lexeme with
      | symbol symbol => exact .behindSymbol symbol
      | word word =>
        cases hnext : next.lexeme with
        | symbol symbol => exact .beforeSymbol symbol
        | word word' =>
          -- two words with nothing between them are not apart
          rw [Spaced.Apart, hs, hnext] at hapart
          exact absurd hgap (hapart trivial trivial)
    rw [hgap, List.append_nil]
    exact .of_edit (.insert hblank hfree)
  · exact .of_edit (.replace next.gap_blank hgap hblank (List.cons_ne_nil _ _))

/-- Spaced lexemes behind another are respaced evenly. -/
theorem respaced_evenly {s : Spaced} {rest : List Spaced} {last : List Char}
    (hlast : Text.isBlankText last = true) (hapart : (s :: rest).IsChain Spaced.Apart)
    (before : List Char) :
    Respaced (before ++ s.lexeme.chars ++ (rest.flatMap Spaced.chars ++ last))
      (before ++ s.lexeme.chars ++ evenly (rest.map Spaced.lexeme)) := by
  -- from left to right: what is in front of a gap is spaced evenly already
  induction rest generalizing s before with
  | nil =>
    have hedit : Edit (before ++ s.lexeme.chars ++ last ++ []) (before ++ s.lexeme.chars ++ []) :=
      .delete hlast .atEnd
    rw [List.append_nil] at hedit
    exact .of_edit hedit
  | cons next rest ih =>
    obtain ⟨hnext, hrest⟩ := List.isChain_cons_cons.1 hapart
    have hgap := respaced_gap hnext before (rest.flatMap Spaced.chars ++ last)
    have hlater := ih hrest (before ++ s.lexeme.chars ++ [' '])
    simp only [List.flatMap_cons, Spaced.chars, List.map_cons, evenly, List.append_assoc,
      List.cons_append] at hgap hlater ⊢
    exact hgap.trans hlater

/-- The characters of lexemes with one blank between two of them. -/
theorem toList_joined (l : Lexeme) (lexemes : List Lexeme) :
    (" ".intercalate ((l :: lexemes).map Lexeme.text)).toList = l.chars ++ evenly lexemes := by
  rw [String.toList_intercalate, List.map_map]
  have htext : String.toList ∘ Lexeme.text = Lexeme.chars :=
    funext fun l => String.toList_ofList
  rw [htext]
  induction lexemes generalizing l with
  | nil => simp [evenly]
  | cons next lexemes ih =>
    rw [List.map_cons, List.map_cons, List.intercalate_cons_cons, ← List.map_cons, ih]
    simp [evenly]

/-- **Every text is respaced to its lexemes** with one blank between two of
them. -/
theorem respaced_joined (text : String) :
    Respaced text.toList (" ".intercalate ((tokenize text).map Lexeme.text)).toList := by
  obtain ⟨⟨spaced, last, hlast⟩, hapart, hchars⟩ := Spelling.exists_spelling text.toList
  have hlexemes : tokenize text = spaced.map Spaced.lexeme := by
    rw [tokenize, ← hchars]
    exact scan_spaced hlast hapart
  rw [hlexemes, ← hchars]
  cases spaced with
  | nil =>
    have hedit : Edit ([] ++ last ++ []) ([] ++ []) := .delete hlast .atEnd
    rw [List.append_nil] at hedit
    exact .of_edit hedit
  | cons first rest =>
    have hedit : Edit
        ([] ++ first.gap ++ (first.lexeme.chars ++ (rest.flatMap Spaced.chars ++ last)))
        ([] ++ (first.lexeme.chars ++ (rest.flatMap Spaced.chars ++ last))) :=
      .delete first.gap_blank .atStart
    have hlater := respaced_evenly hlast hapart []
    rw [List.map_cons, toList_joined]
    simp only [Spelling.chars, List.flatMap_cons, Spaced.chars, List.append_assoc,
      List.nil_append] at hedit hlater ⊢
    exact (Respaced.of_edit hedit).trans hlater

/-- A text and its lexemes with one blank between two of them have the same
lexemes. -/
theorem tokenize_joined (text : String) :
    tokenize (" ".intercalate ((tokenize text).map Lexeme.text)) = tokenize text :=
  (respaced_joined text).scan_eq.symm

/-- **Texts of the same lexemes are respaced to one another.** -/
theorem respaced_of_tokenize_eq {text text' : String} (h : tokenize text = tokenize text') :
    Respaced text.toList text'.toList := by
  have hleft := respaced_joined text
  have hright := respaced_joined text'
  rw [h] at hleft
  exact hleft.trans hright.symm

/-- **Spacing changes nothing.** A text can be respaced to another exactly
where the two have the same lexemes; and then they have the same value, or
the same fault, with all that its message quotes. In particular the lexemes
of a text, with one blank between two of them, read back as themselves. -/
theorem respaced_iff_tokenize (text text' : String) :
    (Respaced text.toList text'.toList ↔ tokenize text = tokenize text') ∧
      (Respaced text.toList text'.toList → evaluate text = evaluate text') ∧
      tokenize (" ".intercalate ((tokenize text).map Lexeme.text)) = tokenize text := by
  have hlexemes : Respaced text.toList text'.toList → tokenize text = tokenize text' :=
    fun h => h.scan_eq
  refine ⟨⟨hlexemes, respaced_of_tokenize_eq⟩, fun h => ?_, tokenize_joined text⟩
  rw [evaluate, evaluate, hlexemes h]

/-- Before a symbol a blank is taken out, behind it one is put in, and the
one between two words is exchanged for two others. -/
theorem respaced_iff_tokenize_difference :
    Respaced "e -x y".toList "e-\u3000x\u00a0\ty".toList ∧
      evaluate "e-\u3000x\u00a0\ty" = .error (.invalidOperand ['x']) := by
  have hdelete : Edit (['e'] ++ [' '] ++ ['-', 'x', ' ', 'y']) (['e'] ++ ['-', 'x', ' ', 'y']) :=
    .delete (by decide) (.beforeSymbol .minus)
  have hinsert : Edit (['e'] ++ ['-'] ++ ['x', ' ', 'y'])
      (['e'] ++ ['-'] ++ ['\u3000'] ++ ['x', ' ', 'y']) :=
    .insert (by decide) (.behindSymbol .minus)
  have hreplace : Edit (['e', '-', '\u3000', 'x'] ++ [' '] ++ ['y'])
      (['e', '-', '\u3000', 'x'] ++ ['\u00a0', '\t'] ++ ['y']) :=
    .replace (by decide) (List.cons_ne_nil _ _) (by decide) (List.cons_ne_nil _ _)
  have hrespaced : Respaced "e -x y".toList "e-\u3000x\u00a0\ty".toList :=
    ((Respaced.of_edit hdelete).trans (.of_edit hinsert)).trans (.of_edit hreplace)
  have hfault : evaluate "e -x y" = .error (.invalidOperand ['x']) := by rfl
  have hsame := (respaced_iff_tokenize "e -x y" "e-\u3000x\u00a0\ty").2.1 hrespaced
  exact ⟨hrespaced, hsame.symm.trans hfault⟩

end Spacing

end Reckoner
