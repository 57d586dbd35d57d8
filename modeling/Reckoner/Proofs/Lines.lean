import Mathlib.Data.List.TakeWhile
import Reckoner.Proofs.Loading
/-!
# Lines of a text

A line of a text holds nothing that ends a line (`unbroken_of_mem_lines`),
and neither does the expression of a request. The other way round, lines
that are written one after the other, each with a newline, are the lines
of what is written (`lines_flatMap`). The first line of a text goes up to
the first character that ends one (`lines_eq_cons`), so a text is a single
request just where it is blank from there on (`exists_request_of_singleLine`,
`singleLine_of_mem`).
-/

namespace Reckoner

namespace Text

/-- **The lines of a text** as they are read from a file, whichever way
they end. -/
def lines (cs : List Char) : List (List Char) :=
  splitLines (unifyNewlines cs)

/-- A character that ends a line: a line break, or a carriage return,
which is brought to one. -/
def endsLine (c : Char) : Bool :=
  isLineBreak c || c = '\r'

/-- **Text in one line:** nothing in it ends a line. -/
def Unbroken (cs : List Char) : Prop :=
  ∀ c ∈ cs, endsLine c = false

variable {cs ds line : List Char} {c : Char}

theorem endsLine_eq_false_iff : endsLine c = false ↔ isLineBreak c = false ∧ c ≠ '\r' := by
  simp [endsLine]

/-- What ends a line is a blank. -/
theorem isBlank_of_endsLine (h : endsLine c = true) : isBlank c = true := by
  rcases Bool.or_eq_true_iff.1 h with hbreak | hreturn
  · exact isBlank_of_isLineBreak hbreak
  · rw [of_decide_eq_true hreturn]
    decide

theorem Unbroken.append (h : Unbroken cs) (h' : Unbroken ds) : Unbroken (cs ++ ds) :=
  List.forall_mem_append.2 ⟨h, h'⟩

theorem Unbroken.of_subset (h : Unbroken cs) (hsub : ds ⊆ cs) : Unbroken ds :=
  fun c hc => h c (hsub hc)

theorem Unbroken.return_notMem (h : Unbroken cs) : '\r' ∉ cs := by
  intro hmem
  cases h _ hmem

/-! ## Newlines -/

/-- Unified newlines are line feeds, and the rest of a text stays. -/
theorem mem_unifyNewlines (h : c ∈ unifyNewlines cs) : c ≠ '\r' ∧ (c = '\n' ∨ c ∈ cs) := by
  fun_induction unifyNewlines cs with
  | case1 => exact absurd h List.not_mem_nil
  | case2 cs ih =>
    rcases List.mem_cons.1 h with rfl | h
    · exact ⟨by decide, Or.inl rfl⟩
    · have ⟨hne, hmem⟩ := ih h
      exact ⟨hne, hmem.imp_right fun hc => by simp [hc]⟩
  | case3 cs _ ih =>
    rcases List.mem_cons.1 h with rfl | h
    · exact ⟨by decide, Or.inl rfl⟩
    · have ⟨hne, hmem⟩ := ih h
      exact ⟨hne, hmem.imp_right (List.mem_cons_of_mem _)⟩
  | case4 d cs _ hreturn ih =>
    rcases List.mem_cons.1 h with rfl | h
    · exact ⟨hreturn, Or.inr List.mem_cons_self⟩
    · have ⟨hne, hmem⟩ := ih h
      exact ⟨hne, hmem.imp_right (List.mem_cons_of_mem _)⟩

/-- A character that is no carriage return stays in its place. -/
theorem unifyNewlines_cons (h : c ≠ '\r') (cs : List Char) :
    unifyNewlines (c :: cs) = c :: unifyNewlines cs := by
  rw [unifyNewlines]
  · exact fun _ hreturn => absurd hreturn h
  · exact h

/-- A carriage return that no line feed follows is brought to one. -/
theorem unifyNewlines_return (h : ∀ c ∈ cs.head?, c ≠ '\n') :
    unifyNewlines ('\r' :: cs) = '\n' :: unifyNewlines cs := by
  rw [unifyNewlines]
  rintro rest rfl
  exact h '\n' rfl rfl

/-- A text without carriage returns is left as it is, whatever follows. -/
theorem unifyNewlines_append (h : '\r' ∉ cs) (rest : List Char) :
    unifyNewlines (cs ++ rest) = cs ++ unifyNewlines rest := by
  induction cs with
  | nil => rfl
  | cons c cs ih =>
    obtain ⟨hc, hcs⟩ := not_or.1 (mt List.mem_cons.2 h)
    rw [List.cons_append, unifyNewlines_cons (Ne.symm hc), ih hcs, List.cons_append]

theorem unifyNewlines_eq_self (h : '\r' ∉ cs) : unifyNewlines cs = cs := by
  have happend := unifyNewlines_append h []
  simpa [unifyNewlines] using happend

/-! ## Cutting a text -/

/-- What stands in a line stands in the text, and is no line break. -/
theorem mem_of_mem_splitLines (hline : line ∈ splitLines cs) (hc : c ∈ line) :
    c ∈ cs ∧ isLineBreak c = false := by
  fun_induction splitLines cs generalizing line with
  | case1 => exact absurd hline List.not_mem_nil
  | case2 d cs hbreak ih =>
    rcases List.mem_cons.1 hline with rfl | hline
    · exact absurd hc List.not_mem_nil
    · exact (ih hline hc).imp_left (List.mem_cons_of_mem _)
  | case3 d cs hbreak hsplit ih =>
    rw [List.mem_singleton.1 hline, List.mem_singleton] at hc
    rw [hc]
    exact ⟨List.mem_cons_self, Bool.eq_false_iff.2 hbreak⟩
  | case4 d cs hbreak first rest hsplit ih =>
    rw [hsplit] at ih
    rcases List.mem_cons.1 hline with rfl | hline
    · rcases List.mem_cons.1 hc with rfl | hc
      · exact ⟨List.mem_cons_self, Bool.eq_false_iff.2 hbreak⟩
      · exact (ih List.mem_cons_self hc).imp_left (List.mem_cons_of_mem _)
    · exact (ih (List.mem_cons_of_mem _ hline) hc).imp_left (List.mem_cons_of_mem _)

/-- **A line is in one line.** -/
theorem unbroken_of_mem_lines (h : line ∈ lines cs) : Unbroken line := by
  intro c hc
  have ⟨hmem, hbreak⟩ := mem_of_mem_splitLines h hc
  exact endsLine_eq_false_iff.2 ⟨hbreak, (mem_unifyNewlines hmem).1⟩

/-- A line ends where a break follows it. -/
theorem splitLines_append_break (h : Unbroken line) (hc : isLineBreak c = true)
    (rest : List Char) : splitLines (line ++ c :: rest) = line :: splitLines rest := by
  induction line with
  | nil => rw [List.nil_append, splitLines, if_pos hc]
  | cons d line ih =>
    obtain ⟨hd, hline⟩ := List.forall_mem_cons.1 h
    have hd' : isLineBreak d = false := (endsLine_eq_false_iff.1 hd).1
    rw [List.cons_append, splitLines, if_neg (by simp [hd']), ih hline]

/-- Text in one line is a line. -/
theorem splitLines_of_unbroken (h : Unbroken line) (hne : line ≠ []) :
    splitLines line = [line] := by
  induction line with
  | nil => exact absurd rfl hne
  | cons d line ih =>
    obtain ⟨hd, hline⟩ := List.forall_mem_cons.1 h
    have hd' : isLineBreak d = false := (endsLine_eq_false_iff.1 hd).1
    rw [splitLines, if_neg (by simp [hd'])]
    cases line with
    | nil => rfl
    | cons e line => rw [ih hline (List.cons_ne_nil _ _)]

/-- **Lines that are written read back:** each with a newline behind it,
they are the lines of what is written. -/
theorem lines_flatMap {written : List (List Char)} (h : ∀ line ∈ written, Unbroken line) :
    lines (written.flatMap (· ++ ['\n'])) = written := by
  have hreturn : '\r' ∉ written.flatMap (· ++ ['\n']) := by
    intro hmem
    obtain ⟨line, hline, hc⟩ := List.mem_flatMap.1 hmem
    rcases List.mem_append.1 hc with hc | hc
    · exact (h line hline).return_notMem hc
    · exact absurd hc (by decide)
  rw [lines, unifyNewlines_eq_self hreturn]
  clear hreturn
  induction written with
  | nil => rfl
  | cons line rest ih =>
    obtain ⟨hline, hrest⟩ := List.forall_mem_cons.1 h
    rw [List.flatMap_cons, List.append_assoc, List.singleton_append,
      splitLines_append_break hline (by decide), ih hrest]

/-! ## The first line -/

/-- What ends a line is a break once newlines are unified. -/
theorem exists_break_unifyNewlines (h : endsLine c = true) (cs : List Char) :
    ∃ d rest, unifyNewlines (c :: cs) = d :: rest ∧ isLineBreak d = true := by
  by_cases hc : c = '\r'
  · subst hc
    by_cases hnewline : ∃ rest, cs = '\n' :: rest
    · obtain ⟨rest, rfl⟩ := hnewline
      exact ⟨'\n', _, rfl, by decide⟩
    · refine ⟨'\n', unifyNewlines cs, unifyNewlines_return ?_, by decide⟩
      rintro d hd rfl
      exact hnewline (List.head?_eq_some_iff.1 hd)
  · have hbreak : isLineBreak c = true := by simpa [endsLine, hc] using h
    exact ⟨c, unifyNewlines cs, unifyNewlines_cons hc cs, hbreak⟩

/-- What is behind the first line begins with what ends it. -/
theorem endsLine_of_dropWhile (h : cs.dropWhile (!endsLine ·) = c :: ds) : endsLine c = true := by
  have hhead := List.head?_dropWhile_not (!endsLine ·) cs
  rw [h] at hhead
  simpa using hhead

/-- **The first line of a text** goes up to what ends it, and the other
lines are behind that. -/
theorem lines_eq_cons (hne : cs ≠ []) :
    ∃ rest, lines cs = cs.takeWhile (!endsLine ·) :: rest ∧
      ∀ line ∈ rest, line ⊆ cs.dropWhile (!endsLine ·) := by
  have hfirst : Unbroken (cs.takeWhile (!endsLine ·)) := by
    intro c hc
    simpa using List.mem_takeWhile_imp hc
  have hsplit : cs = cs.takeWhile (!endsLine ·) ++ cs.dropWhile (!endsLine ·) :=
    List.takeWhile_append_dropWhile.symm
  have hlines : lines cs = splitLines (cs.takeWhile (!endsLine ·) ++
      unifyNewlines (cs.dropWhile (!endsLine ·))) := by
    rw [lines, ← unifyNewlines_append hfirst.return_notMem, ← hsplit]
  cases hdrop : cs.dropWhile (!endsLine ·) with
  | nil =>
    rw [hdrop, List.append_nil] at hsplit
    rw [hdrop, unifyNewlines, List.append_nil, ← hsplit] at hlines
    rw [← hsplit] at hfirst
    refine ⟨[], ?_, fun _ hline => absurd hline List.not_mem_nil⟩
    rw [hlines, ← hsplit, splitLines_of_unbroken hfirst hne]
  | cons c behind =>
    have hc : endsLine c = true := endsLine_of_dropWhile hdrop
    obtain ⟨d, rest, hunify, hbreak⟩ := exists_break_unifyNewlines hc behind
    rw [hdrop, hunify, splitLines_append_break hfirst hbreak] at hlines
    refine ⟨splitLines rest, hlines, fun line hline e he => ?_⟩
    -- a newline that was brought in is in no line
    have ⟨hmem, hstays⟩ := mem_of_mem_splitLines hline he
    have hmem' : e ∈ unifyNewlines (c :: behind) := hunify ▸ List.mem_cons_of_mem _ hmem
    refine (mem_unifyNewlines hmem').2.resolve_left ?_
    rintro rfl
    cases hstays

/-! ## Stripping -/

/-- Stripping leaves nothing that was not there. -/
theorem mem_of_mem_strip (h : c ∈ strip cs) : c ∈ cs := by
  have hdrop := (List.dropWhile_suffix _).subset (List.mem_reverse.1 h)
  exact (List.dropWhile_suffix _).subset (List.mem_reverse.1 hdrop)

/-- Blanks at the end are stripped. -/
theorem strip_append_of_isBlankText (h : isBlankText ds = true) (cs : List Char) :
    strip (cs ++ ds) = strip cs := by
  have hblank : ∀ c ∈ ds, isBlank c = true := by simpa [isBlankText] using h
  rw [strip, strip, trim, trim, List.dropWhile_append]
  split
  · rename_i hempty
    rw [List.isEmpty_iff.1 hempty, dropWhile_eq_nil_iff.2 hblank]
  · rw [List.reverse_append, List.dropWhile_append_of_pos]
    exact fun c hc => hblank c (List.mem_reverse.1 hc)

/-- What stands between two characters that are no blanks is not
stripped. -/
theorem mem_strip_of_between (hcs : isBlankText cs = false) (hds : isBlankText ds = false) :
    c ∈ strip (cs ++ c :: ds) := by
  have hkeeps : ∀ ds, isBlankText ds = false → (ds.dropWhile isBlank).isEmpty = false := by
    intro ds hds
    by_contra hempty
    have hnil : ds.dropWhile isBlank = [] := by simpa using hempty
    rw [isBlankText, List.all_eq_true.2 (dropWhile_eq_nil_iff.1 hnil)] at hds
    cases hds
  have hreverse : isBlankText ds.reverse = false := by
    rw [isBlankText, List.all_reverse]
    exact hds
  rw [strip, trim, List.dropWhile_append, hkeeps cs hcs, if_neg Bool.false_ne_true,
    List.reverse_append, List.reverse_cons, List.append_assoc, List.dropWhile_append,
    hkeeps _ hreverse, if_neg Bool.false_ne_true]
  simp

/-- **A text of a single line:** from what ends its first line on, it is
blank. -/
def SingleLine (cs : List Char) : Prop :=
  isBlankText (cs.dropWhile (!endsLine ·)) = true

end Text

open Text

/-! ## Requests -/

/-- The request of a line is that line stripped, under the next number. -/
theorem Request.ofLine?_eq_some {line : List Char} {before : Nat} {r : Request}
    (h : Request.ofLine? line before = some r) :
    r.expression.toList = strip line ∧ r.lineNumber.val = before + 1 := by
  rw [ofLine?] at h
  split at h
  · cases h
    exact ⟨String.toList_ofList, rfl⟩
  · cases h

namespace Operations

/-- A request comes from a line of the text. -/
theorem exists_line_of_mem {cs : List Char} {r : Request} (h : r ∈ ofText cs) :
    ∃ line, (lines cs)[r.lineNumber.val - 1]? = some line ∧ r.expression.toList = strip line := by
  obtain ⟨⟨line, before⟩, hmem, hr⟩ := List.mem_filterMap.1 h
  obtain ⟨hexpression, hnumber⟩ := Request.ofLine?_eq_some hr
  refine ⟨line, ?_, hexpression⟩
  rw [hnumber, Nat.add_sub_cancel]
  exact List.mem_zipIdx_iff_getElem?.1 hmem

/-- **An expression is in one line.** -/
theorem unbroken_of_mem {cs : List Char} {r : Request} (h : r ∈ ofText cs) :
    Unbroken r.expression.toList := by
  obtain ⟨line, hline, hexpression⟩ := exists_line_of_mem h
  rw [hexpression]
  have hunbroken := unbroken_of_mem_lines (List.mem_of_getElem? hline)
  exact hunbroken.of_subset fun _ hc => mem_of_mem_strip hc

section SingleLine

variable {cs : List Char}

/-- A text of a single line is its first line, as far as that is not
stripped. -/
theorem strip_firstLine (h : SingleLine cs) :
    strip (cs.takeWhile (!endsLine ·)) = strip cs := by
  rw [← strip_append_of_isBlankText h, List.takeWhile_append_dropWhile]

/-- **A text of a single line is read as a single request,** itself
stripped. -/
theorem exists_request_of_singleLine (h : SingleLine cs) (hblank : isBlankText cs = false) :
    ∃ r, ofText cs = [r] ∧ r.lineNumber = .first ∧ r.expression.toList = strip cs := by
  have hne : cs ≠ [] := by
    rintro rfl
    cases hblank
  obtain ⟨rest, hlines, hrest⟩ := lines_eq_cons hne
  have hfirst : isBlankText (cs.takeWhile (!endsLine ·)) = false := by
    rw [← isBlankText_strip, strip_firstLine h, isBlankText_strip]
    exact hblank
  have hsome : ∃ r, Request.ofLine? (cs.takeWhile (!endsLine ·)) 0 = some r := by
    rw [Request.ofLine?, dif_pos hfirst]
    exact ⟨_, rfl⟩
  have hnone : (rest.zipIdx 1).filterMap (fun e => Request.ofLine? e.1 e.2) = [] := by
    rw [List.filterMap_eq_nil_iff]
    rintro ⟨line, before⟩ hmem
    have hbehind := List.all_eq_true.1 h
    have hline : isBlankText line = true := List.all_eq_true.2 fun c hc =>
      hbehind c (hrest line (List.fst_mem_of_mem_zipIdx hmem) hc)
    simp [Request.ofLine?, hline]
  obtain ⟨r, hr⟩ := hsome
  obtain ⟨hexpression, hnumber⟩ := Request.ofLine?_eq_some hr
  refine ⟨r, ?_, Subtype.ext hnumber, hexpression.trans (strip_firstLine h)⟩
  change (lines cs).zipIdx.filterMap (fun e => Request.ofLine? e.1 e.2) = _
  rw [hlines, List.zipIdx_cons, List.filterMap_cons]
  simp only [hr, hnone]

/-- **And no other text is:** what ends its first line would stand inside
the expression. -/
theorem singleLine_of_mem {r : Request} (h : r ∈ ofText cs) (hnumber : r.lineNumber = .first)
    (hexpression : r.expression.toList = strip cs) : SingleLine cs := by
  have hne : cs ≠ [] := by
    rintro rfl
    cases h
  obtain ⟨rest, hlines, -⟩ := lines_eq_cons hne
  obtain ⟨line, hline, hstrip⟩ := exists_line_of_mem h
  rw [hnumber, hlines] at hline
  obtain rfl : cs.takeWhile (!endsLine ·) = line := Option.some.inj hline
  have hfirst : isBlankText (cs.takeWhile (!endsLine ·)) = false := by
    rw [← isBlankText_strip, ← hstrip]
    exact r.not_blank
  have hsplit : cs.takeWhile (!endsLine ·) ++ cs.dropWhile (!endsLine ·) = cs :=
    List.takeWhile_append_dropWhile
  rw [SingleLine]
  cases hdrop : cs.dropWhile (!endsLine ·) with
  | nil => rfl
  | cons c behind =>
    have hc : endsLine c = true := endsLine_of_dropWhile hdrop
    rw [isBlankText, List.all_cons, isBlank_of_endsLine hc, Bool.true_and]
    by_contra hbehind
    -- on both sides there is more than blanks, so stripping keeps it
    have hinside : c ∈ strip cs := by
      rw [← hsplit, hdrop]
      exact mem_strip_of_between hfirst (Bool.eq_false_iff.2 hbehind)
    rw [unbroken_of_mem h c (hexpression ▸ hinside)] at hc
    cases hc

end SingleLine

/-- What is loaded is the requests of some text. -/
theorem exists_text_of_load {host : Host} {folder : Folder} {input : Path} {log : Log}
    {requests : List Request} (h : load host folder input = (log, .ok requests)) :
    ∃ cs, requests = ofText cs := by
  obtain ⟨bytes, hbytes⟩ := exists_bytes_of_load (congrArg Prod.snd h)
  rw [ofBytes] at hbytes
  split at hbytes
  · cases hbytes
    exact ⟨_, rfl⟩
  · cases hbytes

end Operations

end Reckoner
