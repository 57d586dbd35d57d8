import Mathlib.Data.List.Range
import Reckoner.Catalogue
import Reckoner.Proofs.Encoding
import Reckoner.Proofs.Lines
/-!
# The numbers of lines

A text file is loaded as its lines that are not blank, each stripped and
under its own number (`Operations.numbers_ofText`). What is loaded does not
depend on how the lines end, nor on blanks behind the text: the first is
settled when newlines are unified (`unifyNewlines_withReturnFeeds`,
`unifyNewlines_withReturns`), and the second adds blanks to the last line
and blank lines behind it (`trailed_lines`).
-/

namespace Reckoner

namespace Text

variable {cs ds : List Char} {c : Char}

/-! ## Other newlines -/

/-- A text with a carriage return put in front of each line feed. -/
def withReturnFeeds (cs : List Char) : List Char :=
  cs.flatMap fun c => if c = '\n' then ['\r', '\n'] else [c]

/-- A text with a carriage return in the place of each line feed. -/
def withReturns (cs : List Char) : List Char :=
  cs.map fun c => if c = '\n' then '\r' else c

/-- **Return and feed** make one newline. -/
theorem unifyNewlines_withReturnFeeds (h : '\r' ∉ cs) :
    unifyNewlines (withReturnFeeds cs) = cs := by
  induction cs with
  | nil => rfl
  | cons c cs ih =>
    obtain ⟨hc, hcs⟩ := not_or.1 (mt List.mem_cons.2 h)
    rw [withReturnFeeds, List.flatMap_cons]
    by_cases hfeed : c = '\n'
    · rw [if_pos hfeed, hfeed]
      exact congrArg ('\n' :: ·) (ih hcs)
    · rw [if_neg hfeed]
      exact (unifyNewlines_cons (Ne.symm hc) _).trans (congrArg (c :: ·) (ih hcs))

/-- **And so does a return alone.** -/
theorem unifyNewlines_withReturns (h : '\r' ∉ cs) : unifyNewlines (withReturns cs) = cs := by
  induction cs with
  | nil => rfl
  | cons c cs ih =>
    obtain ⟨hc, hcs⟩ := not_or.1 (mt List.mem_cons.2 h)
    rw [withReturns, List.map_cons]
    by_cases hfeed : c = '\n'
    · -- every line feed is gone, so none follows the return
      have hnext : ∀ d ∈ (withReturns cs).head?, d ≠ '\n' := by
        intro d hd
        obtain ⟨e, -, rfl⟩ := List.mem_map.1 (List.mem_of_mem_head? hd)
        split
        · decide
        · assumption
      rw [if_pos hfeed, hfeed]
      exact (unifyNewlines_return hnext).trans (congrArg ('\n' :: ·) (ih hcs))
    · rw [if_neg hfeed]
      exact (unifyNewlines_cons (Ne.symm hc) _).trans (congrArg (c :: ·) (ih hcs))

/-! ## Blanks behind a text -/

/-- Blanks stay blanks when newlines are unified. -/
theorem isBlankText_unifyNewlines (h : isBlankText ds = true) :
    isBlankText (unifyNewlines ds) = true := by
  rw [isBlankText, List.all_eq_true] at h ⊢
  intro c hc
  rcases (mem_unifyNewlines hc).2 with rfl | hmem
  · decide
  · exact h c hmem

/-- **Blanks behind a text** are blanks behind it when newlines are
unified. -/
theorem exists_unifyNewlines_append (h : isBlankText ds = true) (cs : List Char) :
    ∃ ds', isBlankText ds' = true ∧ unifyNewlines (cs ++ ds) = unifyNewlines cs ++ ds' := by
  fun_induction unifyNewlines cs with
  | case1 => exact ⟨unifyNewlines ds, isBlankText_unifyNewlines h, rfl⟩
  | case2 cs ih =>
    obtain ⟨ds', hds', heq⟩ := ih
    exact ⟨ds', hds', congrArg ('\n' :: ·) heq⟩
  | case3 cs hnext ih =>
    by_cases hends : cs = [] ∧ ∃ rest, ds = '\n' :: rest
    · -- the return at the end and the feed behind it make one newline
      obtain ⟨rfl, rest, rfl⟩ := hends
      rw [isBlankText, List.all_cons, Bool.and_eq_true] at h
      exact ⟨unifyNewlines rest, isBlankText_unifyNewlines h.2, rfl⟩
    · obtain ⟨ds', hds', heq⟩ := ih
      refine ⟨ds', hds', ?_⟩
      rw [List.cons_append, unifyNewlines_return, heq]
      · rfl
      · rintro c hc rfl
        cases cs with
        | nil =>
          obtain ⟨rest, hrest⟩ := List.head?_eq_some_iff.1 hc
          exact hends ⟨rfl, rest, hrest⟩
        | cons d cs => exact hnext cs (congrArg (· :: cs) (Option.some.inj hc))
  | case4 c cs _ hreturn ih =>
    obtain ⟨ds', hds', heq⟩ := ih
    refine ⟨ds', hds', ?_⟩
    rw [List.cons_append, unifyNewlines_cons hreturn, heq]
    rfl

/-- **Lines with blanks behind:** any of them may have blanks added, and
blank lines may follow. -/
inductive Trailed : List (List Char) → List (List Char) → Prop
  | nil {lines : List (List Char)} (h : ∀ line ∈ lines, isBlankText line = true) :
    Trailed [] lines
  | cons (line blanks : List Char) {rest rest' : List (List Char)}
    (hblanks : isBlankText blanks = true) (hrest : Trailed rest rest') :
    Trailed (line :: rest) ((line ++ blanks) :: rest')

/-- **Blanks behind a text** are behind its lines. -/
theorem trailed_splitLines (h : isBlankText ds = true) (cs : List Char) :
    Trailed (splitLines cs) (splitLines (cs ++ ds)) := by
  have hblank : ∀ line ∈ splitLines ds, isBlankText line = true := fun line hline =>
    List.all_eq_true.2 fun c hc => List.all_eq_true.1 h c (mem_of_mem_splitLines hline hc).1
  fun_induction splitLines cs with
  | case1 => exact .nil hblank
  | case2 c cs hbreak ih =>
    rw [List.cons_append, splitLines, if_pos hbreak]
    exact .cons [] [] rfl ih
  | case3 c cs hbreak hsplit ih =>
    rw [hsplit] at ih
    rw [List.cons_append, splitLines, if_neg hbreak]
    cases ih with
    | nil hlines =>
      -- the blanks go on with the line that `c` is
      cases hds : splitLines (cs ++ ds) with
      | nil => exact .cons [c] [] rfl (.nil fun _ hline => absurd hline List.not_mem_nil)
      | cons line rest =>
        rw [hds] at hlines
        obtain ⟨hline, hrest⟩ := List.forall_mem_cons.1 hlines
        exact .cons [c] line hline (.nil hrest)
  | case4 c cs hbreak line rest hsplit ih =>
    rw [hsplit] at ih
    rw [List.cons_append, splitLines, if_neg hbreak]
    cases hds : splitLines (cs ++ ds) with
    | nil =>
      rw [hds] at ih
      cases ih
    | cons line' rest' =>
      rw [hds] at ih
      cases ih with
      | cons _ blanks hblanks hrest => exact .cons (c :: line) blanks hblanks hrest

/-- **What is behind the lines of a text,** however they end. -/
theorem trailed_lines (h : isBlankText ds = true) (cs : List Char) :
    Trailed (lines cs) (lines (cs ++ ds)) := by
  obtain ⟨ds', hds', heq⟩ := exists_unifyNewlines_append h cs
  rw [lines, lines, heq]
  exact trailed_splitLines hds' (unifyNewlines cs)

/-! ## Stripped text -/

/-- What is stripped begins with no blank. -/
theorem isBlank_of_mem_head?_strip (h : c ∈ (strip cs).head?) : isBlank c = false := by
  obtain ⟨rest, hrest⟩ := List.head?_eq_some_iff.1 h
  -- what was taken off the end is behind this beginning
  obtain ⟨last, hlast⟩ : strip cs <+: cs.dropWhile isBlank := by
    rw [← List.reverse_suffix, strip, trim, List.reverse_reverse]
    exact List.dropWhile_suffix isBlank
  have hhead := List.head?_dropWhile_not isBlank cs
  rw [← hlast, hrest] at hhead
  simpa using hhead

/-- And ends with none. -/
theorem isBlank_of_mem_getLast?_strip (h : c ∈ (strip cs).getLast?) : isBlank c = false := by
  rw [strip, trim, List.getLast?_reverse] at h
  have hhead := List.head?_dropWhile_not isBlank (cs.dropWhile isBlank).reverse
  rw [Option.mem_def.1 h] at hhead
  simpa using hhead

end Text

open Text

/-! ## Requests -/

/-- A request is made of what a line strips to. -/
theorem Request.ofLine?_congr {line line' : List Char} (h : strip line = strip line')
    (before : Nat) : ofLine? line before = ofLine? line' before := by
  have hblank : isBlankText line = isBlankText line' := by
    rw [← isBlankText_strip line, h, isBlankText_strip]
  by_cases hline : isBlankText line = false
  · have hline' : isBlankText line' = false := hblank ▸ hline
    simp only [ofLine?, dif_pos hline, dif_pos hline', h]
  · have hline' : ¬ isBlankText line' = false := hblank ▸ hline
    rw [ofLine?, ofLine?, dif_neg hline, dif_neg hline']

/-- A blank line is no request. -/
theorem Request.ofLine?_eq_none_iff {line : List Char} {before : Nat} :
    ofLine? line before = none ↔ isBlankText line = true := by
  rw [ofLine?]
  split <;> simp_all

namespace Operations

variable {cs ds : List Char}

/-- The requests of lines that follow as many others. -/
def ofLines (before : Nat) (lines : List (List Char)) : List Request :=
  (lines.zipIdx before).filterMap fun (line, before) => Request.ofLine? line before

theorem ofText_eq (cs : List Char) : ofText cs = ofLines 0 (lines cs) := rfl

/-- **Blanks behind lines** make no request, and no other. -/
theorem ofLines_of_trailed {all all' : List (List Char)} (h : Trailed all all') (before : Nat) :
    ofLines before all' = ofLines before all := by
  induction h generalizing before with
  | nil hlines =>
    refine List.filterMap_eq_nil_iff.2 ?_
    rintro ⟨line, n⟩ hmem
    exact Request.ofLine?_eq_none_iff.2 (hlines line (List.fst_mem_of_mem_zipIdx hmem))
  | @cons line blanks rest rest' hblanks hrest ih =>
    have hstrip := strip_append_of_isBlankText hblanks line
    have hrest := ih (before + 1)
    rw [ofLines] at hrest ⊢
    rw [ofLines, List.zipIdx_cons, List.zipIdx_cons, List.filterMap_cons, List.filterMap_cons,
      hrest]
    simp only [Request.ofLine?_congr hstrip]
    rfl

/-- **Blanks behind a text** change nothing of its requests. -/
theorem ofText_append_of_isBlankText (h : isBlankText ds = true) (cs : List Char) :
    ofText (cs ++ ds) = ofText cs := by
  rw [ofText_eq, ofText_eq]
  exact ofLines_of_trailed (trailed_lines h cs) 0

/-- A text of the same lines has the same requests. -/
theorem ofText_congr (h : unifyNewlines ds = unifyNewlines cs) : ofText ds = ofText cs := by
  rw [ofText, ofText, h]

/-! ## Numbers -/

/-- **The lines that are not blank, under their numbers:** each request is
the line of its number, stripped, the numbers increase, and a line whose
number no request has is blank. -/
structure Numbers (all : List (List Char)) (requests : List Request) : Prop where
  increasing : requests.Pairwise fun r s => r.lineNumber.val < s.lineNumber.val
  line_of_mem : ∀ r ∈ requests, 1 ≤ r.lineNumber.val ∧
    ∃ line, all[r.lineNumber.val - 1]? = some line ∧ r.expression.toList = strip line
  stripped_of_mem : ∀ r ∈ requests, r.expression.toList ≠ [] ∧
    (∀ c ∈ r.expression.toList.head?, isBlank c = false) ∧
    (∀ c ∈ r.expression.toList.getLast?, isBlank c = false) ∧
    Unbroken r.expression.toList
  blank_of_unlisted : ∀ n line, all[n]? = some line →
    (∀ r ∈ requests, r.lineNumber.val ≠ n + 1) → isBlankText line = true

/-- **The requests of a text** are its lines that are not blank. -/
theorem numbers_ofText (cs : List Char) : Numbers (lines cs) (ofText cs) where
  increasing := by
    have hindex : (lines cs).zipIdx.Pairwise fun e e' => e.2 < e'.2 := by
      rw [← List.pairwise_map (f := Prod.snd) (R := (· < ·)), List.zipIdx_map_snd]
      exact List.pairwise_lt_range'
    refine List.Pairwise.filterMap _ ?_ hindex
    intro e e' hlt r hr s hs
    rw [(Request.ofLine?_eq_some hr).2, (Request.ofLine?_eq_some hs).2]
    exact Nat.succ_lt_succ hlt
  line_of_mem r hr := ⟨r.lineNumber.property, exists_line_of_mem hr⟩
  stripped_of_mem r hr := by
    obtain ⟨line, -, hexpression⟩ := exists_line_of_mem hr
    refine ⟨?_, ?_, ?_, unbroken_of_mem hr⟩
    · intro hnil
      have hblank := r.not_blank
      rw [hnil] at hblank
      cases hblank
    · rw [hexpression]
      exact fun c hc => isBlank_of_mem_head?_strip hc
    · rw [hexpression]
      exact fun c hc => isBlank_of_mem_getLast?_strip hc
  blank_of_unlisted n line hline hnone := by
    by_contra hblank
    obtain ⟨r, hr⟩ : ∃ r, Request.ofLine? line n = some r :=
      Option.ne_none_iff_exists'.1 (mt Request.ofLine?_eq_none_iff.1 hblank)
    have hmem : r ∈ ofText cs :=
      List.mem_filterMap.2 ⟨(line, n), List.mem_zipIdx_iff_getElem?.2 hline, hr⟩
    exact hnone r hmem (Request.ofLine?_eq_some hr).2

/-! ## Loading -/

/-- **A text file:** its name is that of one, and what is read of it is the
text in UTF-8. -/
structure HoldsText (host : Host) (folder : Folder) (input : Path) (cs : List Char) : Prop where
  isText_name : isText input.name = true
  bytes : ∃ bytes, host.read folder input = .ok bytes ∧ Utf8.decode bytes = .ok cs

variable {host : Host} {folder : Folder} {input : Path}

/-- It is loaded as the requests of its text. -/
theorem HoldsText.load_eq (h : HoldsText host folder input cs) :
    load host folder input = ([], .ok (ofText cs)) := by
  obtain ⟨bytes, hread, hdecode⟩ := h.bytes
  rw [load_of_file h.isText_name hread, ofBytes, hdecode]

/-- **A text with the same lines but for blanks at the end:** its newlines
are written otherwise, or blanks are put behind it. -/
inductive Rewritten (cs : List Char) : List Char → Prop
  /-- Each line feed has a carriage return in front. -/
  | returnFeeds (h : '\r' ∉ cs) : Rewritten cs (withReturnFeeds cs)
  /-- Carriage returns take the place of line feeds. -/
  | returns (h : '\r' ∉ cs) : Rewritten cs (withReturns cs)
  /-- Blank lines are added, or other blanks. -/
  | blanks {blanks : List Char} (h : isBlankText blanks = true) : Rewritten cs (cs ++ blanks)

/-- It has the same requests. -/
theorem Rewritten.ofText_eq (h : Rewritten cs ds) : ofText ds = ofText cs := by
  cases h with
  | returnFeeds h =>
    exact ofText_congr ((unifyNewlines_withReturnFeeds h).trans (unifyNewlines_eq_self h).symm)
  | returns h =>
    exact ofText_congr ((unifyNewlines_withReturns h).trans (unifyNewlines_eq_self h).symm)
  | blanks h => exact ofText_append_of_isBlankText h cs

/-- **A text file is loaded as its lines that are not blank, under their own
numbers,** and so is any other that holds the same text with its newlines
written otherwise or with blanks behind it. -/
theorem load_numbers_lines (h : HoldsText host folder input cs) :
    ∃ requests, load host folder input = ([], .ok requests) ∧
      Numbers (lines cs) requests ∧
      ∀ ds, Rewritten cs ds → ∀ host' folder' input', HoldsText host' folder' input' ds →
        load host' folder' input' = ([], .ok requests) := by
  refine ⟨ofText cs, h.load_eq, numbers_ofText cs, ?_⟩
  intro ds hrewritten host' folder' input' h'
  rw [h'.load_eq, hrewritten.ofText_eq]

/-- A file with an empty line in front and a blank one between its two
expressions, which are numbered two and four, with returns for feeds as
well. -/
theorem load_numbers_lines_gap :
    let cs := "\n  1\n\t\n2 ".toList
    let host : Host := .ofCatalogue (fun _ _ => none) []
    let folder : Folder := ⟨[(["a.txt".toList], .file (Utf8.encode cs)),
      (["b.txt".toList], .file (Utf8.encode (withReturns cs)))], []⟩
    ∃ requests, Numbers (lines cs) requests ∧
      requests.map (fun r => (r.lineNumber.val, r.expression)) = [(2, "1"), (4, "2")] ∧
      load host folder (.ofChars "a.txt".toList) = ([], .ok requests) ∧
      load host folder (.ofChars "b.txt".toList) = ([], .ok requests) := by
  intro cs host folder
  have hholds : HoldsText host folder (.ofChars "a.txt".toList) cs :=
    ⟨rfl, _, rfl, Utf8.decode_encode cs⟩
  have hreturns : HoldsText host folder (.ofChars "b.txt".toList) (withReturns cs) :=
    ⟨rfl, _, rfl, Utf8.decode_encode _⟩
  obtain ⟨requests, hload, hnumbers, hrewritten⟩ := load_numbers_lines hholds
  have hofText : requests = ofText cs := by
    have heq := hholds.load_eq.symm.trans hload
    exact (Except.ok.inj (congrArg Prod.snd heq)).symm
  refine ⟨requests, hnumbers, ?_, hload, hrewritten _ (.returns (by decide)) _ _ _ hreturns⟩
  rw [hofText]
  rfl

end Operations

end Reckoner
