import Reckoner.Proofs.Messages
import Reckoner.Proofs.Writing
/-!
# Reading results back

The results file says which line failed and what came of it, though an
expression stands in it as it was read: its lines are the lines of the
results, and one function reads them all (`Batch.results_read_back`). The
mark of an error may be part of the expression, but not of what stands
behind it, since a message has no arrow; so the last mark is the one that
was written (`readLine_error`). The line of a value has one equals sign
and no arrow (`readLine_value`).
-/

namespace Reckoner

/-! ## Splitting at the last mark -/

/-- **Splits a text at the last place where a mark stands,** into what is
before the mark and what is behind it. -/
def splitAtLast? (mark : List Char) : List Char → Option (List Char × List Char)
  | [] => if mark.isEmpty then some ([], []) else none
  | c :: cs =>
    match splitAtLast? mark cs with
    | some (before, behind) => some (c :: before, behind)
    | none =>
      if mark.isPrefixOf (c :: cs) then some ([], (c :: cs).drop mark.length) else none

section SplitAtLast

variable {mark cs behind : List Char}

/-- A text is split where the mark is part of it. -/
theorem splitAtLast?_eq_none_iff : splitAtLast? mark cs = none ↔ ¬ mark <:+: cs := by
  induction cs with
  | nil =>
    cases mark with
    | nil => simp [splitAtLast?]
    | cons c mark => simp [splitAtLast?]
  | cons c cs ih =>
    rw [List.infix_cons_iff, not_or, ← ih, splitAtLast?]
    cases splitAtLast? mark cs with
    | some parts => simp
    | none =>
      rw [← List.isPrefixOf_iff_prefix]
      by_cases hmark : mark.isPrefixOf (c :: cs) = true <;> simp [hmark]

/-- **The last mark** is one after whose beginning no other begins. -/
theorem splitAtLast?_append (hmark : mark ≠ []) (h : ¬ mark <:+: (mark ++ behind).tail)
    (before : List Char) :
    splitAtLast? mark (before ++ (mark ++ behind)) = some (before, behind) := by
  induction before with
  | nil =>
    obtain ⟨c, rest, rfl⟩ := List.exists_cons_of_ne_nil hmark
    have hnone : splitAtLast? (c :: rest) (rest ++ behind) = none :=
      splitAtLast?_eq_none_iff.2 h
    rw [List.nil_append, List.cons_append, splitAtLast?, hnone]
    simp
  | cons c before ih => rw [List.cons_append, splitAtLast?, ih]

end SplitAtLast

/-! ## Reading a line -/

/-- The mark between an expression and its value. -/
def valueMark : List Char := [' ', '=', ' ']

/-- The mark between an expression and the message of its fault. -/
def errorMark : List Char := [' ', '-', '>', ' ', 'E', 'R', 'R', 'O', 'R', ':', ' ']

/-- Whether the mark of an error is in a line. -/
def marksError (line : List Char) : Bool :=
  (splitAtLast? errorMark line).isSome

theorem marksError_iff {line : List Char} : marksError line = true ↔ errorMark <:+: line := by
  rw [marksError, Option.isSome_iff_ne_none, ne_eq, splitAtLast?_eq_none_iff, not_not]

/-- **What a line of the results file says:** the expression, and the
number printed for it or the message. -/
structure Reading where
  expression : List Char
  outcome : Except (List Char) (List Char)

/-- **Reads a line of the results file.** With the mark of an error it is
split at the last one, and else at the mark of a value. -/
def readLine (line : List Char) : Option Reading :=
  match splitAtLast? errorMark line with
  | some (expression, message) => some ⟨expression, .error message⟩
  | none =>
    (splitAtLast? valueMark line).map fun (expression, number) => ⟨expression, .ok number⟩

/-- What there is to read of a result. -/
def Result.reading (r : Result) : Reading where
  expression := r.expression.toList
  outcome :=
    match r.outcome with
    | .ok v => .ok (Number.text v).toList
    | .error message => .error message.toList

section Lines

variable {expression text message : List Char}

/-- No mark of an error begins inside one, where the message has no
arrow. -/
theorem not_errorMark_infix_tail (h : ¬ ['-', '>'] <:+: message) :
    ¬ errorMark <:+: (errorMark ++ message).tail := by
  intro hmark
  -- the arrow of a mark inside can only be in the message
  have harrow : ['-', '>'] <:+: errorMark := ⟨[' '], [' ', 'E', 'R', 'R', 'O', 'R', ':', ' '], rfl⟩
  have hbehind : errorMark <:+:
      ['>', ' ', 'E', 'R', 'R', 'O', 'R', ':', ' '] ++ message := by
    have htail : errorMark <:+:
        '-' :: (['>', ' ', 'E', 'R', 'R', 'O', 'R', ':', ' '] ++ message) := hmark
    rcases List.infix_cons_iff.1 htail with hhead | hinfix
    · exact absurd (List.cons_prefix_cons.1 hhead).1 (by decide)
    · exact hinfix
  have hmessage := harrow.trans hbehind
  simp [List.infix_cons_iff, List.cons_prefix_cons, h] at hmessage

/-- **The line of an error reads back,** whatever the expression. -/
theorem readLine_error (h : ¬ ['-', '>'] <:+: message) :
    readLine (expression ++ (errorMark ++ message)) = some ⟨expression, .error message⟩ := by
  rw [readLine, splitAtLast?_append (by decide) (not_errorMark_infix_tail h)]

/-- No arrow stands in the line of a value. -/
theorem not_errorMark_infix_value (hexpression : '>' ∉ expression) (htext : '>' ∉ text) :
    ¬ errorMark <:+: expression ++ (valueMark ++ text) := by
  intro hmark
  have hmem : '>' ∈ expression ++ (valueMark ++ text) := hmark.subset (by decide)
  rcases List.mem_append.1 hmem with hmem | hmem
  · exact hexpression hmem
  · rcases List.mem_append.1 hmem with hmem | hmem
    · exact absurd hmem (by decide)
    · exact htext hmem

/-- **The line of a value reads back.** -/
theorem readLine_value (hexpression : '>' ∉ expression) (htext : '>' ∉ text ∧ '=' ∉ text) :
    readLine (expression ++ (valueMark ++ text)) = some ⟨expression, .ok text⟩ := by
  have hnone := splitAtLast?_eq_none_iff.2 (not_errorMark_infix_value hexpression htext.1)
  -- the equals sign of another mark would be in the number
  have hlast : ¬ valueMark <:+: (valueMark ++ text).tail := by
    intro hmark
    rcases List.infix_cons_iff.1 hmark with hhead | hinfix
    · exact absurd (List.cons_prefix_cons.1 hhead).1 (by decide)
    · have hmem : '=' ∈ ' ' :: text := hinfix.subset (by decide)
      exact htext.2 ((List.mem_cons.1 hmem).resolve_left (by decide))
  rw [readLine, hnone, splitAtLast?_append (by decide) hlast]
  rfl

/-- And can be split in no other way. -/
theorem eq_of_valueMark (hexpression : '=' ∉ expression) (htext : '=' ∉ text)
    {before behind : List Char}
    (h : expression ++ (valueMark ++ text) = before ++ (valueMark ++ behind)) :
    before = expression ∧ behind = text := by
  have hequals : (expression ++ [' ']) ++ '=' :: ' ' :: text =
      (before ++ [' ']) ++ '=' :: ' ' :: behind := by
    simpa [valueMark] using h
  have hbefore : '=' ∉ expression ++ [' '] := by simpa using hexpression
  have hbehind : '=' ∉ ' ' :: text := by simpa using htext
  obtain ⟨hfront, -, hback⟩ := (List.append_cons_inj_of_notMem hbefore hbehind).1 hequals
  exact ⟨(List.append_cancel_right hfront).symm, (List.cons_inj_right ' ').1 hback.symm⟩

end Lines

/-! ## The lines of results -/

namespace Request

variable (r : Request)

/-- The line of a request that has a value. -/
theorem line_of_ok {v : Float} (h : evaluate r.expression = .ok v) :
    r.result.line.toList = r.expression.toList ++ (valueMark ++ (Number.text v).toList) := by
  have hline : r.result.line = r.expression ++ " = " ++ Number.text v := by
    rw [result_of_ok h]
    rfl
  have hmark : " = ".toList = valueMark := String.toList_ofList
  rw [hline, String.toList_append, String.toList_append, hmark, List.append_assoc]

/-- And of one that has none. -/
theorem line_of_error {fault : Fault} (h : evaluate r.expression = .error fault) :
    r.result.line.toList = r.expression.toList ++ (errorMark ++ fault.message.toList) := by
  have hline : r.result.line = r.expression ++ " -> ERROR: " ++ fault.message := by
    rw [result_of_error h]
    rfl
  have hmark : " -> ERROR: ".toList = errorMark := String.toList_ofList
  rw [hline, String.toList_append, String.toList_append, hmark, List.append_assoc]

/-- **The line of a request is one line,** if its expression is. -/
theorem unbroken_line (h : Text.Unbroken r.expression.toList) :
    Text.Unbroken r.result.line.toList := by
  cases hvalue : evaluate r.expression with
  | ok v =>
    rw [r.line_of_ok hvalue]
    exact h.append (.append (by decide) (Number.unbroken_text v))
  | error fault =>
    rw [r.line_of_error hvalue]
    exact h.append (.append (by decide) fault.unbroken_message)

/-- **The line of a request reads back.** It has the mark of an error where
the expression has no value, and where it has one, the mark of a value
stands in it once. -/
theorem reads_back :
    (errorMark <:+: r.result.line.toList ↔ r.result.ok = false) ∧
      readLine r.result.line.toList = some r.result.reading ∧
      (r.result.ok = true → ∀ before behind,
        r.result.line.toList = before ++ (valueMark ++ behind) →
          some ⟨before, .ok behind⟩ = readLine r.result.line.toList) := by
  cases hvalue : evaluate r.expression with
  | ok v =>
    obtain ⟨hequals, harrow⟩ := notMem_of_evaluate_eq_ok hvalue
    have htext := Number.notMem_text v
    have hresult := result_of_ok hvalue
    have hread := readLine_value harrow htext
    rw [r.line_of_ok hvalue]
    refine ⟨?_, ?_, fun _ before behind hsplit => ?_⟩
    · have hnone := not_errorMark_infix_value harrow htext.1
      rw [hresult]
      exact ⟨fun hmark => absurd hmark hnone, fun hok => by cases hok⟩
    · rw [hread, hresult]
      rfl
    · obtain ⟨rfl, rfl⟩ := eq_of_valueMark hequals htext.2 hsplit
      exact hread.symm
  | error fault =>
    have hresult := result_of_error hvalue
    rw [r.line_of_error hvalue]
    refine ⟨?_, ?_, fun hok => ?_⟩
    · rw [hresult]
      exact ⟨fun _ => rfl, fun _ => ⟨_, _, (List.append_assoc _ _ _)⟩⟩
    · rw [readLine_error (noArrow_message hvalue), hresult]
      rfl
    · rw [hresult] at hok
      cases hok

end Request

/-- The text of results is their lines. -/
theorem lines_resultsText {results : List Result}
    (h : ∀ r ∈ results, Text.Unbroken r.line.toList) :
    Text.lines (resultsText results) = results.map (·.line.toList) := by
  have htext : resultsText results = (results.map (·.line.toList)).flatMap (· ++ ['\n']) := by
    rw [resultsText, List.flatMap_map]
  rw [htext]
  refine Text.lines_flatMap fun line hline => ?_
  obtain ⟨r, hr, rfl⟩ := List.mem_map.1 hline
  exact h r hr

/-- **The results file can be read back.** What a batch of which nothing is
lost has written to a file is a text whose lines are those of its results,
in order. A line has the mark of an error exactly where the expression has
no value; split at the last such mark, and without one at the mark of a
value, which then stands in it once, it gives the expression back, and the
number printed or the message. -/
theorem Batch.results_read_back {b : Batch} {host : Host} {folder : Folder} {log : Log}
    {requests : List Request} {place : Place}
    (hload : Operations.load host folder b.input = (log, .ok requests))
    (hopen : host.target folder b.output = .ok place)
    (hkeeps : host.Keeps b.output requests.length) (hfile : folder.entry? place ≠ some .device) :
    ∃ results bytes text,
      (b.run host folder).outcome = .ok results ∧
      (b.run host folder).folder.find b.output = .ok (.file bytes) ∧
      Text.Utf8.decode bytes = .ok text ∧
      Text.lines text = results.map (·.line.toList) ∧
      ∀ r ∈ results,
        (errorMark <:+: r.line.toList ↔ r.ok = false) ∧
        readLine r.line.toList = some r.reading ∧
        (r.ok = true → ∀ before behind, r.line.toList = before ++ (valueMark ++ behind) →
          some ⟨before, .ok behind⟩ = readLine r.line.toList) := by
  rw [b.run_eq hload hopen hkeeps]
  refine ⟨_, _, _, rfl, Folder.find_written (Host.writable_of_target hopen) hfile,
    Text.Utf8.decode_encode _, ?_, ?_⟩
  · refine lines_resultsText fun result hresult => ?_
    obtain ⟨r, hr, rfl⟩ := List.mem_map.1 hresult
    obtain ⟨cs, rfl⟩ := Operations.exists_text_of_load hload
    exact r.unbroken_line (Operations.unbroken_of_mem hr)
  · intro result hresult
    obtain ⟨r, -, rfl⟩ := List.mem_map.1 hresult
    exact r.reads_back

/-- An expression that holds both marks is read back whole. -/
theorem Batch.results_read_back_marks :
    let b : Batch := ⟨.ofChars "ops.txt".toList, .ofChars "out.txt".toList⟩
    let host : Host := .ofCatalogue (fun _ _ => none) []
    let folder : Folder := ⟨[(["ops.txt".toList], .file
      [0x3D, 0x20, 0x3D, 0x20, 0x2D, 0x3E, 0x20, 0x45, 0x52, 0x52, 0x4F, 0x52, 0x3A, 0x20, 0x29])],
      []⟩
    ∃ result, (b.run host folder).outcome = .ok [result] ∧
      readLine result.line.toList =
        some ⟨"= = -> ERROR: )".toList, .error "Invalid operand: '='".toList⟩ := by
  intro b host folder
  have hload : Operations.load host folder b.input =
      ([], .ok (Operations.ofText "= = -> ERROR: )".toList)) := rfl
  have hopen : host.target folder b.output = .ok ["out.txt".toList] := rfl
  have hkeeps : host.Keeps b.output 1 := ⟨fun _ _ => rfl, rfl⟩
  have hfile : folder.entry? ["out.txt".toList] ≠ some .device := by decide
  obtain ⟨results, -, -, houtcome, -, -, -, hread⟩ :=
    results_read_back hload hopen hkeeps hfile
  have hresults : results =
      [⟨"= = -> ERROR: )", .first, .error "Invalid operand: '='", some .invalidOperand⟩] := by
    rw [b.run_eq hload hopen hkeeps] at houtcome
    cases houtcome
    rfl
  subst hresults
  exact ⟨_, houtcome, (hread _ List.mem_cons_self).2.1⟩

end Reckoner
