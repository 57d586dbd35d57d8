import Reckoner.Proofs.Numbering
import Reckoner.Proofs.Splitting
import Reckoner.Proofs.Status
/-!
# The two modes

What an interactive run answers to a line, a batch run writes behind it.
Blanks around an expression change nothing of its evaluation
(`evaluate_strip`), so it does not matter that a batch strips them. But the
modes do not mean the same by a line. An interactive run reads up to the
newline, and a batch cuts a text at every line break of Unicode, of which
some are blanks inside an expression to the interactive run: there the
modes part (`modes_differ_at_tabulation`), and on a text of a single line
they agree (`modes_agree`).
-/

namespace Reckoner

open Text

/-- **Blanks around an expression** change nothing of its evaluation. -/
theorem evaluate_strip (cs : List Char) :
    evaluate (String.ofList (strip cs)) = evaluate (String.ofList cs) := by
  rw [evaluate, evaluate, tokenize_strip]

namespace CommandLine

variable {x input : List Char} (verbose : Bool)

/-! ## A line that is typed -/

/-- **Input of one line,** with or without its newline and more behind
that. -/
def Types (x input : List Char) : Prop :=
  input = x ∨ ∃ more, input = x ++ '\n' :: more

/-- The line that is read is the one that is typed. -/
theorem firstLine?_of_types (h : Types x input) (hne : x ≠ []) (hfeed : '\n' ∉ x)
    (hreturn : '\r' ∉ x) : firstLine? input = some x := by
  have hfirst : ∀ {cs : List Char}, cs ≠ [] →
      firstLine? cs = some ((unifyNewlines cs).takeWhile (· ≠ '\n')) := by
    intro cs hcs
    cases cs with
    | nil => exact absurd rfl hcs
    | cons c cs => rfl
  have htake : x.takeWhile (· ≠ '\n') = x := by
    rw [List.takeWhile_eq_self_iff]
    intro c hc
    exact decide_eq_true fun heq => hfeed (heq ▸ hc)
  rcases h with rfl | ⟨more, rfl⟩
  · rw [hfirst hne, unifyNewlines_eq_self hreturn, htake]
  · have hall : ∀ c ∈ x, decide (c ≠ '\n') = true := fun c hc =>
      decide_eq_true fun heq => hfeed (heq ▸ hc)
    rw [hfirst (by simp), unifyNewlines_append hreturn, List.takeWhile_append_of_pos hall]
    simp [unifyNewlines]

/-- The arguments of an interactive run. -/
def interactive (verbose : Bool) : Arguments :=
  ⟨none, none, verbose⟩

/-- What an interactive run answers to a line. -/
theorem runWith_interactive (h : Types x input) (hne : x ≠ []) (hfeed : '\n' ∉ x)
    (hreturn : '\r' ∉ x) (host : Host) (folder : Folder) :
    runWith (interactive verbose) host folder input =
      match evaluate (String.ofList x) with
      | .ok v => ⟨0, prompt ++ ("Result: " ++ Number.text v ++ "\n"), [], folder⟩
      | .error fault => ⟨1, prompt ++ (fault.message ++ "\n"), [], folder⟩ := by
  have hbatch : (interactive verbose).batch? = none := rfl
  rw [runWith, hbatch]
  simp only [answer, firstLine?_of_types h hne hfeed hreturn]
  cases evaluate (String.ofList x) <;> rfl

/-! ## A file that holds it -/

variable {b : Batch} {host : Host} {folder : Folder} {place : Place}

/-- A text file is loaded as the requests of its text. -/
theorem load_of_text (htext : Operations.isText b.input.name = true)
    (hread : host.read folder b.input = .ok (Utf8.encode x)) :
    Operations.load host folder b.input = ([], .ok (Operations.ofText x)) := by
  have hholds : Operations.HoldsText host folder b.input x :=
    ⟨htext, _, hread, Utf8.decode_encode x⟩
  exact hholds.load_eq

/-- **The modes agree** on an expression: the statuses are equal, and what
is printed is what the results file holds behind the expression. -/
inductive Agree (expression : List Char) (typed filed : Ending) (written : List Char) : Prop
  /-- Both give the same value. -/
  | value (number : String) (htyped : typed.status = 0) (hfiled : filed.status = 0)
    (hprinted : typed.printed = prompt ++ ("Result: " ++ number ++ "\n"))
    (hwritten : written = expression ++ (valueMark ++ (number.toList ++ ['\n'])))
  /-- Or both give the same message. -/
  | fault (message : String) (htyped : typed.status = 1) (hfiled : filed.status = 1)
    (hprinted : typed.printed = prompt ++ (message ++ "\n"))
    (hwritten : written = expression ++ (errorMark ++ (message.toList ++ ['\n'])))

/-- A batch over a text has the text as its one result exactly if it is a
single line to the batch. -/
theorem single_result_iff
    (hload : Operations.load host folder b.input = ([], .ok (Operations.ofText x)))
    (hopen : host.target folder b.output = .ok place)
    (hkeeps : host.Keeps b.output (Operations.ofText x).length) (hblank : isBlankText x = false) :
    (∃ r, (b.run host folder).outcome = .ok [r] ∧ r.lineNumber = .first ∧
      r.expression.toList = strip x) ↔ SingleLine x := by
  rw [b.run_eq hload hopen hkeeps]
  constructor
  · rintro ⟨result, houtcome, hnumber, hexpression⟩
    obtain ⟨r, hof, rfl⟩ := List.map_eq_singleton_iff.1 (Except.ok.inj houtcome)
    have hanswers := r.answers_result
    rw [hanswers.lineNumber] at hnumber
    rw [hanswers.expression] at hexpression
    exact Operations.singleLine_of_mem (hof ▸ List.mem_cons_self) hnumber hexpression
  · intro hsingle
    obtain ⟨r, hof, hnumber, hexpression⟩ :=
      Operations.exists_request_of_singleLine hsingle hblank
    have hanswers := r.answers_result
    rw [hof]
    refine ⟨r.result, rfl, hanswers.lineNumber.trans hnumber, ?_⟩
    rw [hanswers.expression, hexpression]

/-- A batch of one request agrees with what is answered to a line that
evaluates to the same. -/
theorem agree_of_request {r : Request} {log : Log}
    (hload : Operations.load host folder b.input = (log, .ok [r]))
    (hopen : host.target folder b.output = .ok place) (hkeeps : host.Keeps b.output [r].length)
    (htypes : Types x input) (hne : x ≠ []) (hfeed : '\n' ∉ x) (hreturn : '\r' ∉ x)
    (hevaluate : evaluate r.expression = evaluate (String.ofList x)) :
    Agree r.expression.toList (runWith (interactive verbose) host folder input)
      (runBatch b host folder) (r.result.line.toList ++ ['\n']) := by
  have htyped := runWith_interactive verbose htypes hne hfeed hreturn host folder
  have hstatus := status_runBatch hload hopen hkeeps
  cases hvalue : evaluate (String.ofList x) with
  | ok v =>
    rw [hvalue] at htyped hevaluate
    have hok := (r.answers_result.value v hevaluate).1
    refine .value (Number.text v) (by rw [htyped]) ?_ (by rw [htyped]) ?_
    · simpa [hok] using hstatus
    · rw [r.line_of_ok hevaluate]
      simp
  | error fault =>
    rw [hvalue] at htyped hevaluate
    have hok := (r.answers_result.fault fault hevaluate).1
    refine .fault fault.message (by rw [htyped]) ?_ (by rw [htyped]) ?_
    · simpa [hok] using hstatus
    · rw [r.line_of_error hevaluate]
      simp

/-- **On a text of a single line, the modes agree.** A batch over a text
file that holds a text without line feeds and carriage returns, of which
nothing is lost, has that text, stripped and under the first number, as its
one result, exactly if it is a single line to the batch too: blank from its
first line break of another kind on. Then what an interactive run answers
to it is what the batch writes. -/
theorem modes_agree (htext : Operations.isText b.input.name = true)
    (hread : host.read folder b.input = .ok (Utf8.encode x))
    (hopen : host.target folder b.output = .ok place)
    (hkeeps : host.Keeps b.output (Operations.ofText x).length)
    (hfile : folder.entry? place ≠ some .device) (hblank : isBlankText x = false)
    (hfeed : '\n' ∉ x) (hreturn : '\r' ∉ x) :
    ((∃ r, (b.run host folder).outcome = .ok [r] ∧ r.lineNumber = .first ∧
        r.expression.toList = strip x) ↔ SingleLine x) ∧
      (SingleLine x → ∀ input, Types x input → ∃ written,
        (runBatch b host folder).folder.find b.output = .ok (.file (Utf8.encode written)) ∧
        Agree (strip x) (runWith (interactive verbose) host folder input)
          (runBatch b host folder) written) := by
  have hload := load_of_text htext hread
  refine ⟨single_result_iff hload hopen hkeeps hblank, fun hsingle input htypes => ?_⟩
  obtain ⟨r, hof, -, hexpression⟩ := Operations.exists_request_of_singleLine hsingle hblank
  rw [hof] at hload hkeeps
  have hne : x ≠ [] := by
    rintro rfl
    cases hblank
  -- the one evaluates the text as it was typed, the other stripped
  have hevaluate : evaluate r.expression = evaluate (String.ofList x) := by
    rw [← evaluate_strip, ← hexpression, String.ofList_toList]
  refine ⟨r.result.line.toList ++ ['\n'], ?_, ?_⟩
  · rw [runBatch_of_keeps hload hopen hkeeps,
      Folder.find_written (Host.writable_of_target hopen) hfile]
    simp
  · rw [← hexpression]
    exact agree_of_request verbose hload hopen hkeeps htypes hne hfeed hreturn hevaluate

/-- A text with blanks around it, typed with its newline. -/
theorem modes_agree_blanks :
    let b : Batch := ⟨.ofChars "ops.txt".toList, .ofChars "out.txt".toList⟩
    let host : Host := .ofCatalogue (fun _ _ => none) []
    let folder : Folder := ⟨[(["ops.txt".toList], .file [0x20, 0x29, 0x0C])], []⟩
    ∃ written, (runBatch b host folder).folder.find b.output =
        .ok (.file (Utf8.encode written)) ∧
      Agree [')'] (runWith (interactive false) host folder [' ', ')', '\x0c', '\n'])
        (runBatch b host folder) written := by
  intro b host folder
  have hread : host.read folder b.input = .ok (Utf8.encode [' ', ')', '\x0c']) := by
    rw [Utf8.encode_eq_flatMap]
    rfl
  have hopen : host.target folder b.output = .ok ["out.txt".toList] := rfl
  have hfile : folder.entry? ["out.txt".toList] ≠ some .device := by decide
  exact (modes_agree false rfl hread hopen ⟨fun _ _ => rfl, rfl⟩ hfile rfl (by decide)
    (by decide)).2 rfl _ (Or.inr ⟨[], rfl⟩)

/-- **At a vertical tabulation the modes part.** It is a blank between two
operands to an interactive run, which finds the expression malformed, and
the end of a line to a batch, which has two results. -/
theorem modes_differ_at_tabulation :
    let x : List Char := ['1', '\x0b', '2']
    let b : Batch := ⟨.ofChars "ops.txt".toList, .ofChars "out.txt".toList⟩
    let host : Host := .ofCatalogue (fun _ _ => none) []
    let folder : Folder := ⟨[(["ops.txt".toList], .file (Utf8.encode x))], []⟩
    isBlankText x = false ∧ '\n' ∉ x ∧ '\r' ∉ x ∧
      (∃ r s, (b.run host folder).outcome = .ok [r, s]) ∧
      (runBatch b host folder).status = 0 ∧
      (runWith (interactive false) host folder x).status = 1 := by
  intro x b host folder
  have hload : Operations.load host folder b.input = ([], .ok (Operations.ofText x)) :=
    load_of_text rfl rfl
  have hopen : host.target folder b.output = .ok ["out.txt".toList] := rfl
  have hkeeps : host.Keeps b.output (Operations.ofText x).length := ⟨fun _ _ => rfl, rfl⟩
  have hvalue : evaluate (String.ofList ['1', '\x0b', '2']) = .error (.malformedExpression 2) :=
    rfl
  refine ⟨rfl, by decide, by decide, ?_, ?_, ?_⟩
  · rw [b.run_eq hload hopen hkeeps]
    exact ⟨_, _, rfl⟩
  · rw [runBatch_of_keeps hload hopen hkeeps]
    rfl
  · rw [runWith_interactive false (Or.inl rfl) (by decide) (by decide) (by decide), hvalue]

end CommandLine

end Reckoner
