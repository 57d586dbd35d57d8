import Reckoner.Batch
import Reckoner.Catalogue
import Reckoner.Proofs.Crashes
import Reckoner.Proofs.Encoding
import Reckoner.Proofs.Files
/-!
# Writing results

What a batch leaves behind, line by line. Its results are those of its
requests, one for each; nothing of a line can interrupt it, though the
records of a line are put together from fields and could be refused, and
evaluation is made of primitives that crash (`lineResult_eq`).

Writing can. After the lines that got into the results file it holds just
theirs (`Batch.writeLines_of_fits`), and the first that does not, or not
all of it, ends the batch there (`Batch.writeLines_of_spill`). So a batch
takes one of five courses (`Batch.course`), each with an equation for the
run.
-/

namespace Reckoner

open Text (Utf8.encode)

/-- **The text of a results file:** the line of each result, each with a
newline. -/
def resultsText (results : List Result) : List Char :=
  results.flatMap fun r => r.line.toList ++ ['\n']

@[simp] theorem resultsText_nil : resultsText [] = [] := rfl

@[simp] theorem resultsText_cons (r : Result) (rest : List Result) :
    resultsText (r :: rest) = r.line.toList ++ '\n' :: resultsText rest := by
  simp [resultsText]

/-! ## Records that are put together -/

namespace Record

variable {α : Type} {fields : Fields} {name : String} {default a : α} {check : Check α} {v : Value}

/-- A field that is there and passes its check is taken. -/
theorem required_of_lookup (hv : fields.lookup name = some v) (hcheck : check v = .ok a) :
    fields.required name check = .ok a := by
  rw [Fields.required, hv]
  simp [hcheck]

theorem withDefault_of_lookup (hv : fields.lookup name = some v) (hcheck : check v = .ok a) :
    fields.withDefault name default check = .ok a := by
  rw [Fields.withDefault, hv]
  simp [hcheck]

end Record

open Record

/-- The number of a line is one. -/
theorem LineNumber.check_val (n : LineNumber) : LineNumber.check (.int n.val) = .ok n := by
  obtain ⟨n, hn⟩ := n
  simp [LineNumber.check, Value.asInteger, bind, Except.bind, hn]

namespace Request

variable (r : Request)

/-- The fields of a request, from a line and its number. -/
def fieldsOf (number : Nat) (expression : String) : Fields :=
  [("expression", .text expression), ("line_number", .int number)]

/-- The expression of a request is taken as one. -/
theorem checkExpression_expression :
    checkExpression (.text r.expression) = .ok ⟨r.expression, r.not_blank⟩ := by
  simp [checkExpression, Value.asText, bind, Except.bind, r.not_blank]

/-- **A request is not refused.** -/
theorem ofFields_fieldsOf : ofFields (fieldsOf r.lineNumber.val r.expression) = .ok r := by
  have hexpression : (fieldsOf r.lineNumber.val r.expression).required "expression"
      checkExpression = .ok ⟨r.expression, r.not_blank⟩ :=
    required_of_lookup rfl r.checkExpression_expression
  have hnumber : (fieldsOf r.lineNumber.val r.expression).withDefault "line_number" .first
      LineNumber.check = .ok r.lineNumber :=
    withDefault_of_lookup rfl (LineNumber.check_val r.lineNumber)
  rw [ofFields, hexpression, hnumber]
  rfl

/-- The kind of a fault as the value of a field. -/
def kindField (fault : Fault) : Value :=
  match fault.kind? with
  | some kind => .text kind.name
  | none => .null

/-- The fields of the result of a request. -/
def resultFields : Except Fault Float → Fields
  | .ok v => fieldsOf r.lineNumber.val r.expression ++ [("result", .float v)]
  | .error fault =>
    fieldsOf r.lineNumber.val r.expression ++
      [("error", .text fault.message), ("error_kind", kindField fault)]

/-- A kind is read back from its field. -/
theorem check_kindField (fault : Fault) :
    Value.orNull (Value.asName (FaultKind.all.map FaultKind.name) FaultKind.ofName?)
      (kindField fault) = .ok fault.kind? := by
  rw [kindField]
  cases fault.kind? with
  | none => rfl
  | some kind => simp [Value.orNull, Value.asName, Except.map]

/-- **Nor is a result,** whatever the outcome. -/
theorem ofFields_resultFields (outcome : Except Fault Float) :
    Result.ofFields (r.resultFields outcome) = .ok (r.resultOf outcome) := by
  have hexpression : (r.resultFields outcome).required "expression" Value.asText =
      .ok r.expression := by
    cases outcome <;> exact required_of_lookup rfl rfl
  have hnumber : (r.resultFields outcome).withDefault "line_number" .first LineNumber.check =
      .ok r.lineNumber := by
    cases outcome <;> exact withDefault_of_lookup rfl (LineNumber.check_val r.lineNumber)
  rw [Result.ofFields, hexpression, hnumber]
  cases outcome with
  | ok v => rfl
  | error fault =>
    have hkind : (r.resultFields (.error fault)).withDefault "error_kind" none
        (Value.orNull (Value.asName (FaultKind.all.map FaultKind.name) FaultKind.ofName?)) =
          .ok fault.kind? :=
      withDefault_of_lookup rfl (check_kindField fault)
    rw [hkind]
    rfl

end Request

/-! ## One line -/

/-- What a line could be interrupted by. -/
inductive Interruption where
  /-- A record is refused. -/
  | refused (issues : List Issue)
  /-- A primitive crashes. -/
  | crashed (crash : Crash)

/-- Catches the faults of an evaluation. A crash is not caught. -/
def caught : Except Stop (Float × Stacks) → Except Interruption (Except Fault Float)
  | .ok (v, _) => .ok (.ok v)
  | .error (.fault fault) => .ok (.error fault)
  | .error (.crash crash) => .error (.crashed crash)

/-- **The result of a line,** with its records put together from fields. -/
def lineResult (number : Nat) (expression : String) : Except Interruption Result := do
  let request ← (Request.ofFields (Request.fieldsOf number expression)).mapError .refused
  let outcome ← caught (Primitive.evaluate request.expression)
  (Result.ofFields (request.resultFields outcome)).mapError .refused

/-- An evaluation does not crash, so its outcome is caught. -/
theorem caught_evaluate (expression : String) :
    caught (Primitive.evaluate expression) = .ok (evaluate expression) := by
  rw [Primitive.evaluate_eq]
  cases hlexemes : evaluateLexemes (tokenize expression) with
  | ok result =>
    rw [evaluate, hlexemes]
    rfl
  | error failure =>
    have hfault : evaluate expression = .error failure.fault := by
      rw [evaluate, hlexemes]
    -- a fault with a kind is none of those that stand for a crash
    obtain ⟨kind, hkind⟩ := kind_of_evaluate_eq_error hfault
    rw [hfault, Stop.seen, mapError_error, Stop.ofFault_of_kind hkind]
    rfl

/-- **A line is never interrupted.** -/
theorem lineResult_eq (r : Request) :
    lineResult r.lineNumber.val r.expression = .ok r.result := by
  rw [lineResult, r.ofFields_fieldsOf]
  simp only [mapError_ok, ok_bind, caught_evaluate, r.ofFields_resultFields]
  rfl

/-! ## The results of a batch -/

/-- **A result answers a request:** it repeats the expression and the
number of the line, and has the value of the expression and no error, or
the message and the kind of its fault and no value. -/
structure Answers (r : Request) (result : Result) : Prop where
  expression : result.expression = r.expression
  lineNumber : result.lineNumber = r.lineNumber
  value : ∀ v, evaluate r.expression = .ok v →
    result.ok = true ∧ result.value? = some v ∧ result.error? = none ∧ result.kind = none
  fault : ∀ fault, evaluate r.expression = .error fault →
    result.ok = false ∧ result.value? = none ∧ result.error? = some fault.message ∧
      ∃ kind, fault.kind? = some kind ∧ result.kind = some kind

namespace Request

variable {r : Request}

/-- The result of a request that has a value. -/
theorem result_of_ok {v : Float} (h : evaluate r.expression = .ok v) :
    r.result = ⟨r.expression, r.lineNumber, .ok v, none⟩ := by
  rw [result, h]
  rfl

/-- And of one that has none. -/
theorem result_of_error {fault : Fault} (h : evaluate r.expression = .error fault) :
    r.result = ⟨r.expression, r.lineNumber, .error fault.message, fault.kind?⟩ := by
  rw [result, h]
  rfl

/-- **The result of a request answers it.** -/
theorem answers_result (r : Request) : Answers r r.result where
  expression := by
    rw [result]
    cases evaluate r.expression <;> rfl
  lineNumber := by
    rw [result]
    cases evaluate r.expression <;> rfl
  value v hv := by
    rw [result_of_ok hv]
    exact ⟨rfl, rfl, rfl, rfl⟩
  fault fault hfault := by
    obtain ⟨kind, hkind⟩ := kind_of_evaluate_eq_error hfault
    rw [result_of_error hfault]
    exact ⟨rfl, rfl, rfl, kind, hkind, hkind⟩

end Request

/-! ## One line after the other -/

/-- **So many lines get into their file,** each as a whole. -/
def Host.Fits (host : Host) (p : Path) (n : Nat) : Prop :=
  ∀ k < n, host.spill p k = none

/-- **Nothing of so many lines is lost:** they get into their file, and it
can be closed. -/
structure Host.Keeps (host : Host) (p : Path) (n : Nat) : Prop where
  fits : host.Fits p n
  closed : host.unclosed p = none

/-- Of the lines that do not all get there one is the first. -/
theorem Host.fits_or_spills (host : Host) (p : Path) (n : Nat) :
    host.Fits p n ∨ ∃ k < n, host.Fits p k ∧ ∃ spill, host.spill p k = some spill := by
  induction n with
  | zero => exact .inl fun k hk => absurd hk (Nat.not_lt_zero k)
  | succ n ih =>
    rcases ih with hfits | ⟨k, hk, hspills⟩
    · cases hspill : host.spill p n with
      | none =>
        refine .inl fun k hk => ?_
        rcases Nat.lt_succ_iff_lt_or_eq.1 hk with hlt | rfl
        · exact hfits k hlt
        · exact hspill
      | some spill => exact .inr ⟨n, Nat.lt_succ_self n, hfits, spill, hspill⟩
    · exact .inr ⟨k, Nat.lt_succ_of_lt hk, hspills⟩

namespace Batch

variable {b : Batch} {host : Host} {folder : Folder} {place : Place} {log start : Log}
variable {before requests after : List Request} {r : Request} {spill : Spill}

/-- **How far a batch has come** once the lines of these requests are
written, from the records it began with. -/
def progress (folder : Folder) (place : Place) (start : Log) (requests : List Request) :
    Progress where
  results := requests.map Request.result
  log := start ++ requests.flatMap Request.log
  folder := folder.written place (Utf8.encode (resultsText (requests.map Request.result)))

/-- **How far it has come** where only so many bytes of the last line are. -/
def spilled (folder : Folder) (place : Place) (start : Log) (before : List Request)
    (r : Request) (kept : Nat) : Progress where
  results := (before ++ [r]).map Request.result
  log := start ++ (before ++ [r]).flatMap Request.log
  folder := folder.written place (Utf8.encode (resultsText (before.map Request.result)) ++
    (Utf8.encode (r.result.line.toList ++ ['\n'])).take kept)

/-- It begins with an empty file. -/
theorem progress_nil : progress folder place start [] = ⟨[], start, folder.clear place⟩ := by
  rw [progress, Folder.clear_eq_written]
  simp

/-- **One more line** is written behind those before it, as far as it gets
there. -/
theorem writeLine_progress (before : List Request) (r : Request) :
    b.writeLine host place (progress folder place start before) r =
      match host.spill b.output before.length with
      | none => .ok (progress folder place start (before ++ [r]))
      | some spill => .error ⟨spill.fault, spilled folder place start before r spill.kept⟩ := by
  have hbytes : (r.result.line ++ "\n").toUTF8.toList =
      Utf8.encode (r.result.line.toList ++ ['\n']) := by
    rw [Text.Utf8.toUTF8_toList, String.toList_append]
    rfl
  have hlength : (progress folder place start before).results.length = before.length :=
    List.length_map _
  simp only [writeLine, hlength, hbytes]
  cases host.spill b.output before.length with
  | none => simp [progress, Folder.append_written, resultsText, Text.Utf8.encode_append]
  | some spill => simp [progress, spilled, Folder.append_written]

/-- **The loop goes on** from where it has come to. -/
theorem writeLines_append (p : Progress) :
    b.writeLines host place p (before ++ after) =
      b.writeLines host place p before >>= fun p => b.writeLines host place p after :=
  List.foldlM_append

/-- **Lines that get into the file** are written one after the other. -/
theorem writeLines_progress
    (h : ∀ k < requests.length, host.spill b.output (before.length + k) = none) :
    b.writeLines host place (progress folder place start before) requests =
      .ok (progress folder place start (before ++ requests)) := by
  induction requests generalizing before with
  | nil =>
    rw [List.append_nil]
    rfl
  | cons r rest ih =>
    have hnone : host.spill b.output before.length = none := h 0 (Nat.succ_pos _)
    have hrest : ∀ k < rest.length, host.spill b.output ((before ++ [r]).length + k) = none := by
      intro k hk
      rw [List.length_append, List.length_singleton, Nat.add_assoc, Nat.add_comm 1 k]
      exact h (k + 1) (Nat.succ_lt_succ hk)
    rw [writeLines, List.foldlM_cons, writeLine_progress, hnone]
    exact (ih hrest).trans (by rw [List.append_assoc, List.singleton_append])

/-- **So after any number of lines** the file holds just theirs. -/
theorem writeLines_of_fits (h : host.Fits b.output requests.length) :
    b.writeLines host place ⟨[], start, folder.clear place⟩ requests =
      .ok (progress folder place start requests) := by
  rw [← progress_nil]
  refine writeLines_progress fun k hk => ?_
  rw [List.length_nil, Nat.zero_add]
  exact h k hk

/-- And the loop goes on with the others from there. -/
theorem writeLines_of_fits_take {j : Nat} (h : host.Fits b.output (requests.take j).length) :
    b.writeLines host place ⟨[], start, folder.clear place⟩ requests =
      b.writeLines host place (progress folder place start (requests.take j))
        (requests.drop j) := by
  conv_lhs => rw [← List.take_append_drop j requests]
  rw [writeLines_append, writeLines_of_fits h, ok_bind]

/-- **The first line that does not get there** ends the loop. -/
theorem writeLines_of_spill (hfits : host.Fits b.output before.length)
    (hspill : host.spill b.output before.length = some spill) :
    b.writeLines host place ⟨[], start, folder.clear place⟩ (before ++ r :: after) =
      .error ⟨spill.fault, spilled folder place start before r spill.kept⟩ := by
  rw [writeLines_append, writeLines_of_fits hfits, ok_bind, writeLines, List.foldlM_cons,
    writeLine_progress, hspill]
  rfl

/-! ## The courses of a batch -/

/-- **The courses a batch can take.** -/
inductive Course (b : Batch) (host : Host) (folder : Folder) : Prop
  /-- Its expressions are not loaded. -/
  | unloaded (log : Log) (fault : LoadFault)
    (hload : Operations.load host folder b.input = (log, .error fault))
  /-- They are, and the results file is not opened. -/
  | unopened (log : Log) (requests : List Request) (fault : OpenFault)
    (hload : Operations.load host folder b.input = (log, .ok requests))
    (hopen : host.target folder b.output = .error fault)
  /-- It is, and a line does not get into it. -/
  | spilled (log : Log) (before : List Request) (r : Request) (after : List Request)
    (place : Place) (spill : Spill)
    (hload : Operations.load host folder b.input = (log, .ok (before ++ r :: after)))
    (hopen : host.target folder b.output = .ok place) (hfits : host.Fits b.output before.length)
    (hspill : host.spill b.output before.length = some spill)
  /-- All do, and it is not closed. -/
  | unclosed (log : Log) (requests : List Request) (place : Place) (fault : AccessFault)
    (hload : Operations.load host folder b.input = (log, .ok requests))
    (hopen : host.target folder b.output = .ok place)
    (hfits : host.Fits b.output requests.length) (hclose : host.unclosed b.output = some fault)
  /-- Nothing goes wrong. -/
  | written (log : Log) (requests : List Request) (place : Place)
    (hload : Operations.load host folder b.input = (log, .ok requests))
    (hopen : host.target folder b.output = .ok place)
    (hkeeps : host.Keeps b.output requests.length)

/-- **Every batch takes one of them.** -/
theorem course (b : Batch) (host : Host) (folder : Folder) : Course b host folder := by
  cases hload : Operations.load host folder b.input with
  | mk log outcome =>
    cases outcome with
    | error fault => exact .unloaded log fault hload
    | ok requests =>
      cases hopen : host.target folder b.output with
      | error fault => exact .unopened log requests fault hload hopen
      | ok place =>
        rcases host.fits_or_spills b.output requests.length with
          hfits | ⟨k, hk, hfits, spill, hspill⟩
        · cases hclose : host.unclosed b.output with
          | none => exact .written log requests place hload hopen ⟨hfits, hclose⟩
          | some fault => exact .unclosed log requests place fault hload hopen hfits hclose
        · have hlength : (requests.take k).length = k := List.length_take_of_le hk.le
          have hsplit : requests = requests.take k ++ requests[k] :: requests.drop (k + 1) := by
            rw [← List.drop_eq_getElem_cons hk, List.take_append_drop]
          rw [← hlength] at hfits hspill
          exact .spilled log _ _ _ place spill (hsplit ▸ hload) hopen hfits hspill

theorem run_of_load_error {fault : LoadFault}
    (hload : Operations.load host folder b.input = (log, .error fault)) :
    b.run host folder = ⟨.error (.load fault), folder, log⟩ := by
  rw [run, hload]

theorem run_of_unopened {fault : OpenFault}
    (hload : Operations.load host folder b.input = (log, .ok requests))
    (hopen : host.target folder b.output = .error fault) :
    b.run host folder = ⟨.error (.output fault), folder, log ++ [b.loaded requests]⟩ := by
  rw [run, hload]
  simp only [hopen]

/-- **A line that does not get into the results file** breaks the batch
off. -/
theorem run_of_spill
    (hload : Operations.load host folder b.input = (log, .ok (before ++ r :: after)))
    (hopen : host.target folder b.output = .ok place) (hfits : host.Fits b.output before.length)
    (hspill : host.spill b.output before.length = some spill) :
    b.run host folder =
      ⟨.error (.write spill.fault),
        folder.written place (Utf8.encode (resultsText (before.map Request.result)) ++
          (Utf8.encode (r.result.line.toList ++ ['\n'])).take spill.kept),
        log ++ [b.loaded (before ++ r :: after)] ++ (before ++ [r]).flatMap Request.log⟩ := by
  rw [run, hload]
  simp only [hopen, writeLines_of_spill hfits hspill]
  rfl

/-- **And so does a file that is not closed,** with all lines in it. -/
theorem run_of_unclosed {fault : AccessFault}
    (hload : Operations.load host folder b.input = (log, .ok requests))
    (hopen : host.target folder b.output = .ok place)
    (hfits : host.Fits b.output requests.length) (hclose : host.unclosed b.output = some fault) :
    b.run host folder =
      ⟨.error (.write fault),
        folder.written place (Utf8.encode (resultsText (requests.map Request.result))),
        log ++ [b.loaded requests] ++ requests.flatMap Request.log⟩ := by
  rw [run, hload]
  simp only [hopen, writeLines_of_fits hfits, hclose]
  rfl

/-- **A batch of which nothing is lost** gives the results of its requests,
writes their text and nothing else, and keeps their records. -/
theorem run_eq (hload : Operations.load host folder b.input = (log, .ok requests))
    (hopen : host.target folder b.output = .ok place)
    (hkeeps : host.Keeps b.output requests.length) :
    b.run host folder =
      ⟨.ok (requests.map Request.result),
        folder.written place (Utf8.encode (resultsText (requests.map Request.result))),
        log ++ [b.loaded requests] ++ requests.flatMap Request.log ++
          [b.wrote (requests.map Request.result)]⟩ := by
  rw [run, hload]
  simp only [hopen, writeLines_of_fits hkeeps.fits, hkeeps.closed]
  rfl

/-- Whether it can be closed or not, the file has all lines that got there. -/
theorem folder_run_of_fits (hload : Operations.load host folder b.input = (log, .ok requests))
    (hopen : host.target folder b.output = .ok place)
    (hfits : host.Fits b.output requests.length) :
    (b.run host folder).folder =
      folder.written place (Utf8.encode (resultsText (requests.map Request.result))) := by
  cases hclose : host.unclosed b.output with
  | none => rw [run_eq hload hopen ⟨hfits, hclose⟩]
  | some fault => rw [run_of_unclosed hload hopen hfits hclose]

/-- **Every line is evaluated by itself and none is dropped.** A batch whose
expressions are loaded and whose results file is opened has for each
expression, in their order, a result that is a function of that expression
and its line number alone and answers them. After any number of lines that
got into the file the loop has their results, the file holds just their
text, and the loop goes on from there. If all get there and the file is
closed, the batch gives all results; the first line that does not get there
breaks it off, with the lines before it and a part of it in the file. -/
theorem run_line_by_line
    (hload : Operations.load host folder b.input = (log, .ok requests))
    (hopen : host.target folder b.output = .ok place) :
    let opened : Progress := ⟨[], log ++ [b.loaded requests], folder.clear place⟩
    (∀ r ∈ requests, lineResult r.lineNumber.val r.expression = .ok r.result ∧
      Answers r r.result) ∧
    (host.Keeps b.output requests.length →
      (b.run host folder).outcome = .ok (requests.map Request.result)) ∧
    (∀ j, host.Fits b.output (requests.take j).length → ∃ p,
      b.writeLines host place opened (requests.take j) = .ok p ∧
      b.writeLines host place opened requests = b.writeLines host place p (requests.drop j) ∧
      p.results = (requests.take j).map Request.result ∧
      p.folder = folder.written place (Utf8.encode
        ((requests.take j).flatMap fun r => r.result.line.toList ++ ['\n'])) ∧
      (folder.entry? place ≠ some .device → p.folder.find b.output = .ok (.file (Utf8.encode
        ((requests.take j).flatMap fun r => r.result.line.toList ++ ['\n'])))) ∧
      (requests.length ≤ j → p.folder = (b.run host folder).folder)) ∧
    (∀ before r after spill, requests = before ++ r :: after →
      host.Fits b.output before.length → host.spill b.output before.length = some spill →
      (b.run host folder).outcome = .error (.write spill.fault) ∧
      (b.run host folder).folder = folder.written place
        (Utf8.encode (before.flatMap fun r => r.result.line.toList ++ ['\n']) ++
          (Utf8.encode (r.result.line.toList ++ ['\n'])).take spill.kept)) ∧
    (∀ fault, host.Fits b.output requests.length → host.unclosed b.output = some fault →
      (b.run host folder).outcome = .error (.write fault)) := by
  intro opened
  have htext : ∀ requests : List Request, resultsText (requests.map Request.result) =
      requests.flatMap fun r => r.result.line.toList ++ ['\n'] := fun requests => by
    rw [resultsText, List.flatMap_map]
  refine ⟨fun r _ => ⟨lineResult_eq r, r.answers_result⟩, fun hkeeps => ?_, fun j hfits => ?_, ?_,
    fun fault hfits hclose => ?_⟩
  · rw [run_eq hload hopen hkeeps]
  · have hfolder : (progress folder place (log ++ [b.loaded requests]) (requests.take j)).folder =
        folder.written place (Utf8.encode
          ((requests.take j).flatMap fun r => r.result.line.toList ++ ['\n'])) := by
      rw [progress, htext]
    refine ⟨_, writeLines_of_fits hfits, writeLines_of_fits_take hfits, rfl, hfolder,
      fun hfile => ?_, fun hj => ?_⟩
    · rw [hfolder]
      exact Folder.find_written (Host.writable_of_target hopen) hfile
    · rw [List.take_of_length_le hj] at hfits ⊢
      exact (folder_run_of_fits hload hopen hfits).symm
  · rintro before r after spill rfl hfits hspill
    rw [run_of_spill hload hopen hfits hspill, htext]
    exact ⟨rfl, rfl⟩
  · rw [run_of_unclosed hload hopen hfits hclose]

/-- A blank line has no result and counts as a line, and a bracket too many
does not stop the batch. -/
theorem run_line_by_line_blank :
    let b : Batch := ⟨.ofChars "ops.txt".toList, .ofChars "out.txt".toList⟩
    let host : Host := .ofCatalogue (fun _ _ => none) []
    let folder : Folder := ⟨[(["ops.txt".toList], .file [0x29, 0x0A, 0x0A, 0x31])], []⟩
    ∃ results, (b.run host folder).outcome = .ok results ∧
      results.map (fun r => (r.lineNumber.val, r.expression)) = [(1, ")"), (3, "1")] := by
  intro b host folder
  have hload : Operations.load host folder b.input =
      ([], .ok (Operations.ofText [')', '\n', '\n', '1'])) := rfl
  have hopen : host.target folder b.output = .ok ["out.txt".toList] := rfl
  obtain ⟨hanswers, houtcome, -⟩ := run_line_by_line hload hopen
  refine ⟨_, houtcome ⟨fun _ _ => rfl, rfl⟩, ?_⟩
  rw [List.map_map]
  have hentry : ∀ r ∈ Operations.ofText [')', '\n', '\n', '1'],
      (r.result.lineNumber.val, r.result.expression) = (r.lineNumber.val, r.expression) := by
    intro r hr
    have hanswer := (hanswers r hr).2
    rw [hanswer.expression, hanswer.lineNumber]
  exact List.map_congr_left hentry

/-- **On a device that is full** the batch has no results, though its
expressions are loaded and the results file is opened. -/
theorem run_full_device :
    let b : Batch := ⟨.ofChars "ops.txt".toList, .ofChars "/dev/full".toList⟩
    let host : Host := { Host.ofCatalogue (fun _ _ => none) [] with
      spill := fun _ _ => some ⟨⟨.noSpace, none⟩, 0⟩ }
    let folder : Folder :=
      ⟨[(["ops.txt".toList], .file [0x31]), (["dev".toList, "full".toList], .device)], []⟩
    Operations.load host folder b.input = ([], .ok (Operations.ofText ['1'])) ∧
      host.target folder b.output = .ok ["dev".toList, "full".toList] ∧
      (b.run host folder).outcome = .error (.write ⟨.noSpace, none⟩) :=
  ⟨rfl, rfl, rfl⟩

end Batch

end Reckoner
