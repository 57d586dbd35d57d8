import Reckoner.Evaluation
import Reckoner.Operations
import Reckoner.Record.Result
/-!
# Batches

Evaluating an operations file line by line into a results file. A line
that fails stops no other. Each result is written as soon as it is there,
so that after any number of lines the results file holds just theirs, and
a line that cannot be written leaves those before it. The results file is
opened once the expressions are loaded: a batch that fails to load leaves
every file as it was.
-/

namespace Reckoner

/-! ## One request -/

namespace Request

/-- The result of a request whose evaluation came out so. -/
def resultOf (r : Request) : Except Fault Float → Result
  | .ok v => ⟨r.expression, r.lineNumber, .ok v, none⟩
  | .error fault => ⟨r.expression, r.lineNumber, .error fault.message, fault.kind?⟩

/-- **The result of a request.** -/
def result (r : Request) : Result :=
  r.resultOf (evaluate r.expression)

/-- The record made before a request is evaluated. -/
def announcement (r : Request) : LogRecord :=
  ⟨.debug, s!"🧮🏁 Evaluating line {r.lineNumber.val}: {r.expression}"⟩

/-- The record made of its outcome: a fault is worth a warning, which
quotes the expression. -/
def report (r : Request) : Except Fault Float → LogRecord
  | .ok v => ⟨.debug, s!"🧮✅ Line {r.lineNumber.val} evaluated: {Number.text v}"⟩
  | .error fault =>
    let kind := (fault.kind?.map FaultKind.name).getD ""
    ⟨.warning, s!"🧮❌ Line {r.lineNumber.val} failed ({kind}): {fault.message}\n" ++
      "Invalid arithmetic expression, could not evaluate: " ++ Text.quote r.expression.toList⟩

/-- The records of a request, in order. -/
def log (r : Request) : Log :=
  [r.announcement, r.report (evaluate r.expression)]

end Request

/-! ## All requests -/

/-- **How far a batch has come:** the results so far, the records made, and
the folder with the results file in it. -/
structure Progress where
  results : List Result := []
  log : Log := []
  folder : Folder

/-- A batch that is broken off: why, and how far it had come. -/
structure Breakdown where
  fault : AccessFault
  progress : Progress

/-- **A batch:** the operations file, and where its results go. -/
structure Batch where
  input : Path
  output : Path

/-- Why a batch came to no end. -/
inductive BatchFault where
  /-- The expressions could not be loaded. -/
  | load (fault : LoadFault)
  /-- The results file could not be opened. -/
  | output (fault : OpenFault)
  /-- A result could not be written. -/
  | write (fault : AccessFault)
  deriving DecidableEq, Repr

/-- The fault in words. -/
def BatchFault.message : BatchFault → String
  | load fault => fault.message
  | output fault => fault.message
  | write fault => fault.message

/-- What a batch came to: the results or why there are none, the folder
after it, and the records made. -/
structure BatchRun where
  outcome : Except BatchFault (List Result)
  folder : Folder
  log : Log

namespace Batch

open Record

/-- Takes a path. -/
def checkPath : Check Path
  | .text s => .ok (.ofText s)
  | _ => .error .notPath

/-- Takes the path of a file in the folder. -/
def checkFile (folder : Folder) : Check Path := fun v => do
  let p ← checkPath v
  if folder.isFile p then .ok p else .error .notFile

/-- **A batch put together from fields.** The operations file has to be
there; the results file need not. -/
def ofFields (folder : Folder) (fields : Fields) : Checked Batch := do
  let input := fields.required "input_file" (checkFile folder)
  let output := fields.required "output_file" checkPath
  let (input, output) ← input.and output
  return ⟨input, output⟩

/-- The record of what was loaded. -/
def loaded (b : Batch) (requests : List Request) : LogRecord :=
  ⟨.info, s!"📄 Loaded {requests.length} expressions from {b.input.text}"⟩

/-- How many of these results are errors. -/
def failures (results : List Result) : Nat :=
  (results.filter (!·.ok)).length

/-- The record of what was written. -/
def wrote (b : Batch) (results : List Result) : LogRecord :=
  ⟨.info,
    s!"✅ Wrote {results.length} results to {b.output.text} ({failures results} failed)"⟩

/-- **Evaluates one more request** and writes its result at the end of the
results file. A line that does not get there, or not all of it, breaks the
batch off. -/
def writeLine (b : Batch) (host : Host) (place : Place) (p : Progress) (r : Request) :
    Except Breakdown Progress :=
  let line := (r.result.line ++ "\n").toUTF8.toList
  let after (bytes : List UInt8) : Progress :=
    ⟨p.results ++ [r.result], p.log ++ r.log, p.folder.append place bytes⟩
  match host.spill b.output p.results.length with
  | none => .ok (after line)
  | some spill => .error ⟨spill.fault, after (line.take spill.kept)⟩

/-- **Evaluates requests one after the other.** -/
def writeLines (b : Batch) (host : Host) (place : Place) (p : Progress) (requests : List Request) :
    Except Breakdown Progress :=
  requests.foldlM (b.writeLine host place) p

/-- **Runs a batch.** -/
def run (b : Batch) (host : Host) (folder : Folder) : BatchRun :=
  match Operations.load host folder b.input with
  | (log, .error fault) => ⟨.error (.load fault), folder, log⟩
  | (log, .ok requests) =>
    let log := log ++ [b.loaded requests]
    match host.target folder b.output with
    | .error fault => ⟨.error (.output fault), folder, log⟩
    | .ok place =>
      match b.writeLines host place ⟨[], log, folder.clear place⟩ requests with
      | .error down => ⟨.error (.write down.fault), down.progress.folder, down.progress.log⟩
      | .ok p =>
        match host.unclosed b.output with
        | some fault => ⟨.error (.write fault), p.folder, p.log⟩
        | none => ⟨.ok p.results, p.folder, p.log ++ [b.wrote p.results]⟩

end Batch

end Reckoner
