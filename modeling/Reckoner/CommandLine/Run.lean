import Reckoner.Batch
import Reckoner.CommandLine.Arguments
/-!
# Command line — runs

A run of the program: it prompts for one expression, or evaluates an
operations file. Its status is zero where every expression has a value,
one where some expression has none, and two where the operations could not
be read, the results not be written, or the command line not be
understood.
-/

namespace Reckoner

namespace CommandLine

/-- What an interactive run asks with. -/
def prompt : String := "Enter expression: "

/-- **What an interactive run answers** to its input, of which the first
line is read: the status and what is printed after the prompt. Input that
has ended is no fault. -/
def answer (input : List Char) : Nat × String :=
  match Text.firstLine? input with
  | none => (0, "")
  | some line =>
    match evaluate (String.ofList line) with
    | .ok v => (0, "Result: " ++ Number.text v ++ "\n")
    | .error fault => (1, fault.message ++ "\n")

/-- Whether a batch came to no end because something could not be got
at. -/
def isAccessFault : BatchFault → Bool
  | .load (.access _) | .output (.access _) | .write _ => true
  | .load _ | .output .zero => false

/-- The record of a batch that came to no end. It goes by the sort of the
fault: what cannot be got at is put down to the results, and the rest to
the operations. -/
def refusal (b : Batch) (fault : BatchFault) : LogRecord :=
  let what :=
    if isAccessFault fault then s!"📄❌ Could not write results to {b.output.text}"
    else s!"📄❌ Could not read operations from {b.input.text}"
  ⟨.error, what ++ ": " ++ fault.message⟩

/-- What a run leaves behind: its status, what it printed, the records it
made, and the folder after it. -/
structure Ending where
  status : Nat
  printed : String
  log : Log
  folder : Folder

/-- **A batch run.** -/
def runBatch (b : Batch) (host : Host) (folder : Folder) : Ending :=
  let start : LogRecord := ⟨.info, s!"🚀 Evaluating {b.input.text} into {b.output.text}"⟩
  let r := b.run host folder
  match r.outcome with
  | .ok results =>
    ⟨if results.all Result.ok then 0 else 1, "", start :: r.log, r.folder⟩
  | .error fault => ⟨2, "", start :: r.log ++ [refusal b fault], r.folder⟩

/-- The batch that arguments ask for. The results go beside the operations
file unless it is said where. -/
def Arguments.batch? (a : Arguments) : Option Batch := do
  let input ← a.file
  let output ← a.output <|> input.results?
  return ⟨input, output⟩

/-- A run with these arguments. -/
def runWith (a : Arguments) (host : Host) (folder : Folder) (input : List Char) : Ending :=
  match a.batch? with
  | some b => runBatch b host folder
  | none =>
    let (status, printed) := answer input
    ⟨status, prompt ++ printed, [], folder⟩

/-- The logger of a run, which shows every record if asked to and else
leaves out the finest. -/
def Arguments.logger (a : Arguments) : Logger :=
  Logger.configure {} (if a.verbose then .debug else .info)

/-- The text that reports a fault of the command line. -/
def rejection (fault : ArgumentFault) : String :=
  s!"infix-calc: error: {fault.message}\n"

end CommandLine

end Reckoner
