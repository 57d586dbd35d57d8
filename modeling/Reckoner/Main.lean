import Reckoner.Catalogue
import Reckoner.CommandLine.Run
import Std.Time
/-!
# The program

The outer layer: it looks at the files that the command line speaks of,
hands them to a run as a folder, and writes down what the run comes to.
Archives are not unpacked here, so that a file is what its bytes are.
-/

namespace Reckoner

namespace CommandLine

/-- The names that the words of a command line give, where they can be
read. -/
def namesOf (words : List Name) : List Name :=
  match Word.ofAll words >>= Given.words {} false with
  | .ok g => g.file.toList ++ g.output.name?.toList
  | .error _ => []

/-- The paths a run may have to know of: those given, where results go by
default, and the directories they all are in. -/
def pathsOf (words : List Name) : List Path :=
  let given := (namesOf words).map Path.ofChars
  let all := given ++ given.filterMap Path.results?
  all ++ all.map Path.parent

/-- The place of a path, a step to the parent directory being taken back
from the names before it. -/
def placeOf (home : Place) (p : Path) : Place :=
  p.parts.foldl Place.step (if p.root = .relative then home else [])

/-- Looks at what a path leads to. -/
def look (home : Place) (p : Path) : IO (Option (Place × Entry)) := do
  try
    let real ← IO.FS.realPath p.text
    match (← real.metadata).type with
    | .dir => return some (placeOf home p, .directory)
    | .file => return some (placeOf home p, .file (← IO.FS.readBinFile real).toList)
    | _ => return some (placeOf home p, .device)
  catch _ => return none

/-- The folder that holds what these paths lead to. -/
def snapshot (paths : List Path) : IO Folder := do
  let home := (Path.ofText (← IO.currentDir).toString).parts
  return ⟨(← paths.mapM (look home)).filterMap id, home⟩

/-- The time of day that a record is shown with. -/
def timeText : IO String := do
  return (← Std.Time.PlainDateTime.now).format "uuuu-MM-dd HH:mm:ss"

/-- Prompts for an expression and answers it. -/
def converse : IO UInt32 := do
  IO.print prompt
  (← IO.getStdout).flush
  let (status, printed) := answer (← (← IO.getStdin).getLine).toList
  IO.print printed
  return status.toUInt32

/-- The host of a run. It unpacks no archives; `spilled` is what goes wrong
with the results file, if that is known. -/
def host (spilled : Option AccessFault) : Host :=
  { Host.ofCatalogue (fun _ _ => none) ["tmp".toList, "reckoner".toList] with
    spill := fun _ _ => spilled.map fun fault => ⟨fault, 0⟩ }

/-- Writes the files that a run changed, and says what goes wrong. -/
def writeChanges (changes : List (Place × List UInt8)) : IO (Option AccessFault) := do
  try
    for (place, bytes) in changes do
      IO.FS.writeBinFile (Path.mk .slash place).text (ByteArray.mk bytes.toArray)
    return none
  catch problem => return some ⟨⟨5, toString problem⟩, none⟩

/-- Carries out a run, and writes what it changed. A run whose results do
not get into their file ends as one on a host where they do not. -/
def carryOut (a : Arguments) (folder : Folder) : IO UInt32 := do
  if a.file.isNone then converse
  else
    let ending := runWith a (host none) folder []
    let spilled ← writeChanges (ending.folder.changes folder)
    let ending := if spilled.isSome then runWith a (host spilled) folder [] else ending
    IO.eprint (a.logger.render (← timeText) ending.log)
    return ending.status.toUInt32

end CommandLine

end Reckoner

open Reckoner CommandLine in
/-- The program: without arguments it asks for an expression, with an
operations file it evaluates that. -/
def main (arguments : List String) : IO UInt32 := do
  let words := arguments.map String.toList
  let folder ← snapshot (pathsOf words)
  let parsed := parse folder words
  match parsed with
  | .ok (.run a) => return ← carryOut a folder
  | .ok .help =>
    IO.println "Evaluate infix arithmetic expressions: [FILE [-o OUTPUT] [-v]]"
  | .error fault => IO.eprint (rejection fault)
  return ((exitStatus? parsed).getD 0).toUInt32
