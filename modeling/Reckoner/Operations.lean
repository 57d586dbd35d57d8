import Reckoner.Log
import Reckoner.Record.Request
import Reckoner.Host
import Reckoner.Text.Lines
import Reckoner.Text.Utf8
/-!
# Operations files

Reading the expressions of an operations file, which is a text or an
archive that holds one. Each line that is not blank is a request; its
number counts every line of the file.
-/

namespace Reckoner

/-- Why no expressions could be read. -/
inductive LoadFault where
  /-- The name asks for no known format; `suffixes` are all it has. -/
  | unsupported (suffixes : Name)
  /-- The archive is damaged, or not in the format of its name. -/
  | corrupt (archive : Name) (message : String)
  /-- Something in the archive cannot be made sense of. -/
  | invalid (message : String)
  /-- The archive has no text file. -/
  | noOperations (archive : Name)
  /-- The text is not in UTF-8. -/
  | encoding (fault : Text.Utf8.Fault)
  /-- Something could not be got at. -/
  | access (fault : AccessFault)
  deriving DecidableEq, Repr

namespace LoadFault

/-- The fault in words. -/
def message : LoadFault → String
  | unsupported suffixes => "📄❌ Unsupported archive format: " ++ String.ofList suffixes
  | corrupt archive message => s!"📄❌ Corrupt archive {String.ofList archive}: {message}"
  | invalid message => message
  | noOperations archive => "📄❌ No .txt file found in archive " ++ String.ofList archive
  | encoding fault => fault.message
  | access fault => fault.message

/-- The fault of a library, met in an archive. -/
def ofLibrary (archive : Name) : LibraryFault → LoadFault
  | .corrupt message => corrupt archive message
  | .invalid message => invalid message
  | .access fault => access fault

end LoadFault

/-- The request that a line is, if it is not blank: the line stripped, and
its number, which is one more than that of the lines before it. -/
def Request.ofLine? (line : List Char) (before : Nat) : Option Request :=
  if h : Text.isBlankText line = false then
    some ⟨String.ofList (Text.strip line), ⟨before + 1, Nat.le_add_left 1 before⟩, by simpa using h⟩
  else none

namespace Operations

/-- **The requests of a text.** -/
def ofText (cs : List Char) : List Request :=
  (Text.splitLines (Text.unifyNewlines cs)).zipIdx.filterMap fun (line, before) =>
    Request.ofLine? line before

/-- The requests of a text in UTF-8. -/
def ofBytes (bytes : List UInt8) : Except LoadFault (List Request) :=
  match Text.Utf8.decode bytes with
  | .ok cs => .ok (ofText cs)
  | .error fault => .error (.encoding fault)

/-- Whether a file of this name is read as a text. -/
def isText (name : Name) : Bool :=
  name.suffix = ".txt".toList

/-- **Unpacks the operations** that an archive holds: the name under which
they are listed, and what is unpacked. -/
def unpack (host : Host) (folder : Folder) (input : Path) :
    Except LoadFault (Name × List (Place × Entry)) := do
  match ArchiveFormat.ofName? input.name with
  | none => .error (.unsupported input.name.suffixes.flatten)
  | some format =>
    let bytes ← (host.read folder input).mapError .access
    let listings ← (host.library.list format bytes).mapError (.ofLibrary input.name)
    match format.operationsName? listings with
    | none => .error (.noOperations input.name)
    | some name =>
      let entries ← (host.library.unpack format bytes name).mapError (.ofLibrary input.name)
      return (name, entries)

/-- The record of a member found in an archive. -/
def extracted (member archive : Name) : LogRecord :=
  ⟨.debug, s!"📦 Extracted {String.ofList member} from {String.ofList archive}"⟩

/-- Loads the requests of an archive. Its operations are unpacked into the
directory made at the place `scratch`, and read back from there under the
name they are listed under. -/
def loadArchive (host : Host) (scratch : Place) (folder : Folder) (input : Path) :
    Log × Except LoadFault (List Request) :=
  match unpack host folder input with
  | .error fault => ([], .error fault)
  | .ok (name, entries) =>
    let content :=
      host.read (folder.addDirectory scratch entries) ((Path.mk .slash scratch).join name)
    ([extracted name input.name], content.mapError LoadFault.access >>= ofBytes)

/-- **Loads the requests of an operations file.** The directory that an
archive is unpacked into is removed in the end. -/
def load (host : Host) (folder : Folder) (input : Path) : Log × Except LoadFault (List Request) :=
  if isText input.name then ([], (host.read folder input).mapError LoadFault.access >>= ofBytes)
  else
    match host.scratch with
    | .error fault => ([], .error (.access fault))
    | .ok scratch =>
      let (log, outcome) := loadArchive host scratch folder input
      match host.removal with
      | none => (log, outcome)
      | some fault => (log, .error (.access fault))

end Operations

end Reckoner
