import Reckoner.Archive
/-!
# Hosts

What a run has to take as it comes: whatever is in a folder, opening it can
be refused, there can be no directory to unpack into, and a line need not
get into its file. The host of a run says what goes wrong where, and brings
the library that knows archives.
-/

namespace Reckoner

/-- Why a path cannot be opened to write there. -/
inductive OpenFault where
  /-- It holds the character of code zero, which is in no name. -/
  | zero
  /-- Something cannot be got at. -/
  | access (fault : AccessFault)
  deriving DecidableEq, Repr

/-- The fault in words. -/
def OpenFault.message : OpenFault → String
  | zero => "embedded null byte"
  | access fault => fault.message

/-- A line that does not get into its file: what goes wrong, and how many
of its bytes do get there. -/
structure Spill where
  fault : AccessFault
  kept : Nat
  deriving DecidableEq, Repr

/-- **A host.** If nothing is said, nothing goes wrong. -/
structure Host where
  /-- What knows archives. -/
  library : Library
  /-- The place of the directory that is made to unpack into. -/
  scratch : Except AccessFault Place
  /-- What goes wrong when that directory is removed. -/
  removal : Option AccessFault := none
  /-- What goes wrong when a path is opened to read what is there. -/
  unreadable : Path → Option AccessFault := fun _ => none
  /-- What goes wrong when a path is opened to write there. -/
  unwritable : Path → Option AccessFault := fun _ => none
  /-- What goes wrong with a line that is written to a path, after so many
  others. -/
  spill : Path → Nat → Option Spill := fun _ _ => none
  /-- What goes wrong when what was written to a path is closed. -/
  unclosed : Path → Option AccessFault := fun _ => none

namespace Host

/-- What is read under a path. -/
def read (host : Host) (folder : Folder) (p : Path) : Except AccessFault (List UInt8) :=
  match host.unreadable p with
  | some fault => .error fault
  | none =>
    match folder.find p with
    | .ok entry =>
      match entry.bytes? with
      | some bytes => .ok bytes
      | none => .error ⟨.isDirectory, some p.chars⟩
    | .error obstacle => .error ⟨obstacle, some p.chars⟩

/-- The place that is opened to write under a path. The path is looked at
before anything else. -/
def target (host : Host) (folder : Folder) (p : Path) : Except OpenFault Place :=
  if p.chars.contains '\x00' then .error .zero
  else
    match host.unwritable p with
    | some fault => .error (.access fault)
    | none =>
      match folder.writable p with
      | .ok place => .ok place
      | .error obstacle => .error (.access ⟨obstacle, some p.chars⟩)

end Host

end Reckoner
