import Reckoner.Path
/-!
# Folders

The files, directories and devices of a system from the top, and the
directory that the program works in. A place is given by the names that
lead to it from the top. Whatever has something below it is a directory,
and so is where the program works. Above the top is the top itself. There
are no links: a place is the one it is called.
-/

namespace Reckoner

/-- What can stand at a place. Nothing comes of reading a device, and
nothing stays of what is written to it. -/
inductive Entry where
  | file (bytes : List UInt8)
  | directory
  | device
  deriving DecidableEq, Repr

/-- What is read of an entry, if it can be read at all. -/
def Entry.bytes? : Entry → Option (List UInt8)
  | file bytes => some bytes
  | device => some []
  | directory => none

/-- A place, from the top. -/
abbrev Place := List Name

/-- Where a name leads from a place: down, or up if it is that of the
parent directory. -/
def Place.step (here : Place) (name : Name) : Place :=
  if name = Path.parentName then here.dropLast else here ++ [name]

/-- Why something cannot be got at: an error of the system by its number
and its name. -/
structure Obstacle where
  number : Nat
  name : String
  deriving DecidableEq, Repr

namespace Obstacle

def notFound : Obstacle := ⟨2, "No such file or directory"⟩
def notDirectory : Obstacle := ⟨20, "Not a directory"⟩
def isDirectory : Obstacle := ⟨21, "Is a directory"⟩
def noSpace : Obstacle := ⟨28, "No space left on device"⟩

/-- The obstacle in words, with its number. -/
def message (o : Obstacle) : String :=
  s!"[Errno {o.number}] {o.name}"

end Obstacle

/-- An obstacle, and the path it was met under if it is one of a path. -/
structure AccessFault where
  obstacle : Obstacle
  path : Option (List Char) := none
  deriving DecidableEq, Repr

/-- The fault in words. -/
def AccessFault.message (f : AccessFault) : String :=
  match f.path with
  | some path => f.obstacle.message ++ ": " ++ Text.quote path
  | none => f.obstacle.message

/-- **A folder:** entries at places, and the place of the directory that
the program works in. -/
structure Folder where
  entries : List (Place × Entry)
  home : Place := []
  deriving DecidableEq, Repr

namespace Folder

/-- The entry at a place. Whatever leads to an entry, or to where the
program works, is a directory. -/
def entry? (f : Folder) (place : Place) : Option Entry :=
  match f.entries.lookup place with
  | some entry => some entry
  | none =>
    if place.isPrefixOf f.home || f.entries.any (fun e => place.isPrefixOf e.1) then
      some .directory
    else none

/-! ## Places of paths -/

/-- Goes on from a place along names, through directories only. What the
last name leads to need not be there. -/
def walk (f : Folder) (here : Place) : List Name → Except Obstacle Place
  | [] => .ok here
  | name :: rest =>
    match f.entry? here with
    | none => .error .notFound
    | some .directory => f.walk (Place.step here name) rest
    | some _ => .error .notDirectory

/-- Where the walk along a path begins. -/
def start (f : Folder) : Root → Place
  | .relative => f.home
  | .slash | .doubleSlash => []

/-- The place of a path. -/
def place (f : Folder) (p : Path) : Except Obstacle Place :=
  f.walk (f.start p.root) p.parts

/-- What a path leads to. -/
def find (f : Folder) (p : Path) : Except Obstacle Entry := do
  match f.entry? (← f.place p) with
  | some entry => .ok entry
  | none => .error .notFound

/-- Whether a path leads to a file. -/
def isFile (f : Folder) (p : Path) : Bool :=
  match f.find p with
  | .ok (.file _) => true
  | .ok _ | .error _ => false

/-- The place at which something can be written under a path. -/
def writable (f : Folder) (p : Path) : Except Obstacle Place := do
  let place ← f.place p
  match f.entry? place with
  | some .directory => .error .isDirectory
  | _ => .ok place

/-! ## Changes -/

/-- Puts a file at a place, whatever stood there. -/
def put (f : Folder) (place : Place) (bytes : List UInt8) : Folder :=
  { f with entries := f.entries.filter (·.1 ≠ place) ++ [(place, .file bytes)] }

/-- Leaves an empty file at a place, or the device that is there. -/
def clear (f : Folder) (place : Place) : Folder :=
  match f.entry? place with
  | some .device => f
  | _ => f.put place []

/-- Writes at the end of the file at a place. -/
def append (f : Folder) (place : Place) (bytes : List UInt8) : Folder :=
  match f.entry? place with
  | some (.file before) => f.put place (before ++ bytes)
  | _ => f

/-- Adds a directory with what is in it. -/
def addDirectory (f : Folder) (place : Place) (entries : List (Place × Entry)) : Folder :=
  { f with entries :=
      f.entries ++ (place, .directory) :: entries.map fun e => (place ++ e.1, e.2) }

/-- **The files of a folder that are new or changed** since it was
another. -/
def changes (f before : Folder) : List (Place × List UInt8) :=
  f.entries.filterMap fun (place, entry) =>
    match entry with
    | .file bytes => if before.entries.lookup place = some entry then none else some (place, bytes)
    | _ => none

/-- The text of a place as a path from where the program works, if it is
there. -/
def textAtHome? (f : Folder) (place : Place) : Option String :=
  if f.home.isPrefixOf place then some (Path.mk .relative (place.drop f.home.length)).text else none

end Folder

end Reckoner
