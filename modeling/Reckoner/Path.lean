import Reckoner.Text.Quoted
/-!
# Paths

Paths in normal form and the names in them. The suffixes of a name are
what its dots set apart: dots in front set nothing apart, and a name that
ends in a dot has no suffixes. The results of an operations file go
beside it, under a name made from its own.
-/

namespace Reckoner

/-- The name of a file or a directory. -/
abbrev Name := List Char

/-- The pieces of a text between the separators. -/
def splitOn (separator : Char) : List Char → List (List Char)
  | [] => [[]]
  | c :: cs =>
    if c = separator then [] :: splitOn separator cs
    else
      match splitOn separator cs with
      | [] => [[c]]
      | piece :: rest => (c :: piece) :: rest

namespace Name

/-- **The last suffix of a name,** with its dot: what the last dot sets
apart, if something stands on either side of it. -/
def suffix (name : Name) : Name :=
  let tail := (name.reverse.takeWhile (· ≠ '.')).reverse
  match name.reverse.dropWhile (· ≠ '.') with
  | _ :: _ :: _ => if tail.isEmpty then [] else '.' :: tail
  | _ => []

/-- **All suffixes of a name,** each with its dot; one that follows
another dot at once is a dot alone. -/
def suffixes (name : Name) : List Name :=
  if name.getLast? = some '.' then []
  else ((splitOn '.' (name.dropWhile (· = '.'))).drop 1).map ('.' :: ·)

/-- A name without its last characters, as many as a suffix has. An empty
suffix tells no end from the rest, and leaves nothing. -/
def without (name suffix : Name) : Name :=
  if suffix.isEmpty then [] else name.take (name.length - suffix.length)

/-- An underscore for a dot. -/
def underscore (c : Char) : Char :=
  if c = '.' then '_' else c

/-- **The name of the results** of an operations file: the suffixes are
taken off one by one and put back with underscores for dots, so that an
archive and the text it was made from have results of their own. -/
def results (name : Name) : Name :=
  name.suffixes.foldl without name ++ name.suffixes.flatten.map underscore ++
    "_results.txt".toList

end Name

/-- What a path begins with. Two slashes are told from one, and more
count as one. -/
inductive Root where
  | relative | slash | doubleSlash
  deriving DecidableEq, Repr

/-- The text of a root. -/
def Root.chars : Root → List Char
  | relative => []
  | slash => ['/']
  | doubleSlash => ['/', '/']

/-- **A path in normal form:** no part is empty or a single dot. The
parent directory is not resolved. -/
structure Path where
  root : Root
  parts : List Name
  deriving DecidableEq, Repr

namespace Path

/-- The name of the parent directory. -/
def parentName : Name := ['.', '.']

/-- What a text begins with as a path. -/
def rootOf (cs : List Char) : Root :=
  match (cs.takeWhile (· = '/')).length with
  | 0 => .relative
  | 2 => .doubleSlash
  | _ => .slash

/-- The path a text denotes. -/
def ofChars (cs : List Char) : Path where
  root := rootOf cs
  parts := (splitOn '/' cs).filter fun part => part ≠ [] && part ≠ ['.']

/-- The path a text denotes. -/
def ofText (s : String) : Path :=
  ofChars s.toList

/-- The text of a path; one that names nothing is the directory it starts
from. -/
def chars (p : Path) : List Char :=
  match p.root, p.parts with
  | .relative, [] => ['.']
  | root, parts => root.chars ++ ['/'].intercalate parts

/-- The text of a path. -/
def text (p : Path) : String :=
  String.ofList p.chars

/-- The name at the end of a path; empty where it names nothing. -/
def name (p : Path) : Name :=
  p.parts.getLast?.getD []

/-- The path without the name at its end. -/
def parent (p : Path) : Path :=
  { p with parts := p.parts.dropLast }

/-- Puts another name at the end. -/
def withName (p : Path) (name : Name) : Path :=
  { p with parts := p.parts.dropLast ++ [name] }

/-- The path of a name looked up in the directory of a path; a name from
the top is a path by itself. -/
def join (p : Path) (name : Name) : Path :=
  if (ofChars name).root = .relative then { p with parts := p.parts ++ (ofChars name).parts }
  else ofChars name

/-- **Where the results of an operations file go by default;** nowhere if
the path has no name. -/
def results? (p : Path) : Option Path :=
  if p.name.isEmpty then none else some (p.withName p.name.results)

/-- The message for a path that has no name. -/
def namelessMessage (p : Path) : String :=
  s!"PosixPath({Text.quote p.chars}) has an empty name"

end Path

end Reckoner
