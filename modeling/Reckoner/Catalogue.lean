import Reckoner.Host
/-!
# Catalogues

A library that goes by a catalogue: it is told of the bytes of an archive
which members they hold. What archives of a format do alike is fixed here
by what is seen of them; a run may be given any other library.
-/

namespace Reckoner

/-- A member of an archive; a directory has no content. -/
structure Member where
  name : Name
  content : Option (List UInt8)
  deriving DecidableEq, Repr

/-- **A plain name** leads down from where it stands. -/
def Name.IsPlain (name : Name) : Prop :=
  (Path.ofChars name).root = .relative ∧ Path.parentName ∉ (Path.ofChars name).parts

instance (name : Name) : Decidable name.IsPlain :=
  inferInstanceAs (Decidable (_ ∧ _))

namespace ArchiveFormat

/-- What is said of bytes that are not in this format. -/
def mismatch : ArchiveFormat → String
  | zip => "File is not a zip file"
  | tarXz => "not an lzma file"
  | sevenZip => "not a 7z file"

/-- How a member is listed: a zip archive marks a directory with a slash at
the end of its name. -/
def listing (format : ArchiveFormat) (m : Member) : Listing :=
  match format, m.content with
  | zip, none => ⟨m.name ++ ['/'], false⟩
  | _, content => ⟨m.name, content.isSome⟩

/-- The member listed under a name: the last of that name, as the most
recent, but the first of a 7z archive. -/
def member? (format : ArchiveFormat) (members : List Member) (name : Name) : Option Member :=
  let ordered := match format with
    | sevenZip => members
    | zip | tarXz => members.reverse
  ordered.find? fun m => (format.listing m).name = name

/-- Where a member is unpacked: nothing is unpacked outside the directory,
and what leads to the parent directory is left out of the name. -/
def unpackedPlace (name : Name) : Place :=
  (Path.ofChars name).parts.filter (· ≠ Path.parentName)

/-- What a member is unpacked as. A 7z archive does not tell a directory
from a file that is empty. -/
def unpacked (format : ArchiveFormat) (m : Member) : Entry :=
  match format, m.content with
  | _, some bytes => .file bytes
  | sevenZip, none => .file []
  | zip, none | tarXz, none => .directory

end ArchiveFormat

/-- **A library that goes by a catalogue.** A name that is not plain is
refused, but for one in a zip archive. -/
def Library.ofCatalogue (catalogue : ArchiveFormat → List UInt8 → Option (List Member)) :
    Library where
  list format bytes :=
    match catalogue format bytes with
    | some members => .ok (members.map format.listing)
    | none => .error (.corrupt format.mismatch)
  unpack format bytes name :=
    match (catalogue format bytes).bind (format.member? · name) with
    | some m =>
      if format ≠ .zip ∧ ¬ m.name.IsPlain then
        .error (.corrupt (Text.quote m.name ++ " is outside the destination"))
      else .ok [(ArchiveFormat.unpackedPlace m.name, format.unpacked m)]
    | none => .error (.corrupt format.mismatch)

/-- **A host on which nothing goes wrong,** whose library goes by a
catalogue. -/
def Host.ofCatalogue (catalogue : ArchiveFormat → List UInt8 → Option (List Member))
    (scratch : Place) : Host where
  library := .ofCatalogue catalogue
  scratch := .ok scratch

end Reckoner
