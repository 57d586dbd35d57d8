import Reckoner.Folder
/-!
# Archives

How the operations are found in an archive: of the members that a library
of archives lists, the first whose name ends in `.txt` is unpacked into a
directory made for it. What archives list, and what unpacking leaves, is
up to the library.
-/

namespace Reckoner

/-- The formats of archives. -/
inductive ArchiveFormat where
  | zip | tarXz | sevenZip
  deriving DecidableEq, Repr

/-- A member as a library lists it. -/
structure Listing where
  name : Name
  isFile : Bool
  deriving DecidableEq, Repr

namespace ArchiveFormat

/-- **The format a name asks for.** The last suffix decides, and with a
compressed tar archive the last two. -/
def ofName? (name : Name) : Option ArchiveFormat :=
  let suffixes := name.suffixes
  if name.suffix = ".zip".toList then some zip
  else if suffixes.drop (suffixes.length - 2) = [".tar".toList, ".xz".toList] then some tarXz
  else if name.suffix = ".7z".toList then some sevenZip
  else none

/-- Whether a member is looked at: of a tar archive the files alone are,
and the others are gone through by name. -/
def looksAt (format : ArchiveFormat) (l : Listing) : Bool :=
  match format with
  | tarXz => l.isFile
  | zip | sevenZip => true

/-- Whether a name is that of a text file. -/
def isTextName (name : Name) : Bool :=
  ".txt".toList.isSuffixOf name

/-- **The name of the member that holds the operations,** if the archive
has one. -/
def operationsName? (format : ArchiveFormat) (listings : List Listing) : Option Name :=
  ((listings.filter format.looksAt).map Listing.name).find? isTextName

end ArchiveFormat

/-- Why a library does not list or unpack. -/
inductive LibraryFault where
  /-- The archive is damaged, or is none of this format. -/
  | corrupt (message : String)
  /-- Something in it cannot be made sense of. -/
  | invalid (message : String)
  /-- Something cannot be got at. -/
  | access (fault : AccessFault)
  deriving DecidableEq, Repr

/-- **A library of archives:** the members it lists of the bytes of an
archive, and what it leaves in a directory when it unpacks the member of a
name into it. -/
structure Library where
  list : ArchiveFormat → List UInt8 → Except LibraryFault (List Listing)
  unpack : ArchiveFormat → List UInt8 → Name → Except LibraryFault (List (Place × Entry))

end Reckoner
