import Mathlib.Data.List.Nodup
import Reckoner.Proofs.Encoding
import Reckoner.Proofs.Loading
import Reckoner.Proofs.Names
import Reckoner.Proofs.Scratch
/-!
# Archives

What is loaded from an archive whose members have plain and distinct
names, with any library that lists them in order and unpacks a file under
its name (`Library.Knows`). Of a zip archive and of a tar archive it is the
text of the first file with the name of one, as if that file were loaded
itself; of a 7z archive too, unless a directory with such a name comes
first (`Operations.HoldsArchive.load_eq`, `Operations.find?_isTaken`). Then
it is what unpacking that directory left there.

The member is chosen among what is listed and then unpacked by name. The
names single out the members, so both come to the same one
(`ArchiveFormat.operationsName?_listing`), and what is unpacked is found
under its name (`Host.Unpacks.read_join`). A library that goes by a
catalogue is of that sort (`Library.knows_ofCatalogue`).
-/

namespace Reckoner

variable {name : Name} {m : Member} {members : List Member} {format : ArchiveFormat}

/-! ## A single entry -/

/-- **An entry alone in a folder** is found under a plain name. -/
theorem Folder.find_alone {entry : Entry} (hplain : name.IsPlain) :
    (Folder.mk [((Path.ofChars name).parts, entry)] []).find (.ofChars name) = .ok entry := by
  have hself : entry? ⟨[((Path.ofChars name).parts, entry)], []⟩ (Path.ofChars name).parts =
      some entry := entry?_of_lookup List.lookup_cons_self
  have hwalk : walk ⟨[((Path.ofChars name).parts, entry)], []⟩ [] (Path.ofChars name).parts =
      .ok ([] ++ (Path.ofChars name).parts) := by
    refine walk_of_directories hplain.2 fun front hfront hne => ?_
    -- the entry alone makes directories of what leads to it
    have hmiss : (front == (Path.ofChars name).parts) = false := by simpa using hne
    refine entry?_of_leads ?_ (.inr ⟨_, List.mem_cons_self, hfront⟩)
    rw [List.nil_append, List.lookup_cons, hmiss]
    rfl
  refine find_eq_ok_iff.2 ⟨(Path.ofChars name).parts, ?_, hself⟩
  rw [place, hplain.1]
  exact hwalk

namespace ArchiveFormat

/-! ## Naming a member -/

/-- No text has a name with the mark of a directory at its end. -/
theorem isTextName_append_slash (name : Name) : isTextName (name ++ ['/']) = false := by
  by_contra h
  have hend : ".txt".toList <:+ name ++ ['/'] := by simpa [isTextName] using h
  have hslash : ['/'] <:+ name ++ ['/'] := List.suffix_append _ _
  exact absurd (List.suffix_of_suffix_length_le hslash hend (by decide)) (by decide)

/-- The name of a text leads somewhere. -/
theorem parts_ne_nil_of_isTextName (h : isTextName name = true) :
    (Path.ofChars name).parts ≠ [] := by
  have hend : ".txt".toList <:+ name := by simpa [isTextName] using h
  obtain ⟨piece, hpiece, ht⟩ := exists_mem_splitOn (hend.subset (by decide : 't' ∈ ".txt".toList))
    (by decide : 't' ≠ '/')
  refine List.ne_nil_of_mem (List.mem_filter.2 ⟨hpiece, ?_⟩)
  have hempty : piece ≠ [] := List.ne_nil_of_mem ht
  have hdot : piece ≠ ['.'] := by
    rintro rfl
    exact absurd ht (by decide)
  simp [hempty, hdot]

/-- What is listed under the name of a text is listed under its own name. -/
theorem name_listing (h : isTextName (format.listing m).name = true) :
    (format.listing m).name = m.name := by
  unfold listing at h ⊢
  split at h
  · rw [isTextName_append_slash] at h
    cases h
  · rfl

/-- A file is listed under its own name. -/
theorem name_listing_of_content {content : List UInt8} (h : m.content = some content) :
    (format.listing m).name = m.name := by
  unfold listing
  split
  · next hnone => exact absurd (hnone.symm.trans h) nofun
  · rfl

/-- Whether a member is taken for the operations: its name is that of a
text, and it has content, which a 7z archive is not asked about. -/
def isTaken (format : ArchiveFormat) (m : Member) : Bool :=
  (m.content.isSome || format = .sevenZip) && isTextName m.name

theorem looksAt_and_isTextName (format : ArchiveFormat) (m : Member) :
    (format.looksAt (format.listing m) && isTextName (format.listing m).name) =
      format.isTaken m := by
  obtain ⟨name, content⟩ := m
  cases format <;> cases content <;> simp [looksAt, listing, isTaken, isTextName_append_slash]

theorem isTextName_of_isTaken (h : format.isTaken m = true) : isTextName m.name = true :=
  (Bool.and_eq_true_iff.1 h).2

/-- A member that is taken is listed under its own name. -/
theorem name_listing_of_isTaken (h : format.isTaken m = true) :
    (format.listing m).name = m.name := by
  rw [← looksAt_and_isTextName, Bool.and_eq_true] at h
  exact name_listing h.2

/-- **The name chosen** is that of the first member taken for the
operations. -/
theorem operationsName?_listing (format : ArchiveFormat) (members : List Member) :
    format.operationsName? (members.map format.listing) =
      (members.find? format.isTaken).map Member.name := by
  have htaken : (fun m => decide (format.looksAt (format.listing m) = true ∧
      isTextName (format.listing m).name = true)) = format.isTaken := by
    funext m
    rw [← looksAt_and_isTextName, Bool.decide_and, Bool.decide_eq_true, Bool.decide_eq_true]
  rw [operationsName?, List.filter_map, List.map_map, List.find?_map, List.find?_filter]
  simp only [Function.comp_apply, htaken]
  exact Option.map_congr fun m hm => name_listing_of_isTaken (List.find?_some hm)

/-- A name that is listed for one member finds it, whichever end the search
begins at. -/
theorem member?_eq_some (hm : m ∈ members) (hname : (format.listing m).name = name)
    (hunique : ∀ n ∈ members, (format.listing n).name = name → n = m) :
    format.member? members name = some m := by
  have hfind : ∀ ordered : List Member, (∀ n, n ∈ ordered ↔ n ∈ members) →
      ordered.find? (fun n => (format.listing n).name = name) = some m := by
    intro ordered hmem
    obtain ⟨n, hn⟩ : ∃ n, ordered.find? (fun n => (format.listing n).name = name) = some n := by
      rw [← Option.isSome_iff_exists, List.find?_isSome]
      exact ⟨m, (hmem m).2 hm, by simpa using hname⟩
    have hlisted : (format.listing n).name = name := by simpa using List.find?_some hn
    rw [hn, hunique n ((hmem n).1 (List.mem_of_find?_eq_some hn)) hlisted]
  cases format with
  | sevenZip => exact hfind members fun n => Iff.rfl
  | _ => exact hfind members.reverse fun n => List.mem_reverse

/-- **A plain name** is unpacked where it leads. -/
theorem unpackedPlace_of_isPlain (h : name.IsPlain) :
    unpackedPlace name = (Path.ofChars name).parts := by
  refine List.filter_eq_self.2 fun part hpart => ?_
  simpa using fun heq : part = Path.parentName => h.2 (heq ▸ hpart)

end ArchiveFormat

open ArchiveFormat

/-! ## Libraries -/

/-- **A library knows the members of an archive:** it lists them in order,
and a text file with a plain name of its own is there under that name once
it is unpacked. What is left of a directory is not said. -/
structure Library.Knows (library : Library) (format : ArchiveFormat) (bytes : List UInt8)
    (members : List Member) : Prop where
  lists : library.list format bytes = .ok (members.map format.listing)
  unpacks : ∀ m ∈ members, (∀ n ∈ members, n.name = m.name → n = m) →
    isTextName m.name = true → m.name.IsPlain → ∀ content, m.content = some content →
      ∃ entries, library.unpack format bytes m.name = .ok entries ∧
        (Folder.mk entries []).find (.ofChars m.name) = .ok (.file content)

/-- **A library that goes by a catalogue** knows what is in it. -/
theorem Library.knows_ofCatalogue
    (catalogue : ArchiveFormat → List UInt8 → Option (List Member)) {bytes : List UInt8}
    (h : catalogue format bytes = some members) :
    (Library.ofCatalogue catalogue).Knows format bytes members where
  lists := by
    rw [ofCatalogue]
    simp only [h]
  unpacks m hm hunique htext hplain content hcontent := by
    have hmember : format.member? members m.name = some m := by
      refine member?_eq_some hm (name_listing_of_content hcontent) fun n hn hlisted =>
        hunique n hn ?_
      rw [← hlisted, name_listing (hlisted ▸ htext)]
    have hentry : format.unpacked m = .file content := by
      unfold unpacked
      split <;> simp_all
    refine ⟨[((Path.ofChars m.name).parts, .file content)], ?_, Folder.find_alone hplain⟩
    rw [ofCatalogue]
    simp only [h, Option.bind_some, hmember, hplain, not_true_eq_false, and_false, if_false, hentry,
      unpackedPlace_of_isPlain hplain]

namespace Operations

variable {host : Host} {folder : Folder} {scratch : Place} {input : Path} {bytes : List UInt8}

/-! ## Loading -/

/-- The bytes of the first text file among members. -/
def firstText? (members : List Member) : Option (List UInt8) :=
  members.findSome? fun m => if isTextName m.name then m.content else none

/-- **What is loaded of members:** the requests of their first text
file. -/
def ofMembers (archive : Name) (members : List Member) : Except LoadFault (List Request) :=
  match firstText? members with
  | some bytes => ofBytes bytes
  | none => .error (.noOperations archive)

/-- **An archive** in the format that its name asks for, with members of
plain and distinct names, on a host that can unpack it. -/
structure HoldsArchive (host : Host) (folder : Folder) (scratch : Place) (input : Path)
    (format : ArchiveFormat) (bytes : List UInt8) (members : List Member) : Prop where
  format_name : ArchiveFormat.ofName? input.name = some format
  unpacks : host.Unpacks folder scratch
  read : host.read folder input = .ok bytes
  knows : host.library.Knows format bytes members
  plain : ∀ m ∈ members, m.name.IsPlain
  distinct : (members.map Member.name).Nodup

/-- **What is unpacked under a plain name** is what is loaded, unless it is a
directory. -/
theorem load_of_unpack {entries : List (Place × Entry)} {entry : Entry}
    (htext : isText input.name = false) (hunpacks : host.Unpacks folder scratch)
    (hunpack : unpack host folder input = .ok (name, entries)) (hplain : name.IsPlain)
    (hnamed : (Path.ofChars name).parts ≠ [])
    (hfind : (Folder.mk entries []).find (.ofChars name) = .ok entry) :
    load host folder input = ([extracted name input.name],
      match entry.bytes? with
      | some bytes => ofBytes bytes
      | none =>
        .error (.access ⟨.isDirectory, some ((Path.mk .slash scratch).join name).chars⟩)) := by
  rw [load_of_removed htext hunpacks.made hunpacks.removed, loadArchive_of_unpack hunpack,
    hunpacks.read_join hplain hnamed hfind]
  cases entry.bytes? <;> rfl

namespace HoldsArchive

theorem isText_name (h : HoldsArchive host folder scratch input format bytes members) :
    isText input.name = false :=
  isText_of_ofName?_eq_some h.format_name

/-- Of what is listed the member taken is unpacked. -/
theorem unpack_eq (h : HoldsArchive host folder scratch input format bytes members) :
    unpack host folder input =
      match members.find? format.isTaken with
      | none => .error (.noOperations input.name)
      | some m =>
        (host.library.unpack format bytes m.name).mapError (.ofLibrary input.name) >>=
          fun entries => .ok (m.name, entries) := by
  rw [unpack_of_list h.format_name h.read h.knows.lists, operationsName?_listing]
  cases members.find? format.isTaken <;> rfl

/-- **What is left of the member taken** is what is loaded. -/
theorem load_of_find (h : HoldsArchive host folder scratch input format bytes members)
    (htaken : members.find? format.isTaken = some m) {entries : List (Place × Entry)}
    {entry : Entry} (hunpack : host.library.unpack format bytes m.name = .ok entries)
    (hfind : (Folder.mk entries []).find (.ofChars m.name) = .ok entry) :
    load host folder input = ([extracted m.name input.name],
      match entry.bytes? with
      | some bytes => ofBytes bytes
      | none =>
        .error (.access ⟨.isDirectory, some ((Path.mk .slash scratch).join m.name).chars⟩)) := by
  have hunpacked : unpack host folder input = .ok (m.name, entries) := by
    rw [h.unpack_eq, htaken]
    simp only [hunpack]
    rfl
  have htext := isTextName_of_isTaken (List.find?_some htaken)
  exact load_of_unpack h.isText_name h.unpacks hunpacked
    (h.plain m (List.mem_of_find?_eq_some htaken)) (parts_ne_nil_of_isTextName htext) hfind

/-- **A file that is taken** is loaded as its content. -/
theorem load_eq (h : HoldsArchive host folder scratch input format bytes members)
    (htaken : members.find? format.isTaken = some m) {content : List UInt8}
    (hcontent : m.content = some content) :
    load host folder input = ([extracted m.name input.name], ofBytes content) := by
  have hm : m ∈ members := List.mem_of_find?_eq_some htaken
  have htext := isTextName_of_isTaken (List.find?_some htaken)
  have hunique : ∀ n ∈ members, n.name = m.name → n = m := fun n hn hname =>
    List.inj_on_of_nodup_map h.distinct hn hm hname
  obtain ⟨entries, hunpack, hfind⟩ :=
    h.knows.unpacks m hm hunique htext (h.plain m hm) content hcontent
  exact h.load_of_find htaken hunpack hfind

/-- Nothing is loaded where none is taken. -/
theorem load_of_none (h : HoldsArchive host folder scratch input format bytes members)
    (htaken : members.find? format.isTaken = none) :
    load host folder input = ([], .error (.noOperations input.name)) := by
  have hunpack : unpack host folder input = .error (.noOperations input.name) := by
    rw [h.unpack_eq, htaken]
  rw [load_of_removed h.isText_name h.unpacks.made h.unpacks.removed, loadArchive, hunpack]

end HoldsArchive

/-- Of the members with the name of a text the first is a directory. -/
def DirectoryFirst (members : List Member) : Prop :=
  ∃ m, members.find? (isTextName ·.name) = some m ∧ m.content = none

/-- **The member taken** is the first text file, unless it is from a 7z
archive and a directory comes first. -/
theorem find?_isTaken (h : ¬ (format = .sevenZip ∧ DirectoryFirst members)) :
    (members.find? format.isTaken).map Member.content = (firstText? members).map some := by
  induction members with
  | nil => rfl
  | cons m rest ih =>
    rw [firstText?, List.findSome?_cons]
    by_cases htext : isTextName m.name = true
    · rw [if_pos htext]
      cases hcontent : m.content with
      | some bytes =>
        have htaken : format.isTaken m = true := by simp [isTaken, hcontent, htext]
        rw [List.find?_cons_of_pos htaken, Option.map_some, hcontent]
        rfl
      | none =>
        have hformat : format ≠ .sevenZip := fun hformat =>
          h ⟨hformat, m, List.find?_cons_of_pos htext, hcontent⟩
        have htaken : ¬ format.isTaken m = true := by simp [isTaken, hcontent, hformat]
        rw [List.find?_cons_of_neg htaken]
        exact ih fun hfirst => hformat hfirst.1
    · have htaken : ¬ format.isTaken m = true := by simp [isTaken, htext]
      rw [if_neg htext, List.find?_cons_of_neg htaken]
      refine ih fun ⟨hformat, n, hfind, hcontent⟩ => h ⟨hformat, n, ?_, hcontent⟩
      rw [List.find?_cons, Bool.eq_false_iff.2 htext]
      exact hfind

/-- A 7z archive is not asked for content. -/
theorem isTaken_sevenZip : isTaken .sevenZip = fun m => isTextName m.name := by
  funext m
  simp [isTaken]

/-- **An archive is loaded as its first text file,** and fails for want of
one if there is none, in all formats but for a 7z archive where a directory
with the name of a text comes before any such file. Then that directory is
unpacked, and not the file: loading fails where a directory is left there,
and gives nothing where an empty file is. The text file by itself is loaded
as the same. -/
theorem load_archive (h : HoldsArchive host folder scratch input format bytes members) :
    (¬ (format = .sevenZip ∧ DirectoryFirst members) →
      (load host folder input).2 = ofMembers input.name members) ∧
    (∀ m, members.find? (isTextName ·.name) = some m → m.content = none → format = .sevenZip →
      ∀ entries, host.library.unpack format bytes m.name = .ok entries →
        ((Folder.mk entries []).find (.ofChars m.name) = .ok .directory →
          load host folder input = ([extracted m.name input.name], .error (.access
            ⟨.isDirectory, some ((Path.mk .slash scratch).join m.name).chars⟩))) ∧
        ((Folder.mk entries []).find (.ofChars m.name) = .ok (.file []) →
          load host folder input = ([extracted m.name input.name], .ok []))) ∧
    (∀ content, firstText? members = some content → ∀ host' folder' input',
      isText input'.name = true → host'.read folder' input' = .ok content →
      load host' folder' input' = ([], ofMembers input.name members)) := by
  refine ⟨?_, ?_, ?_⟩
  · intro hfirst
    have hcontent := find?_isTaken hfirst
    rw [ofMembers]
    cases htaken : members.find? format.isTaken with
    | none =>
      rw [htaken] at hcontent
      rw [h.load_of_none htaken, Option.map_eq_none_iff.1 hcontent.symm]
    | some m =>
      rw [htaken] at hcontent
      obtain ⟨content, hfound, heq⟩ := Option.map_eq_some_iff.1 hcontent.symm
      rw [h.load_eq htaken heq.symm, hfound]
  · rintro m hfind hcontent rfl entries hunpack
    have htaken : members.find? (isTaken .sevenZip) = some m := by
      rw [isTaken_sevenZip, hfind]
    exact ⟨fun hleft => h.load_of_find htaken hunpack hleft,
      fun hleft => h.load_of_find htaken hunpack hleft⟩
  · intro content hcontent host' folder' input' htext hread
    rw [load_of_file htext hread, ofMembers, hcontent]

/-- A zip archive with a directory before its text file is loaded as the
file is by itself. -/
theorem load_archive_zip :
    let content := Text.Utf8.encode "1+2\n".toList
    let members : List Member := [⟨"x.txt".toList, none⟩, ⟨"ops.txt".toList, some content⟩]
    let host : Host := .ofCatalogue (fun _ _ => some members) ["t".toList]
    let folder : Folder :=
      ⟨[(["a.zip".toList], .file [0x50]), (["a.txt".toList], .file content)], []⟩
    HoldsArchive host folder ["t".toList] (.ofChars "a.zip".toList) .zip [0x50] members ∧
      (load host folder (.ofChars "a.zip".toList)).2 = ofMembers "a.zip".toList members ∧
      load host folder (.ofChars "a.txt".toList) = ([], ofMembers "a.zip".toList members) := by
  intro content members host folder
  have hfresh : folder.Fresh ["t".toList] :=
    ⟨by decide, by decide, by decide, by decide, by decide⟩
  have hknows : host.library.Knows .zip [0x50] members :=
    Library.knows_ofCatalogue (fun _ _ => some members) rfl
  have hholds : HoldsArchive host folder ["t".toList] (.ofChars "a.zip".toList) .zip [0x50]
      members :=
    ⟨rfl, .of_fresh hfresh _, rfl, hknows, by decide, by decide⟩
  obtain ⟨hfirst, -, htext⟩ := load_archive hholds
  exact ⟨hholds, hfirst nofun, htext content rfl host folder (.ofChars "a.txt".toList) rfl rfl⟩

/-- **The formats differ:** with the same members as in a zip archive and a
tar archive, which are loaded as the text file, of a 7z archive nothing is
loaded, since the directory before the file is unpacked. -/
theorem load_archive_directory_first :
    let content := Text.Utf8.encode "1+2\n".toList
    let members : List Member := [⟨"x.txt".toList, none⟩, ⟨"ops.txt".toList, some content⟩]
    let host : Host := .ofCatalogue (fun _ _ => some members) ["t".toList]
    let folder : Folder := ⟨[(["a.zip".toList], .file []), (["a.tar.xz".toList], .file []),
      (["a.7z".toList], .file [])], []⟩
    (load host folder (.ofChars "a.zip".toList)).2 = .ok (ofText "1+2\n".toList) ∧
      (load host folder (.ofChars "a.tar.xz".toList)).2 = .ok (ofText "1+2\n".toList) ∧
      load host folder (.ofChars "a.7z".toList) =
        ([extracted "x.txt".toList "a.7z".toList], .ok []) ∧
      ofText "1+2\n".toList ≠ [] := by
  intro content members host folder
  have hcontent : ofBytes content = .ok (ofText "1+2\n".toList) := by
    rw [ofBytes, Text.Utf8.decode_encode]
  exact ⟨hcontent, hcontent, rfl, List.cons_ne_nil _ _⟩

end Operations

end Reckoner
