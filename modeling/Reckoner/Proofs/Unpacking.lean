import Reckoner.Proofs.Archives
/-!
# Unpacking

What is read back of a member that was unpacked. A member of a zip archive
is unpacked inside the directory made for it, without the steps to a parent
directory in its name, and looked for under the whole name. Under a plain
name it is found (`Operations.HoldsZip.load_of_isPlain`). Any other name
leads elsewhere: each step up that was left out makes the place looked at
less deep than the place unpacked to (`Folder.length_walk_lt`), and a name
from the top begins there. What it leads to, if anything, is outside the
directory and was there before (`Folder.Fresh.outside_of_find`).
-/

namespace Reckoner

variable {name : Name} {m : Member} {members : List Member}

namespace Folder

variable {f : Folder} {scratch here there : Place} {names : List Name} {bytes : List UInt8}
variable {entry : Entry}

/-! ## How deep a walk leads -/

/-- **Each name leads one deeper at most,** and a step up no deeper. -/
theorem length_walk_le (h : f.walk here names = .ok there) :
    there.length ≤ here.length + (names.filter (· ≠ Path.parentName)).length := by
  induction names generalizing here with
  | nil =>
    rw [walk] at h
    simp [Except.ok.inj h]
  | cons name rest ih =>
    obtain ⟨-, hon⟩ := walk_cons_eq_ok_iff.1 h
    have hlength := ih hon
    by_cases hname : name = Path.parentName
    · rw [Place.step, if_pos hname, List.length_dropLast] at hlength
      rw [List.filter_cons_of_neg (by simpa using hname)]
      omega
    · rw [step_of_ne hname, List.length_append, List.length_singleton] at hlength
      rw [List.filter_cons_of_pos (by simpa using hname), List.length_cons]
      omega

/-- **A step up** leads less deep, where it does not begin at the top. -/
theorem length_walk_lt (hhere : here ≠ []) (hup : Path.parentName ∈ names)
    (h : f.walk here names = .ok there) :
    there.length < here.length + (names.filter (· ≠ Path.parentName)).length := by
  induction names generalizing here with
  | nil => cases hup
  | cons name rest ih =>
    obtain ⟨-, hon⟩ := walk_cons_eq_ok_iff.1 h
    by_cases hname : name = Path.parentName
    · have hlength := length_walk_le hon
      have hpos := List.length_pos_iff.2 hhere
      rw [Place.step, if_pos hname, List.length_dropLast] at hlength
      rw [List.filter_cons_of_neg (by simpa using hname)]
      omega
    · have hrest : Path.parentName ∈ rest :=
        (List.mem_cons.1 hup).resolve_left (Ne.symm hname)
      rw [step_of_ne hname] at hon
      have hlength := ih (by simp) hrest hon
      rw [List.length_append, List.length_singleton] at hlength
      rw [List.filter_cons_of_pos (by simpa using hname), List.length_cons]
      omega

end Folder

open ArchiveFormat

namespace Folder.Fresh

variable {f : Folder} {scratch there : Place} {bytes : List UInt8} {entry : Entry}
variable {entries : List (Place × Entry)}

/-! ## Where a name leads -/

/-- **Under a name that is not plain** a member is looked for less deep than
it is. -/
theorem length_place_join (h : f.Fresh scratch) (hplain : ¬ name.IsPlain)
    (hplace : (f.addDirectory scratch entries).place ((Path.mk .slash scratch).join name) =
      .ok there) :
    there.length < (scratch ++ unpackedPlace name).length := by
  have hnamed := List.length_pos_iff.2 h.named
  rw [Folder.place, Path.join] at hplace
  rw [List.length_append, unpackedPlace]
  by_cases hroot : (Path.ofChars name).root = .relative
  · have hup : Path.parentName ∈ (Path.ofChars name).parts := by
      by_contra hnone
      exact hplain ⟨hroot, hnone⟩
    rw [if_pos hroot] at hplace
    obtain ⟨middle, hmiddle, hon⟩ := walk_append_eq_ok_iff.1 hplace
    obtain rfl : scratch = middle := Except.ok.inj (h.walk_addDirectory.symm.trans hmiddle)
    exact length_walk_lt h.named hup hon
  · -- it begins at the top, and is not led through the directory
    have hstart : (f.addDirectory scratch entries).start (Path.ofChars name).root = [] := by
      cases hcase : (Path.ofChars name).root with
      | relative => exact absurd hcase hroot
      | _ => rfl
    rw [if_neg hroot, hstart] at hplace
    have hlength := length_walk_le hplace
    rw [List.length_nil] at hlength
    omega

/-- **It leads to nothing but what was there before,** outside the
directory, unless to a directory. -/
theorem outside_of_find (h : f.Fresh scratch) (hplain : ¬ name.IsPlain)
    (hentry : entry ≠ .directory)
    (hfind : (f.addDirectory scratch [(unpackedPlace name, .file bytes)]).find
      ((Path.mk .slash scratch).join name) = .ok entry) :
    ∃ there, ¬ scratch <+: there ∧ f.entry? there = some entry := by
  obtain ⟨there, hplace, hthere⟩ := find_eq_ok_iff.1 hfind
  suffices hout : ¬ scratch <+: there from ⟨there, hout, entry?_of_addDirectory hout hentry hthere⟩
  rintro ⟨names, rfl⟩
  by_cases hnames : names = []
  · rw [hnames, List.append_nil, h.entry?_of_prefix List.prefix_rfl] at hthere
    exact hentry (Option.some.inj hthere).symm
  · -- what is below the directory is the member alone, which is deeper
    rw [h.entry?_addDirectory hnames, entry?_eq_some_iff hentry, List.lookup_cons] at hthere
    have hsame : names = unpackedPlace name := by
      by_contra hne
      have hmiss : (names == unpackedPlace name) = false := by simpa using hne
      rw [hmiss] at hthere
      cases hthere
    have hlength := h.length_place_join hplain hplace
    rw [hsame] at hlength
    exact Nat.lt_irrefl _ hlength

end Folder.Fresh

/-! ## Libraries -/

/-- **A library that unpacks the members of a zip archive inside:** it lists
them in order, and puts a text file with a name of its own where its name
leads without the steps up. -/
structure Library.UnpacksInside (library : Library) (bytes : List UInt8)
    (members : List Member) : Prop where
  lists : library.list .zip bytes = .ok (members.map ArchiveFormat.zip.listing)
  unpacks : ∀ m ∈ members, (∀ n ∈ members, (zip.listing n).name = m.name → n = m) →
    isTextName m.name = true → ∀ content, m.content = some content →
      library.unpack .zip bytes m.name = .ok [(unpackedPlace m.name, .file content)]

/-- **A library that goes by a catalogue** is one. -/
theorem Library.unpacksInside_ofCatalogue
    (catalogue : ArchiveFormat → List UInt8 → Option (List Member)) {bytes : List UInt8}
    (h : catalogue .zip bytes = some members) :
    (Library.ofCatalogue catalogue).UnpacksInside bytes members where
  lists := by
    rw [ofCatalogue]
    simp only [h]
  unpacks m hm hunique _ content hcontent := by
    have hmember : zip.member? members m.name = some m :=
      member?_eq_some hm (name_listing_of_content hcontent) hunique
    rw [ofCatalogue]
    simp only [h, Option.bind_some, hmember, unpacked, hcontent, ne_eq, not_true_eq_false,
      false_and, if_false]

namespace Operations

variable {host : Host} {folder : Folder} {scratch : Place} {input : Path}
variable {bytes content : List UInt8} {cs : List Char}

/-! ## Loading from a zip archive -/

/-- **A zip archive** whose names are distinct as they are listed, with a
text in UTF-8 for its first file with the name of one, on a host that can
unpack it. -/
structure HoldsZip (host : Host) (folder : Folder) (scratch : Place) (input : Path)
    (bytes : List UInt8) (members : List Member) (m : Member) (content : List UInt8)
    (cs : List Char) : Prop where
  format_name : ArchiveFormat.ofName? input.name = some .zip
  unpacks : host.Unpacks folder scratch
  read : host.read folder input = .ok bytes
  inside : host.library.UnpacksInside bytes members
  distinct : (members.map fun m => (zip.listing m).name).Nodup
  first : members.find? (fun m => m.content.isSome && isTextName m.name) = some m
  content_eq : m.content = some content
  decoded : Text.Utf8.decode content = .ok cs

namespace HoldsZip

theorem isText_name (h : HoldsZip host folder scratch input bytes members m content cs) :
    isText input.name = false :=
  isText_of_ofName?_eq_some h.format_name

theorem isTextName_name (h : HoldsZip host folder scratch input bytes members m content cs) :
    isTextName m.name = true := by
  have htaken := List.find?_some h.first
  exact (Bool.and_eq_true_iff.1 htaken).2

/-- **The first file with the name of a text** is unpacked, inside the
directory. -/
theorem unpack_eq (h : HoldsZip host folder scratch input bytes members m content cs) :
    unpack host folder input = .ok (m.name, [(unpackedPlace m.name, .file content)]) := by
  have htaken : isTaken .zip = fun m => m.content.isSome && isTextName m.name := by
    funext m
    simp [isTaken]
  have hm : m ∈ members := List.mem_of_find?_eq_some h.first
  have hname : (zip.listing m).name = m.name := name_listing_of_content h.content_eq
  have hunique : ∀ n ∈ members, (zip.listing n).name = m.name → n = m := fun n hn hlisted =>
    List.inj_on_of_nodup_map h.distinct hn hm (hlisted.trans hname.symm)
  have hunpack := h.inside.unpacks m hm hunique h.isTextName_name content h.content_eq
  rw [unpack_of_list h.format_name h.read h.inside.lists, operationsName?_listing, htaken,
    h.first]
  simp only [Option.map_some, hunpack]
  rfl

/-- It is read back under its name as it is. -/
theorem load_eq (h : HoldsZip host folder scratch input bytes members m content cs) :
    load host folder input = ([extracted m.name input.name],
      (host.read (folder.addDirectory scratch [(unpackedPlace m.name, .file content)])
        ((Path.mk .slash scratch).join m.name)).mapError LoadFault.access >>= ofBytes) := by
  rw [load_of_removed h.isText_name h.unpacks.made h.unpacks.removed,
    loadArchive_of_unpack h.unpack_eq]

/-- **Under a plain name** what the member holds is loaded. -/
theorem load_of_isPlain (h : HoldsZip host folder scratch input bytes members m content cs)
    (hplain : m.name.IsPlain) :
    load host folder input = ([extracted m.name input.name], .ok (ofText cs)) := by
  have hfind : (Folder.mk [((Path.ofChars m.name).parts, .file content)] []).find
      (.ofChars m.name) = .ok (.file content) := Folder.find_alone hplain
  rw [← unpackedPlace_of_isPlain hplain] at hfind
  have hread := h.unpacks.read_join hplain (parts_ne_nil_of_isTextName h.isTextName_name) hfind
  rw [h.load_eq, hread]
  simp only [Entry.bytes?, mapError_ok, ok_bind]
  rw [ofBytes, h.decoded]

/-- **Under any other name** something cannot be got at, or what is loaded
was there before, outside the directory. -/
theorem load_of_not_isPlain (h : HoldsZip host folder scratch input bytes members m content cs)
    (hplain : ¬ m.name.IsPlain) :
    (∃ fault, load host folder input =
      ([extracted m.name input.name], .error (.access fault))) ∨
    ∃ there entry other, ¬ scratch <+: there ∧ folder.entry? there = some entry ∧
      entry.bytes? = some other ∧
      load host folder input = ([extracted m.name input.name], ofBytes other) := by
  rw [h.load_eq]
  cases hread : host.read (folder.addDirectory scratch [(unpackedPlace m.name, .file content)])
    ((Path.mk .slash scratch).join m.name) with
  | error fault => exact .inl ⟨fault, rfl⟩
  | ok other =>
    obtain ⟨-, entry, hfind, hother⟩ := Host.read_eq_ok_iff.1 hread
    have hentry : entry ≠ .directory := by
      rintro rfl
      cases hother
    obtain ⟨there, hout, hthere⟩ := h.unpacks.fresh.outside_of_find hplain hentry hfind
    exact .inr ⟨there, entry, other, hout, hthere, hother, rfl⟩

end HoldsZip

/-- **What is loaded from a zip archive** is what its first text holds, if
the name of that is plain. Under any other name it is never that: loading
fails since something cannot be got at, or reads what was outside the
directory to unpack into before anything was unpacked. -/
theorem load_zip (h : HoldsZip host folder scratch input bytes members m content cs) :
    (m.name.IsPlain →
      load host folder input = ([extracted m.name input.name], .ok (ofText cs))) ∧
    (¬ m.name.IsPlain →
      (∃ fault, load host folder input =
        ([extracted m.name input.name], .error (.access fault))) ∨
      ∃ there entry other, ¬ scratch <+: there ∧ folder.entry? there = some entry ∧
        entry.bytes? = some other ∧
        load host folder input = ([extracted m.name input.name], ofBytes other)) :=
  ⟨h.load_of_isPlain, h.load_of_not_isPlain⟩

/-- A member in a folder of its own is loaded. -/
theorem load_zip_nested :
    let m : Member := ⟨"d/ops.txt".toList, some [0x31]⟩
    let members : List Member := [⟨"d".toList, none⟩, m]
    let scratch : Place := ["tmp".toList, "x".toList]
    let host : Host := .ofCatalogue (fun _ _ => some members) scratch
    let folder : Folder :=
      ⟨[(["a.zip".toList], .file [0x50]), (["tmp".toList], .directory)], []⟩
    HoldsZip host folder scratch (.ofChars "a.zip".toList) [0x50] members m [0x31] ['1'] ∧
      load host folder (.ofChars "a.zip".toList) =
        ([extracted m.name "a.zip".toList], .ok (ofText ['1'])) := by
  intro m members scratch host folder
  have hfresh : folder.Fresh scratch := ⟨by decide, by decide, by decide, by decide, by decide⟩
  have hinside : host.library.UnpacksInside [0x50] members :=
    Library.unpacksInside_ofCatalogue (fun _ _ => some members) rfl
  have hholds : HoldsZip host folder scratch (.ofChars "a.zip".toList) [0x50] members m [0x31]
      ['1'] :=
    ⟨rfl, .of_fresh hfresh _, rfl, hinside, by decide, rfl, rfl, rfl⟩
  exact ⟨hholds, (load_zip hholds).1 (by decide)⟩

/-- **A member above its folder** is not loaded, though the archive holds it
alone: where it is looked for nothing is, or another file that is then
loaded. -/
theorem load_zip_above :
    let m : Member := ⟨"../u.txt".toList, some [0x31]⟩
    let scratch : Place := ["tmp".toList, "x".toList]
    let host : Host := .ofCatalogue (fun _ _ => some [m]) scratch
    let entries : List (Place × Entry) :=
      [(["u.zip".toList], .file [0x50]), (["tmp".toList], .directory)]
    let folder : Folder := ⟨entries, []⟩
    let other : Folder := ⟨entries ++ [(["tmp".toList, "u.txt".toList], .file [0x32])], []⟩
    HoldsZip host folder scratch (.ofChars "u.zip".toList) [0x50] [m] m [0x31] ['1'] ∧
      load host folder (.ofChars "u.zip".toList) = ([extracted m.name "u.zip".toList],
        .error (.access ⟨.notFound, some "/tmp/x/../u.txt".toList⟩)) ∧
      HoldsZip host other scratch (.ofChars "u.zip".toList) [0x50] [m] m [0x31] ['1'] ∧
      load host other (.ofChars "u.zip".toList) =
        ([extracted m.name "u.zip".toList], .ok (ofText ['2'])) := by
  intro m scratch host entries folder other
  have hinside : host.library.UnpacksInside [0x50] [m] :=
    Library.unpacksInside_ofCatalogue (fun _ _ => some [m]) rfl
  have hfresh : folder.Fresh scratch := ⟨by decide, by decide, by decide, by decide, by decide⟩
  have hother : other.Fresh scratch := ⟨by decide, by decide, by decide, by decide, by decide⟩
  exact ⟨⟨rfl, .of_fresh hfresh _, rfl, hinside, by decide, rfl, rfl, rfl⟩, rfl,
    ⟨rfl, .of_fresh hother _, rfl, hinside, by decide, rfl, rfl, rfl⟩, rfl⟩

end Operations

end Reckoner
