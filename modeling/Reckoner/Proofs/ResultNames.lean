import Mathlib.Data.List.Forall2
import Mathlib.Data.List.TakeWhile
import Reckoner.Proofs.Names
import Reckoner.Proofs.Status
/-!
# Names of results

Where the results of an operations file go by default. Taking the suffixes
off one by one takes off just what they are together
(`Name.stem_append_suffixes`), so the name of the results is the name with
underscores for dots, those in front left as they are
(`Name.results_eq`).

An underscore can stand for a dot or for itself, and this is all that is
lost: two operations files side by side have results of one name exactly
if their names differ in nothing else (`Path.results?_eq_results?_iff`).
Files of different formats do not.
-/

namespace Reckoner

namespace Name

variable {name other : Name}

/-! ## Taking suffixes off -/

/-- **Suffixes that are not empty** take off as many characters as they
have together. -/
theorem foldl_without {suffixes : List Name} (h : [] ∉ suffixes) (name : Name) :
    suffixes.foldl without name = name.take (name.length - suffixes.flatten.length) := by
  induction suffixes generalizing name with
  | nil => simp
  | cons suffix rest ih =>
    obtain ⟨hsuffix, hrest⟩ := not_or.1 (mt List.mem_cons.2 h)
    have hwithout : name.without suffix = name.take (name.length - suffix.length) := by
      rw [without, if_neg (by simpa using Ne.symm hsuffix)]
    have hlength : (name.without suffix).length = name.length - suffix.length := by
      rw [hwithout, List.length_take, Nat.min_eq_left (Nat.sub_le _ _)]
    rw [List.foldl_cons, ih hrest, hlength, hwithout, List.take_take, List.flatten_cons,
      List.length_append, Nat.min_eq_left (Nat.sub_le _ _), Nat.sub_sub]

/-- No suffix is empty, since each has its dot. -/
theorem nil_notMem_suffixes (name : Name) : [] ∉ name.suffixes := by
  rw [suffixes]
  split
  · exact List.not_mem_nil
  · intro h
    obtain ⟨piece, -, hpiece⟩ := List.mem_map.1 h
    cases hpiece

/-- **All suffixes are taken off, and nothing else:** with them the rest is
the name. -/
theorem stem_append_suffixes (name : Name) :
    name.suffixes.foldl without name ++ name.suffixes.flatten = name := by
  rw [foldl_without name.nil_notMem_suffixes]
  exact List.suffix_iff_eq_append.1 name.flatten_suffixes_suffix

/-! ## Underscores for dots -/

/-- **A name with underscores for dots,** those in front left as they are;
all are left in a name that ends in a dot, which has no suffixes. -/
def underscored (name : Name) : Name :=
  if name.getLast? = some '.' then name
  else name.takeWhile (· = '.') ++ (name.dropWhile (· = '.')).map underscore

theorem length_underscored (name : Name) : name.underscored.length = name.length := by
  rw [underscored]
  split
  · rfl
  · rw [List.length_append, List.length_map, ← List.length_append, List.takeWhile_append_dropWhile]

/-- A piece without a dot has none to replace. -/
theorem map_underscore_of_notMem (h : '.' ∉ name) : name.map underscore = name := by
  have hsame : ∀ c ∈ name, underscore c = id c := by
    intro c hc
    have hdot : c ≠ '.' := fun heq => h (heq ▸ hc)
    exact if_neg hdot
  rw [List.map_congr_left hsame, List.map_id]

/-- **What the suffixes leave of a name** are the dots in front and a piece
without one. -/
theorem exists_stem (h : name.getLast? ≠ some '.') :
    ∃ piece, '.' ∉ piece ∧ name.dropWhile (· = '.') = piece ++ name.suffixes.flatten := by
  obtain ⟨first, rest, hsplit, hname⟩ := exists_splitOn_eq '.' (name.dropWhile (· = '.'))
  refine ⟨first, notMem_of_mem_splitOn (hsplit ▸ List.mem_cons_self), ?_⟩
  rw [suffixes, if_neg h, hsplit, List.drop_one, List.tail_cons]
  exact hname

/-- **The results go under the name with underscores for dots.** -/
theorem results_eq (name : Name) : name.results = name.underscored ++ "_results.txt".toList := by
  have hstem := name.stem_append_suffixes
  rw [results, underscored]
  congr 1
  by_cases hlast : name.getLast? = some '.'
  · have hnone : name.suffixes = [] := if_pos hlast
    rw [if_pos hlast, hnone, List.foldl_nil, List.flatten_nil, List.map_nil, List.append_nil]
  · obtain ⟨piece, hpiece, hrest⟩ := exists_stem hlast
    have hdots := List.takeWhile_append_dropWhile (p := (· = '.')) (l := name)
    rw [hrest, ← List.append_assoc] at hdots
    have hfront := List.append_cancel_right (hstem.trans hdots.symm)
    rw [if_neg hlast, hfront, hrest, List.map_append, map_underscore_of_notMem hpiece,
      List.append_assoc]

/-! ## Names that are mistaken for one another -/

/-- **Two names are alike** if they begin with the same dots, and after
these differ only where one has a dot and the other an underscore. -/
def Alike (name other : Name) : Prop :=
  name.takeWhile (· = '.') = other.takeWhile (· = '.') ∧
    List.Forall₂ (fun c d => c = d ∨ c = '.' ∧ d = '_' ∨ c = '_' ∧ d = '.')
      (name.dropWhile (· = '.')) (other.dropWhile (· = '.'))

theorem underscore_eq_underscore_iff {c d : Char} :
    underscore c = underscore d ↔ c = d ∨ c = '.' ∧ d = '_' ∨ c = '_' ∧ d = '.' := by
  unfold underscore
  split <;> split <;> simp_all [eq_comm]

theorem underscore_ne_dot (c : Char) : underscore c ≠ '.' := by
  unfold underscore
  split <;> simp_all

theorem underscore_underscore (c : Char) : underscore (underscore c) = underscore c := by
  unfold underscore
  split <;> simp_all

/-- The dots in front stay in front, since behind them none is left. -/
theorem takeWhile_underscored (h : name.getLast? ≠ some '.') :
    name.underscored.takeWhile (· = '.') = name.takeWhile (· = '.') := by
  have hnone : ∀ cs : List Char, (cs.map underscore).takeWhile (· = '.') = [] := by
    intro cs
    cases cs with
    | nil => rfl
    | cons c cs =>
      rw [List.map_cons, List.takeWhile_cons_of_neg]
      simpa using underscore_ne_dot c
  have hdots : ∀ c ∈ name.takeWhile (· = '.'), decide (c = '.') = true := by
    intro c hc
    simpa using List.mem_takeWhile_imp hc
  rw [underscored, if_neg h, List.takeWhile_append_of_pos hdots, hnone, List.append_nil]

/-- An underscore put in is as good as one that was there. -/
theorem map_underscore_underscored (name : Name) :
    name.underscored.map underscore = name.map underscore := by
  rw [underscored]
  split
  · rfl
  · have hmap : underscore ∘ underscore = underscore := funext underscore_underscore
    rw [List.map_append, List.map_map, hmap, ← List.map_append, List.takeWhile_append_dropWhile]

/-- **Underscores make the same of two names** exactly if these are
alike. -/
theorem underscored_eq_underscored_iff (hname : name.getLast? ≠ some '.')
    (hother : other.getLast? ≠ some '.') :
    name.underscored = other.underscored ↔ name.Alike other := by
  have hmap : ∀ cs ds : List Char, cs.map underscore = ds.map underscore ↔
      List.Forall₂ (fun c d => c = d ∨ c = '.' ∧ d = '_' ∨ c = '_' ∧ d = '.') cs ds := by
    intro cs ds
    rw [← List.forall₂_eq_eq_eq, List.forall₂_map_left_iff, List.forall₂_map_right_iff]
    simp only [underscore_eq_underscore_iff]
  constructor
  · intro heq
    have hdots : name.takeWhile (· = '.') = other.takeWhile (· = '.') := by
      rw [← takeWhile_underscored hname, heq, takeWhile_underscored hother]
    rw [underscored, underscored, if_neg hname, if_neg hother, hdots] at heq
    exact ⟨hdots, (hmap _ _).1 (List.append_cancel_left heq)⟩
  · rintro ⟨hdots, hrest⟩
    rw [underscored, underscored, if_neg hname, if_neg hother, hdots, (hmap _ _).2 hrest]

/-- The ends of the names of operations files. -/
def extensions : List Name :=
  [".txt".toList, ".zip".toList, ".tar.xz".toList, ".7z".toList]

variable {extension extension' : Name}

/-- The name of an operations file does not end in a dot. -/
theorem getLast?_ne_dot (h : extension ∈ extensions) (hname : extension <:+ name) :
    name.getLast? ≠ some '.' := by
  obtain ⟨front, rfl⟩ := hname
  have hlast : ∀ e ∈ extensions, e ≠ [] ∧ e.getLast? ≠ some '.' := by decide +kernel
  obtain ⟨hne, hdot⟩ := hlast extension h
  rwa [List.getLast?_append_of_ne_nil _ hne]

theorem ne_nil_of_extension (h : extension ∈ extensions) (hname : extension <:+ name) :
    name ≠ [] := by
  rintro rfl
  rw [List.suffix_nil.1 hname] at h
  exact absurd h (by decide)

/-- **Alike names ask for the same format.** -/
theorem extension_eq (hextension : extension ∈ extensions) (hname : extension <:+ name)
    (hextension' : extension' ∈ extensions) (hother : extension' <:+ other)
    (h : name.underscored = other.underscored) : extension = extension' := by
  have hmap : name.map underscore = other.map underscore := by
    rw [← map_underscore_underscored, h, map_underscore_underscored]
  -- with underscores both extensions end one name, and so one ends the other
  have hends : extension.map underscore <:+ name.map underscore := hname.map underscore
  have hends' : extension'.map underscore <:+ name.map underscore := hmap ▸ hother.map underscore
  have hdistinct : ∀ e ∈ extensions, ∀ e' ∈ extensions,
      e.map underscore <:+ e'.map underscore → e = e' := by decide +kernel
  rcases List.suffix_or_suffix_of_suffix hends hends' with hle | hle
  · exact hdistinct _ hextension _ hextension' hle
  · exact (hdistinct _ hextension' _ hextension hle).symm

/-- No name of results is that of the parent directory. -/
theorem results_ne_parentName (name : Name) : name.results ≠ Path.parentName := by
  intro h
  have hlength := congrArg List.length h
  rw [results_eq, List.length_append] at hlength
  simp [Path.parentName] at hlength

end Name

namespace Path

variable {p q : Path}

/-! ## Paths of results -/

@[simp] theorem parent_withName (p : Path) (name : Name) : (p.withName name).parent = p.parent := by
  simp [parent, withName]

@[simp] theorem name_withName (p : Path) (name : Name) : (p.withName name).name = name := by
  simp [Path.name, withName]

/-- **The results of an operations file** go into its folder, under its name
with underscores for the dots that are not in front. Its suffixes are taken
off and no more, and the results are never put in its place. -/
theorem results?_keeps_parent (h : p.name ≠ []) :
    ∃ q, p.results? = some q ∧ q.parent = p.parent ∧
      q.name = p.name.underscored ++ "_results.txt".toList ∧
      p.name.suffixes.foldl Name.without p.name ++ p.name.suffixes.flatten = p.name ∧
      q ≠ p := by
  refine ⟨_, results?_of_name_ne_nil h, parent_withName p _, ?_, p.name.stem_append_suffixes, ?_⟩
  · rw [name_withName, Name.results_eq]
  · intro heq
    have hlength : p.name.results.length = p.name.length := by
      rw [← name_withName p p.name.results, heq]
    rw [Name.results_eq, List.length_append, Name.length_underscored] at hlength
    simp at hlength

/-- A name with dots in front, and with two dots in a row. -/
theorem results?_keeps_parent_dots :
    let p := Path.ofChars "d/..a..b.txt".toList
    p.name ≠ [] ∧ ∃ q, p.results? = some q ∧ q.parent = p.parent ∧
      q.name = "..a__b_txt_results.txt".toList ∧ q ≠ p := by
  intro p
  have hname : p.name ≠ [] := by decide
  obtain ⟨q, hresults, hparent, hq, -, hne⟩ := results?_keeps_parent hname
  exact ⟨hname, q, hresults, hparent, hq, hne⟩

/-! ## Results of two files side by side -/

/-- Different names at the end of a path lead to different places. -/
theorem place_withName_ne {folder : Folder} {name other : Name} {place : Place}
    (hname : name ≠ parentName) (hother : other ≠ parentName) (hne : name ≠ other)
    (h : folder.place (p.withName name) = .ok place) :
    folder.place (p.withName other) ≠ .ok place := by
  have hend : ∀ {last : Name}, last ≠ parentName →
      folder.place (p.withName last) = .ok place → ∃ middle, middle ++ [last] = place := by
    intro last hlast hplace
    obtain ⟨middle, -, hon⟩ := Folder.walk_append_eq_ok_iff.1 hplace
    obtain ⟨-, hthere⟩ := Folder.walk_cons_eq_ok_iff.1 hon
    rw [Folder.step_of_ne hlast] at hthere
    exact ⟨middle, Except.ok.inj hthere⟩
  intro h'
  obtain ⟨middle, hplace⟩ := hend hname h
  obtain ⟨middle', hplace'⟩ := hend hother h'
  exact hne (List.singleton_inj.1 (List.append_inj_right' (hplace.trans hplace'.symm) rfl))

theorem withName_eq_withName (hparent : p.parent = q.parent) {name other : Name} :
    p.withName name = q.withName other ↔ name = other := by
  have hbeside : p.withName other = q.withName other := by
    obtain ⟨hroot, hparts⟩ := Path.mk.inj hparent
    rw [withName, withName, hroot, hparts]
  rw [← hbeside]
  constructor
  · intro heq
    rw [← name_withName p name, heq, name_withName]
  · rintro rfl
    rfl

open CommandLine in
/-- **A run leaves the results of a file beside its own** as they are, if
they go under another name. -/
theorem find_runWith_of_ne (hparent : p.parent = q.parent) (hp : p.name ≠ [])
    (hne : p.name.results ≠ q.name.results) {folder : Folder} {bytes : List UInt8}
    (hfind : folder.find (q.withName q.name.results) = .ok (.file bytes)) (verbose : Bool)
    (host : Host) (stdin : List Char) :
    (runWith ⟨some p, none, verbose⟩ host folder stdin).folder.find
      (q.withName q.name.results) = .ok (.file bytes) := by
  rw [runWith, Arguments.batch?_of_name_ne_nil hp]
  dsimp only
  rw [folder_runBatch]
  obtain hsame | ⟨-, place, written, -, hopen, hwritten⟩ :=
    Batch.folder_run ⟨p, p.withName p.name.results⟩ host folder
  · rw [hsame]
    exact hfind
  · have hwrite := Host.writable_of_target hopen
    have hbeside := (withName_eq_withName hparent).2 (rfl : q.name.results = _)
    rw [hwritten]
    refine Folder.find_written_of_ne hwrite hfind ?_
    rw [(Folder.writable_eq_ok_iff.1 hwrite).1, ← hbeside]
    exact place_withName_ne p.name.results_ne_parentName q.name.results_ne_parentName hne
      (Folder.writable_eq_ok_iff.1 hwrite).1

open CommandLine in
/-- **Two operations files side by side** have results of one path exactly
if their names are alike, and files of different formats never do. Where
the paths are two, a run over one file leaves the results of the other as
they are. -/
theorem results?_eq_results?_iff {extension extension' : Name} (hparent : p.parent = q.parent)
    (hextension : extension ∈ Name.extensions) (hp : extension <:+ p.name)
    (hextension' : extension' ∈ Name.extensions) (hq : extension' <:+ q.name) :
    ∃ p' q', p.results? = some p' ∧ q.results? = some q' ∧
      (p' = q' ↔ p.name.Alike q.name) ∧ (p' = q' → extension = extension') ∧
      (p' ≠ q' → ∀ folder bytes, folder.find q' = .ok (.file bytes) →
        ∀ verbose host stdin,
          (runWith ⟨some p, none, verbose⟩ host folder stdin).folder.find q' =
            .ok (.file bytes)) := by
  have hnamed : p.name ≠ [] := Name.ne_nil_of_extension hextension hp
  have hresults : p.withName p.name.results = q.withName q.name.results ↔
      p.name.underscored = q.name.underscored := by
    rw [withName_eq_withName hparent, Name.results_eq, Name.results_eq, List.append_left_inj]
  refine ⟨_, _, results?_of_name_ne_nil hnamed,
    results?_of_name_ne_nil (Name.ne_nil_of_extension hextension' hq), ?_, ?_, ?_⟩
  · rw [hresults]
    exact Name.underscored_eq_underscored_iff (Name.getLast?_ne_dot hextension hp)
      (Name.getLast?_ne_dot hextension' hq)
  · intro heq
    exact Name.extension_eq hextension hp hextension' hq (hresults.1 heq)
  · intro hne folder bytes hfind verbose host stdin
    have hname : p.name.results ≠ q.name.results := mt (withName_eq_withName hparent).2 hne
    exact find_runWith_of_ne hparent hnamed hname hfind verbose host stdin

/-- A text and an archive of it have results of their own. -/
theorem results?_eq_results?_iff_archive :
    let p := Path.ofChars "d/ops.txt".toList
    let q := Path.ofChars "d/ops.tar.xz".toList
    ∃ p' q', p.results? = some p' ∧ q.results? = some q' ∧ p' ≠ q' := by
  intro p q
  have hp : ".txt".toList <:+ p.name := by decide +kernel
  have hq : ".tar.xz".toList <:+ q.name := by decide +kernel
  have hparent : p.parent = q.parent := by decide +kernel
  obtain ⟨p', q', hp', hq', -, hformat, -⟩ :=
    results?_eq_results?_iff hparent (by decide) hp (by decide) hq
  exact ⟨p', q', hp', hq', fun heq => absurd (hformat heq) (by decide)⟩

open CommandLine in
/-- **Two files have results of one path** where one has a dot for an
underscore of the other, and a run over one writes over the results of the
other. -/
theorem results?_dot_or_underscore :
    let p := Path.ofChars "a.b.txt".toList
    let q := Path.ofChars "a_b.txt".toList
    let host : Host := .ofCatalogue (fun _ _ => none) []
    let folder : Folder := ⟨[(p.parts, .file [0x31]), (q.parts, .file [0x32]),
      (["a_b_txt_results.txt".toList], .file (Text.Utf8.encode "2 = 2.0\n".toList))], []⟩
    p ≠ q ∧ p.parent = q.parent ∧ p.results? = q.results? ∧
      (runWith ⟨some p, none, false⟩ host folder []).folder.find
          (.ofChars "a_b_txt_results.txt".toList) =
        .ok (.file (Text.Utf8.encode "1 = 1.0\n".toList)) := by
  intro p q host folder
  exact ⟨by decide +kernel, by decide +kernel, by decide +kernel, by decide +kernel⟩

end Path

end Reckoner
