import Reckoner.Catalogue
import Reckoner.Proofs.Files
/-!
# Directories to unpack into

What a directory that is made to unpack into adds to a folder, where
nothing was before (`Folder.Fresh`). Below its place there is what was
unpacked and nothing else (`Fresh.entry?_addDirectory`), and elsewhere
everything is as before (`entry?_of_addDirectory`). So under a plain name
there is found in it what was unpacked under that name
(`Fresh.find_join`).
-/

namespace Reckoner

namespace Folder

variable {f : Folder} {scratch here there : Place} {names : List Name}
variable {entries : List (Place × Entry)} {entry : Entry}

/-- **A place for a directory to unpack into:** directories lead to it,
nothing stands there or below, and the program works elsewhere. -/
structure Fresh (f : Folder) (scratch : Place) : Prop where
  named : scratch ≠ []
  plain : Path.parentName ∉ scratch
  leading : ∀ n < scratch.length, f.entry? (scratch.take n) = some .directory
  empty : ∀ e ∈ f.entries, ¬ scratch <+: e.1
  away : ¬ scratch <+: f.home

/-! ## Entries -/

/-- What is unpacked stands at its place below the directory. -/
theorem lookup_below :
    (entries.map fun e => (scratch ++ e.1, e.2)).lookup (scratch ++ names) =
      entries.lookup names := by
  induction entries with
  | nil => rfl
  | cons first rest ih =>
    have hsame : (scratch ++ names == scratch ++ first.1) = (names == first.1) := by
      rw [Bool.eq_iff_iff, beq_iff_eq, beq_iff_eq, List.append_cancel_left_eq]
    rw [List.map_cons, List.lookup_cons, List.lookup_cons, hsame, ih]

/-- **Nothing is added** but the directory and what is below it. -/
theorem lookup_addDirectory_of_not_prefix (h : ¬ scratch <+: here) :
    (f.addDirectory scratch entries).entries.lookup here = f.entries.lookup here := by
  have hnone : ((scratch, Entry.directory) ::
      entries.map fun e => (scratch ++ e.1, e.2)).lookup here = none := by
    rw [List.lookup_eq_none_iff]
    have hne : ∀ names, here ≠ scratch ++ names := fun names heq => h ⟨names, heq.symm⟩
    intro e he
    rcases List.mem_cons.1 he with rfl | hmem
    · simpa using hne []
    · obtain ⟨e, -, rfl⟩ := List.mem_map.1 hmem
      simpa using hne e.1
  rw [addDirectory, List.lookup_append, hnone, Option.or_none]

/-- So files and devices elsewhere were there before. -/
theorem entry?_of_addDirectory (h : ¬ scratch <+: here) (hentry : entry ≠ .directory)
    (hthere : Folder.entry? (f.addDirectory scratch entries) here = some entry) :
    f.entry? here = some entry := by
  rw [entry?_eq_some_iff hentry, lookup_addDirectory_of_not_prefix h] at hthere
  exact (entry?_eq_some_iff hentry).2 hthere

namespace Fresh

/-- No entry was there or below before. -/
theorem lookup_eq_none (h : f.Fresh scratch) (hbelow : scratch <+: here) :
    f.entries.lookup here = none := by
  rw [List.lookup_eq_none_iff]
  intro e he
  simpa using fun heq : here = e.1 => h.empty e he (heq ▸ hbelow)

theorem lookup_addDirectory (h : f.Fresh scratch) (hne : names ≠ []) :
    (f.addDirectory scratch entries).entries.lookup (scratch ++ names) =
      entries.lookup names := by
  have hbefore := h.lookup_eq_none (List.prefix_append scratch names)
  have hself : (scratch ++ names == scratch) = false := by simpa using hne
  rw [addDirectory, List.lookup_append, hbefore, Option.none_or, List.lookup_cons, hself]
  exact lookup_below

/-- **Below the directory** there is what was unpacked, as if it stood
alone. -/
theorem entry?_addDirectory (h : f.Fresh scratch) (hne : names ≠ []) :
    Folder.entry? (f.addDirectory scratch entries) (scratch ++ names) =
      Folder.entry? ⟨entries, []⟩ names := by
  unfold entry?
  rw [h.lookup_addDirectory hne]
  have hprefix : (scratch ++ names).isPrefixOf f.home = false := by
    rw [← Bool.not_eq_true, List.isPrefixOf_iff_prefix]
    exact fun hto => h.away ((List.prefix_append _ _).trans hto)
  have hbefore : (f.entries.any fun e => (scratch ++ names).isPrefixOf e.1) = false := by
    rw [List.any_eq_false]
    intro e he hto
    exact h.empty e he ((List.prefix_append _ _).trans (List.isPrefixOf_iff_prefix.1 hto))
  have hself : (scratch ++ names).isPrefixOf scratch = false := by
    rw [← Bool.not_eq_true, List.isPrefixOf_iff_prefix]
    intro hto
    exact hne (List.append_right_eq_self.1 (hto.eq_of_length_le (by simp)))
  have halone : names.isPrefixOf ([] : Place) = false := by
    cases names with
    | nil => exact absurd rfl hne
    | cons name rest => rfl
  have hbelow : ∀ e : Place × Entry,
      (scratch ++ names).isPrefixOf (scratch ++ e.1) = names.isPrefixOf e.1 := by
    intro e
    rw [Bool.eq_iff_iff, List.isPrefixOf_iff_prefix, List.isPrefixOf_iff_prefix,
      List.prefix_append_right_inj]
  simp only [addDirectory, hprefix, hbefore, hself, halone, hbelow, List.any_append, List.any_cons,
    List.any_map, Function.comp_def, Bool.false_or]

/-- The directory is there, and what leads to it. -/
theorem entry?_of_prefix (h : f.Fresh scratch) (hfront : here <+: scratch) :
    Folder.entry? (f.addDirectory scratch entries) here = some .directory := by
  by_cases hself : here = scratch
  · subst hself
    refine entry?_of_lookup ?_
    rw [addDirectory, List.lookup_append, h.lookup_eq_none List.prefix_rfl, Option.none_or,
      List.lookup_cons_self]
  · have hnot : ¬ scratch <+: here := fun hto =>
      hself (hfront.eq_of_length_le hto.length_le)
    have hshort : here.length < scratch.length :=
      Nat.lt_of_le_of_ne hfront.length_le fun heq => hself (hfront.eq_of_length heq)
    have hbefore := h.leading here.length hshort
    rw [← List.prefix_iff_eq_take.1 hfront] at hbefore
    have hlookup : (f.addDirectory scratch entries).entries.lookup here =
        f.entries.lookup here := lookup_addDirectory_of_not_prefix hnot
    cases hthere : f.entries.lookup here with
    | some entry =>
      have hsome : f.entry? here = some entry := entry?_of_lookup hthere
      rw [hbefore] at hsome
      cases hsome
      exact entry?_of_lookup (hlookup.trans hthere)
    | none =>
      refine entry?_of_leads (hlookup.trans hthere) (.inr ⟨(scratch, .directory), ?_, hfront⟩)
      exact List.mem_append_right _ List.mem_cons_self

/-! ## Paths -/

/-- Its path leads to the directory. -/
theorem walk_addDirectory (h : f.Fresh scratch) :
    (f.addDirectory scratch entries).walk [] scratch = .ok scratch :=
  walk_of_directories h.plain fun _ hfront _ => h.entry?_of_prefix hfront

/-- **A walk among what was unpacked** is one below the directory. -/
theorem walk_below (h : f.Fresh scratch) (hplain : Path.parentName ∉ names)
    (hwalk : (Folder.mk entries []).walk here names = .ok there) :
    (f.addDirectory scratch entries).walk (scratch ++ here) names = .ok (scratch ++ there) := by
  induction names generalizing here with
  | nil =>
    rw [walk] at hwalk
    rw [walk, Except.ok.inj hwalk]
  | cons name rest ih =>
    obtain ⟨hname, hrest⟩ := not_or.1 (mt List.mem_cons.2 hplain)
    obtain ⟨hentry, hon⟩ := walk_cons_eq_ok_iff.1 hwalk
    have hdirectory : Folder.entry? (f.addDirectory scratch entries) (scratch ++ here) =
        some .directory := by
      by_cases hhere : here = []
      · rw [hhere, List.append_nil]
        exact h.entry?_of_prefix List.prefix_rfl
      · rw [h.entry?_addDirectory hhere, hentry]
    rw [step_of_ne (Ne.symm hname)] at hon
    refine walk_cons_eq_ok_iff.2 ⟨hdirectory, ?_⟩
    rw [step_of_ne (Ne.symm hname), List.append_assoc]
    exact ih hrest hon

/-- **Under a plain name** there is found in the directory what was unpacked
under it. -/
theorem find_join (h : f.Fresh scratch) {name : Name} (hplain : name.IsPlain)
    (hnamed : (Path.ofChars name).parts ≠ [])
    (hfind : (Folder.mk entries []).find (.ofChars name) = .ok entry) :
    (f.addDirectory scratch entries).find ((Path.mk .slash scratch).join name) = .ok entry := by
  obtain ⟨there, hplace, hentry⟩ := find_eq_ok_iff.1 hfind
  have hplace : (Folder.mk entries []).walk [] (Path.ofChars name).parts = .ok there := by
    rwa [place, hplain.1] at hplace
  have hthere : there = (Path.ofChars name).parts := eq_of_walk hplain.2 hplace
  have hbelow := h.walk_below hplain.2 hplace
  rw [List.append_nil] at hbelow
  refine find_eq_ok_iff.2 ⟨scratch ++ there, ?_, ?_⟩
  · rw [Path.join, if_pos hplain.1]
    exact walk_append_eq_ok_iff.2 ⟨scratch, h.walk_addDirectory, hbelow⟩
  · rw [h.entry?_addDirectory (hthere ▸ hnamed), hentry]

end Fresh

end Folder

/-! ## Hosts that unpack -/

/-- **A host on which archives are unpacked:** the directory for it is made
at a place where nothing was, whatever is put there can be read, and it is
removed in the end. -/
structure Host.Unpacks (host : Host) (folder : Folder) (scratch : Place) : Prop where
  made : host.scratch = .ok scratch
  fresh : folder.Fresh scratch
  readable : ∀ names, host.unreadable ⟨.slash, scratch ++ names⟩ = none
  removed : host.removal = none

namespace Host.Unpacks

variable {host : Host} {folder : Folder} {scratch : Place} {name : Name}
variable {entries : List (Place × Entry)} {entry : Entry}

/-- A host on which nothing goes wrong is one. -/
theorem of_fresh (h : folder.Fresh scratch)
    (catalogue : ArchiveFormat → List UInt8 → Option (List Member)) :
    (Host.ofCatalogue catalogue scratch).Unpacks folder scratch :=
  ⟨rfl, h, fun _ => rfl, rfl⟩

/-- **What was unpacked is read back** under a plain name, unless it is a
directory. -/
theorem read_join (h : host.Unpacks folder scratch) (hplain : name.IsPlain)
    (hnamed : (Path.ofChars name).parts ≠ [])
    (hfind : (Folder.mk entries []).find (.ofChars name) = .ok entry) :
    host.read (folder.addDirectory scratch entries) ((Path.mk .slash scratch).join name) =
      match entry.bytes? with
      | some bytes => .ok bytes
      | none => .error ⟨.isDirectory, some ((Path.mk .slash scratch).join name).chars⟩ := by
  have hreadable : host.unreadable ((Path.mk .slash scratch).join name) = none := by
    rw [Path.join, if_pos hplain.1]
    exact h.readable _
  have hfound := h.fresh.find_join hplain hnamed hfind
  cases hbytes : entry.bytes? with
  | some bytes => exact Host.read_eq_ok_iff.2 ⟨hreadable, entry, hfound, hbytes⟩
  | none =>
    rw [Host.read, hreadable, hfound]
    simp only [hbytes]

end Host.Unpacks

end Reckoner
