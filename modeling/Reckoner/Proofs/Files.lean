import Mathlib.Data.List.Basic
import Reckoner.Host
/-!
# Files

What a folder holds once something has been written. A path that leads to a
place where a file can be written leads to the file put there, because
what is passed on the way are directories, and they all stay
(`find_put`). So a file can be written piece by piece (`append_written`),
and the files at other places are found as before (`find_put_of_ne`).
-/

namespace Reckoner

namespace Folder

variable {f : Folder} {place here : Place} {bytes more : List UInt8}

/-! ## Entries -/

/-- Entries elsewhere are looked up as before. -/
theorem lookup_filter_of_ne {entries : List (Place × Entry)} (h : here ≠ place) :
    (entries.filter (·.1 ≠ place)).lookup here = entries.lookup here := by
  induction entries with
  | nil => rfl
  | cons first rest ih =>
    obtain ⟨there, entry⟩ := first
    by_cases hplace : there = place
    · have hne : (here == there) = false := by simpa [hplace] using h
      rw [List.filter_cons_of_neg (by simpa using hplace), List.lookup_cons, hne, ih]
    · rw [List.filter_cons_of_pos (by simpa using hplace), List.lookup_cons, List.lookup_cons, ih]

/-- The entry put there is the only one. -/
theorem lookup_put_self : (f.put place bytes).entries.lookup place = some (.file bytes) := by
  have hnone : (f.entries.filter (·.1 ≠ place)).lookup place = none := by
    rw [List.lookup_eq_none_iff]
    intro e he
    have hne : e.1 ≠ place := by simpa using (List.mem_filter.1 he).2
    simpa using hne.symm
  rw [put, List.lookup_append, hnone]
  simp

theorem lookup_put_of_ne (h : here ≠ place) :
    (f.put place bytes).entries.lookup here = f.entries.lookup here := by
  have hne : (here == place) = false := by simpa using h
  rw [put, List.lookup_append, lookup_filter_of_ne h]
  simp [List.lookup_cons, hne]

theorem entry?_put_self : entry? (f.put place bytes) place = some (.file bytes) := by
  unfold entry?
  rw [lookup_put_self]

/-- What is looked up is the entry there. -/
theorem entry?_of_lookup {entry : Entry} (h : f.entries.lookup here = some entry) :
    f.entry? here = some entry := by
  unfold entry?
  rw [h]

/-- **What is no directory** is an entry of its own. -/
theorem entry?_eq_some_iff {entry : Entry} (h : entry ≠ .directory) :
    f.entry? here = some entry ↔ f.entries.lookup here = some entry := by
  unfold entry?
  cases hlookup : f.entries.lookup here with
  | some entry => rfl
  | none =>
    simp only [reduceCtorEq, iff_false]
    split <;> simp [Ne.symm h]

/-- It is a directory where the place leads to an entry, or to where the
program works. -/
theorem entry?_of_leads (hlookup : f.entries.lookup here = none)
    (h : here <+: f.home ∨ ∃ e ∈ f.entries, here <+: e.1) : f.entry? here = some .directory := by
  unfold entry?
  rw [hlookup]
  refine if_pos ?_
  rw [Bool.or_eq_true, List.isPrefixOf_iff_prefix]
  refine h.imp_right fun ⟨e, he, hto⟩ => ?_
  exact List.any_eq_true.2 ⟨e, he, List.isPrefixOf_iff_prefix.2 hto⟩

/-- And not where it leads nowhere. -/
theorem leads_of_eq_some (hlookup : f.entries.lookup here = none) {entry : Entry}
    (h : f.entry? here = some entry) : here <+: f.home ∨ ∃ e ∈ f.entries, here <+: e.1 := by
  unfold entry? at h
  rw [hlookup] at h
  by_contra hnot
  have hleads :
      ¬ (here.isPrefixOf f.home || f.entries.any fun e => here.isPrefixOf e.1) = true := by
    rw [Bool.or_eq_true, List.isPrefixOf_iff_prefix]
    refine fun hleads => hnot (hleads.imp_right fun hany => ?_)
    obtain ⟨e, he, hto⟩ := List.any_eq_true.1 hany
    exact ⟨e, he, List.isPrefixOf_iff_prefix.1 hto⟩
  simp only [if_neg hleads] at h
  cases h

/-- What leads to an entry leads to it, or to the file put in its place. -/
theorem exists_prefix_put {e : Place × Entry} (he : e ∈ f.entries) (h : here <+: e.1) :
    ∃ e' ∈ (f.put place bytes).entries, here <+: e'.1 := by
  by_cases hplace : e.1 = place
  · exact ⟨(place, .file bytes), List.mem_append_right _ List.mem_cons_self, hplace ▸ h⟩
  · exact ⟨e, List.mem_append_left _ (List.mem_filter.2 ⟨he, by simpa using hplace⟩), h⟩

/-- **Directories stay** where a file is put elsewhere. -/
theorem entry?_put_of_directory (h : f.entry? here = some .directory) (hne : here ≠ place) :
    entry? (f.put place bytes) here = some .directory := by
  cases hlookup : f.entries.lookup here with
  | some entry =>
    have hentry : f.entry? here = some entry := entry?_of_lookup hlookup
    rw [h] at hentry
    cases hentry
    exact entry?_of_lookup ((lookup_put_of_ne hne).trans hlookup)
  | none =>
    -- a directory without an entry of its own is one by what it leads to
    refine entry?_of_leads ((lookup_put_of_ne hne).trans hlookup) ?_
    exact (leads_of_eq_some hlookup h).imp_right fun ⟨_, he, hto⟩ => exists_prefix_put he hto

/-- **Files and devices stay** where a file is put elsewhere, and no others
are there. -/
theorem entry?_put_eq_some_iff {entry : Entry} (hentry : entry ≠ .directory)
    (hne : here ≠ place) :
    entry? (f.put place more) here = some entry ↔ f.entry? here = some entry := by
  rw [entry?_eq_some_iff hentry, entry?_eq_some_iff hentry, lookup_put_of_ne hne]

/-! ## Walks -/

variable {names further : List Name} {there : Place}

/-- **A walk goes on from a directory.** -/
theorem walk_cons_eq_ok_iff {name : Name} :
    f.walk here (name :: names) = .ok there ↔
      f.entry? here = some .directory ∧ f.walk (Place.step here name) names = .ok there := by
  rw [walk]
  cases f.entry? here with
  | none => simp
  | some entry => cases entry <;> simp

/-- A walk over names and further ones is one walk behind another. -/
theorem walk_append_eq_ok_iff :
    f.walk here (names ++ further) = .ok there ↔
      ∃ middle, f.walk here names = .ok middle ∧ f.walk middle further = .ok there := by
  induction names generalizing here with
  | nil => simp [walk]
  | cons name rest ih =>
    rw [List.cons_append, walk_cons_eq_ok_iff]
    simp only [walk_cons_eq_ok_iff, ih, and_assoc, exists_and_left]

/-- Down is where a name leads that is not that of the parent directory. -/
theorem step_of_ne {name : Name} (h : name ≠ Path.parentName) :
    Place.step here name = here ++ [name] := if_neg h

/-- **A walk down** comes to where the names say. -/
theorem eq_of_walk (hplain : Path.parentName ∉ names) (h : f.walk here names = .ok there) :
    there = here ++ names := by
  induction names generalizing here with
  | nil =>
    rw [walk] at h
    rw [← Except.ok.inj h, List.append_nil]
  | cons name rest ih =>
    obtain ⟨hname, hrest⟩ := not_or.1 (mt List.mem_cons.2 hplain)
    obtain ⟨-, hon⟩ := walk_cons_eq_ok_iff.1 h
    rw [step_of_ne (Ne.symm hname)] at hon
    rw [ih hrest hon, List.append_assoc, List.singleton_append]

/-- **And gets there** through directories. -/
theorem walk_of_directories (hplain : Path.parentName ∉ names)
    (hdirectories : ∀ front, front <+: names → front ≠ names →
      f.entry? (here ++ front) = some .directory) :
    f.walk here names = .ok (here ++ names) := by
  induction names generalizing here with
  | nil => rw [walk, List.append_nil]
  | cons name rest ih =>
    obtain ⟨hname, hrest⟩ := not_or.1 (mt List.mem_cons.2 hplain)
    have hentry : f.entry? here = some .directory := by
      simpa using hdirectories [] List.nil_prefix (by simp)
    refine walk_cons_eq_ok_iff.2 ⟨hentry, ?_⟩
    have hstep : ∀ names, here ++ name :: names = (here ++ [name]) ++ names := by simp
    rw [hstep rest, step_of_ne (Ne.symm hname)]
    refine ih hrest fun front hfront hne => ?_
    rw [← hstep front]
    exact hdirectories (name :: front) (List.cons_prefix_cons.2 ⟨rfl, hfront⟩) (by simpa using hne)

/-- A walk passes only directories, which are all there after a file is put
where none was. -/
theorem walk_put (hwalk : f.walk here names = .ok there)
    (h : f.entry? place ≠ some .directory) :
    (f.put place bytes).walk here names = .ok there := by
  induction names generalizing here with
  | nil => exact hwalk
  | cons name rest ih =>
    obtain ⟨hentry, hon⟩ := walk_cons_eq_ok_iff.1 hwalk
    -- the walk stands on a directory, so not on the place of the file
    have hne : here ≠ place := fun heq => h (heq ▸ hentry)
    exact walk_cons_eq_ok_iff.2 ⟨entry?_put_of_directory hentry hne, ih hon⟩

/-! ## Paths -/

theorem place_put {p : Path} (hplace : f.place p = .ok there)
    (h : f.entry? place ≠ some .directory) : (f.put place bytes).place p = .ok there :=
  walk_put hplace h

/-- What is found is the entry at the place a path leads to. -/
theorem find_eq_ok_iff {p : Path} {entry : Entry} :
    f.find p = .ok entry ↔ ∃ there, f.place p = .ok there ∧ f.entry? there = some entry := by
  rw [find]
  cases f.place p with
  | error obstacle => simp [bind, Except.bind]
  | ok there =>
    simp only [bind, Except.bind, Except.ok.injEq, exists_eq_left']
    cases f.entry? there <;> simp

/-- Something can be written where the path leads to a place that is no
directory. -/
theorem writable_eq_ok_iff {p : Path} :
    f.writable p = .ok place ↔ f.place p = .ok place ∧ f.entry? place ≠ some .directory := by
  rw [writable]
  cases f.place p with
  | error obstacle => simp [bind, Except.bind]
  | ok there =>
    simp only [bind, Except.bind]
    constructor
    · intro h
      split at h
      · cases h
      · cases h
        exact ⟨rfl, ‹_›⟩
    · rintro ⟨⟨⟩, hentry⟩
      split
      · exact absurd ‹_› hentry
      · rfl

/-- **A file that is written is found** under the path it was written
to. -/
theorem find_put {p : Path} (h : f.writable p = .ok place) :
    (f.put place bytes).find p = .ok (.file bytes) := by
  obtain ⟨hplace, hentry⟩ := writable_eq_ok_iff.1 h
  exact find_eq_ok_iff.2 ⟨place, place_put hplace hentry, entry?_put_self⟩

/-- **A file stays** where another is written elsewhere. -/
theorem find_put_of_ne {p q : Path} (hwrite : f.writable p = .ok place)
    (hfind : f.find q = .ok (.file bytes)) (hne : f.place q ≠ f.place p) :
    (f.put place more).find q = .ok (.file bytes) := by
  obtain ⟨hplace, hentry⟩ := writable_eq_ok_iff.1 hwrite
  obtain ⟨there, hthere, hfile⟩ := find_eq_ok_iff.1 hfind
  have hother : there ≠ place := fun heq => hne (by rw [hthere, hplace, heq])
  exact find_eq_ok_iff.2
    ⟨there, place_put hthere hentry, (entry?_put_eq_some_iff Entry.noConfusion hother).2 hfile⟩

/-! ## Writing piece by piece -/

/-- **The folder with these bytes written** at a place: they are in the
file there, unless it is a device. -/
def written (f : Folder) (place : Place) (bytes : List UInt8) : Folder :=
  if f.entry? place = some .device then f else f.put place bytes

/-- Of two files put at a place the second is left. -/
theorem put_put : (f.put place bytes).put place more = f.put place more := by
  simp [put, List.filter_append]

/-- At first nothing is written. -/
theorem clear_eq_written : f.clear place = f.written place [] := by
  rw [clear, written]
  split
  next hdevice => rw [if_pos hdevice]
  next hdevice => rw [if_neg hdevice]

/-- **What is written piece by piece** is written as a whole. -/
theorem append_written :
    (f.written place bytes).append place more = f.written place (bytes ++ more) := by
  by_cases hdevice : f.entry? place = some .device
  · rw [written, written, if_pos hdevice, if_pos hdevice, append, hdevice]
  · rw [written, written, if_neg hdevice, if_neg hdevice, append, entry?_put_self]
    exact put_put

/-- What is written to a file is found there. -/
theorem find_written {p : Path} (h : f.writable p = .ok place)
    (hfile : f.entry? place ≠ some .device) :
    (f.written place bytes).find p = .ok (.file bytes) := by
  rw [written, if_neg hfile]
  exact find_put h

/-- Other files stay. -/
theorem find_written_of_ne {p q : Path} (hwrite : f.writable p = .ok place)
    (hfind : f.find q = .ok (.file bytes)) (hne : f.place q ≠ f.place p) :
    (f.written place more).find q = .ok (.file bytes) := by
  rw [written]
  split
  · exact hfind
  · exact find_put_of_ne hwrite hfind hne

end Folder

/-! ## Hosts -/

namespace Host

variable {host : Host} {folder : Folder} {p : Path} {place : Place} {bytes : List UInt8}

/-- **What is read** is what is found, where reading is not refused. -/
theorem read_eq_ok_iff :
    host.read folder p = .ok bytes ↔
      host.unreadable p = none ∧
        ∃ entry, folder.find p = .ok entry ∧ entry.bytes? = some bytes := by
  rw [read]
  cases host.unreadable p with
  | some fault => simp
  | none =>
    cases folder.find p with
    | error obstacle => simp
    | ok entry => cases hbytes : entry.bytes? <;> simp [hbytes]

/-- **What is opened to write** can be written, where its path can be that
of a file and opening it is not refused. -/
theorem target_eq_ok_iff :
    host.target folder p = .ok place ↔
      '\x00' ∉ p.chars ∧ host.unwritable p = none ∧ folder.writable p = .ok place := by
  rw [target]
  split
  next hzero => simp [List.contains_iff_mem.1 hzero]
  next hzero =>
    have hchars : '\x00' ∉ p.chars := fun hmem => hzero (List.contains_iff_mem.2 hmem)
    cases host.unwritable p with
    | some fault => simp
    | none => cases folder.writable p <;> simp [hchars]

theorem writable_of_target (h : host.target folder p = .ok place) :
    folder.writable p = .ok place :=
  (target_eq_ok_iff.1 h).2.2

end Host

end Reckoner
