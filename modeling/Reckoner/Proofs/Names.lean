import Mathlib.Data.List.Basic
import Reckoner.Operations
/-!
# Names

The suffixes of a name are its end: the last one by itself
(`Name.suffix_suffix`), and all of them together
(`Name.flatten_suffixes_suffix`), since what is split at the dots is put
together again by them (`exists_splitOn_eq`). So no name asks for a text
and for an archive at once.
-/

namespace Reckoner

variable {name : Name}

/-! ## Splitting -/

/-- **The pieces of a text** and the separators between them make the
text. -/
theorem exists_splitOn_eq (separator : Char) (cs : List Char) :
    ∃ first rest, splitOn separator cs = first :: rest ∧
      cs = first ++ (rest.map (separator :: ·)).flatten := by
  induction cs with
  | nil => exact ⟨[], [], rfl, rfl⟩
  | cons c cs ih =>
    obtain ⟨first, rest, hsplit, hcs⟩ := ih
    rw [splitOn, hsplit]
    by_cases hc : c = separator
    · refine ⟨[], first :: rest, if_pos hc, ?_⟩
      rw [hc, List.map_cons, List.flatten_cons, List.nil_append, List.cons_append, ← hcs]
    · refine ⟨c :: first, rest, if_neg hc, ?_⟩
      rw [List.cons_append, ← hcs]

/-- No piece holds the separator. -/
theorem notMem_of_mem_splitOn {separator : Char} {cs piece : List Char}
    (h : piece ∈ splitOn separator cs) : separator ∉ piece := by
  induction cs generalizing piece with
  | nil => simp [List.mem_singleton.1 h]
  | cons c cs ih =>
    obtain ⟨first, rest, hsplit, -⟩ := exists_splitOn_eq separator cs
    rw [splitOn, hsplit] at h
    rw [hsplit] at ih
    by_cases hc : c = separator
    · rw [if_pos hc] at h
      rcases List.mem_cons.1 h with rfl | hmem
      · exact List.not_mem_nil
      · exact ih hmem
    · rw [if_neg hc] at h
      rcases List.mem_cons.1 h with rfl | hmem
      · exact List.not_mem_cons_of_ne_of_not_mem (Ne.symm hc) (ih List.mem_cons_self)
      · exact ih (List.mem_cons_of_mem _ hmem)

/-- Any other character of the text is in a piece. -/
theorem exists_mem_splitOn {separator c : Char} {cs : List Char} (h : c ∈ cs)
    (hc : c ≠ separator) : ∃ piece ∈ splitOn separator cs, c ∈ piece := by
  obtain ⟨first, rest, hsplit, hcs⟩ := exists_splitOn_eq separator cs
  rw [hsplit]
  rw [hcs, List.mem_append, List.mem_flatten] at h
  rcases h with hfirst | ⟨_, hmarked, hrest⟩
  · exact ⟨first, List.mem_cons_self, hfirst⟩
  · obtain ⟨piece, hpiece, rfl⟩ := List.mem_map.1 hmarked
    exact ⟨piece, List.mem_cons_of_mem _ hpiece, List.mem_of_ne_of_mem hc hrest⟩

namespace Name

/-! ## Suffixes -/

/-- **The last suffix** is the end of a name. -/
theorem suffix_suffix (name : Name) : name.suffix <:+ name := by
  have hname : (name.reverse.dropWhile (· ≠ '.')).reverse ++
      (name.reverse.takeWhile (· ≠ '.')).reverse = name := by
    rw [← List.reverse_append, List.takeWhile_append_dropWhile, List.reverse_reverse]
  rw [suffix]
  split
  · next dot before front hdrop =>
    have hdot : dot = '.' := by
      have hhead := List.head?_dropWhile_not (· ≠ '.') name.reverse
      rw [hdrop] at hhead
      simpa using hhead
    split
    · exact List.nil_suffix
    · refine ⟨(before :: front).reverse, ?_⟩
      rw [hdrop, hdot, List.reverse_cons, List.append_assoc] at hname
      exact hname
  · exact List.nil_suffix

/-- **All suffixes together** are the end of a name. -/
theorem flatten_suffixes_suffix (name : Name) : name.suffixes.flatten <:+ name := by
  rw [suffixes]
  split
  · exact List.nil_suffix
  · obtain ⟨first, rest, hsplit, hname⟩ := exists_splitOn_eq '.' (name.dropWhile (· = '.'))
    rw [hsplit, List.drop_one, List.tail_cons]
    exact List.IsSuffix.trans ⟨first, hname.symm⟩ (List.dropWhile_suffix _)

end Name

/-! ## What a name asks for -/

/-- **The name of an archive** is not that of a text. -/
theorem isText_of_ofName?_eq_some {format : ArchiveFormat}
    (h : ArchiveFormat.ofName? name = some format) : Operations.isText name = false := by
  by_contra htext
  have hsuffix : name.suffix = ".txt".toList := by simpa [Operations.isText] using htext
  have hend : ".txt".toList <:+ name := hsuffix ▸ name.suffix_suffix
  rw [ArchiveFormat.ofName?, hsuffix, if_neg (by decide)] at h
  split at h
  · next htar =>
    have hsuffixes : ".tar.xz".toList <:+ name.suffixes.flatten := by
      refine ⟨(name.suffixes.take (name.suffixes.length - 2)).flatten, ?_⟩
      conv_rhs => rw [← List.take_append_drop (name.suffixes.length - 2) name.suffixes, htar,
        List.flatten_append]
      rfl
    -- of two ends of a name the shorter is the end of the longer
    have hboth : ".txt".toList <:+ ".tar.xz".toList :=
      List.suffix_of_suffix_length_le hend (hsuffixes.trans name.flatten_suffixes_suffix)
        (by decide)
    exact absurd hboth (by decide)
  · cases h

end Reckoner
