import Reckoner.CommandLine.Arguments
import Reckoner.Proofs.Failing
/-!
# Arguments that are accepted

The words of a command line ask for a run if they can be read to the end,
ask for no help, and give what is in order (`CommandLine.parse_eq_run_iff`,
`CommandLine.Arguments.ofGiven_eq_ok_iff`). An operations file among the
arguments of a run is there.
-/

namespace Reckoner

namespace CommandLine

variable {folder : Folder} {g : Given} {a : Arguments} {words : List Name}

/-- **What is asked of what was given** before it is taken for arguments. -/
structure Given.InOrder (folder : Folder) (g : Given) : Prop where
  extras : g.extras = []
  file : isNamed g.file = true ∨ isNamed g.output.name? = false ∧ g.verbose = false
  missing : missingFile folder g = none
  output : g.output ≠ .marker

/-- **What was given is accepted** where it is in order. -/
theorem Arguments.ofGiven_eq_ok_iff :
    Arguments.ofGiven folder g = .ok a ↔
      g.InOrder folder ∧
        a = ⟨g.file.map .ofChars, g.output.name?.map .ofChars, g.verbose⟩ := by
  simp only [Arguments.ofGiven]
  split
  next hextras =>
    refine iff_of_false nofun fun h => ?_
    simp [h.1.extras] at hextras
  split
  next hextras houtput =>
    refine iff_of_false nofun fun h => ?_
    rcases h.1.file with hfile | ⟨hname, -⟩
    · simp [hfile] at houtput
    · simp [hname] at houtput
  split
  next hextras houtput hverbose =>
    refine iff_of_false nofun fun h => ?_
    rcases h.1.file with hfile | ⟨-, hquiet⟩
    · simp [hfile] at hverbose
    · simp [hquiet] at hverbose
  split
  next hextras houtput hverbose hinvalid =>
    refine iff_of_false nofun fun h => ?_
    simp [h.1.missing, h.1.output] at hinvalid
  next hextras houtput hverbose hvalid =>
    have hvalid := Bool.or_eq_false_iff.1 (Bool.eq_false_iff.2 hvalid)
    have hinOrder : g.InOrder folder := by
      refine ⟨by simpa using hextras, ?_, by simpa using hvalid.1, by simpa using hvalid.2⟩
      cases hfile : isNamed g.file with
      | true => exact .inl rfl
      | false =>
        rw [hfile] at houtput hverbose
        exact .inr ⟨by simpa using houtput, by simpa using hverbose⟩
    simp [hinOrder, eq_comm]

/-- **A run is asked for** by words that can be read to the end, ask for no
help, and give what is in order. -/
theorem parse_eq_run_iff :
    parse folder words = .ok (.run a) ↔
      ∃ all g, Word.ofAll words = .ok all ∧ Given.words {} false all = .ok g ∧ g.help = false ∧
        Arguments.ofGiven folder g = .ok a := by
  rw [parse]
  constructor
  · intro h
    obtain ⟨all, hall, h⟩ := bind_eq_ok_iff.1 h
    obtain ⟨g, hg, h⟩ := bind_eq_ok_iff.1 h
    split at h
    · cases h
    next hhelp =>
      obtain ⟨a', hgiven, hrun⟩ := bind_eq_ok_iff.1 h
      cases hrun
      exact ⟨all, g, hall, hg, Bool.eq_false_iff.2 hhelp, hgiven⟩
  · rintro ⟨all, g, hall, hg, hhelp, hgiven⟩
    refine bind_eq_ok_iff.2 ⟨all, hall, bind_eq_ok_iff.2 ⟨g, hg, ?_⟩⟩
    rw [if_neg (by simp [hhelp])]
    exact bind_eq_ok_iff.2 ⟨a, hgiven, rfl⟩

/-- Arguments that are accepted name an operations file that is there. -/
theorem isFile_of_ofGiven {input : Path} (h : Arguments.ofGiven folder g = .ok a)
    (hfile : a.file = some input) :
    (∃ word, input = .ofChars word) ∧ folder.isFile input = true := by
  obtain ⟨horder, rfl⟩ := Arguments.ofGiven_eq_ok_iff.1 h
  obtain ⟨word, hword, rfl⟩ := Option.map_eq_some_iff.1 hfile
  refine ⟨⟨word, rfl⟩, ?_⟩
  have hmissing := horder.missing
  rw [missingFile, hword] at hmissing
  simpa [Option.filter] using hmissing

theorem isFile_of_parse {input : Path} (h : parse folder words = .ok (.run a))
    (hfile : a.file = some input) :
    (∃ word, input = .ofChars word) ∧ folder.isFile input = true := by
  obtain ⟨_, _, -, -, -, hgiven⟩ := parse_eq_run_iff.1 h
  exact isFile_of_ofGiven hgiven hfile

end CommandLine

end Reckoner
