import Reckoner.Operations
import Reckoner.Proofs.Failing
/-!
# Loading

What loading an operations file comes to, step by step: a text is read and
decoded, and an archive is unpacked into a directory and read back from
there. Whatever is loaded was read somewhere (`Operations.exists_bytes_of_load`),
and loading makes no record but of the finest level.
-/

namespace Reckoner

namespace Operations

variable {host : Host} {folder : Folder} {input : Path} {scratch : Place}
variable {name : Name} {bytes : List UInt8} {requests : List Request}

/-! ## Texts -/

theorem load_of_isText (htext : isText input.name = true) :
    load host folder input = ([], (host.read folder input).mapError LoadFault.access >>= ofBytes) :=
  if_pos htext

/-- **A file with the name of a text** is loaded as its bytes. -/
theorem load_of_file (htext : isText input.name = true)
    (hread : host.read folder input = .ok bytes) :
    load host folder input = ([], ofBytes bytes) := by
  rw [load_of_isText htext, hread]
  rfl

/-! ## Archives -/

/-- **A file with another name** is loaded as an archive, if the directory to
unpack it into can be made and removed. -/
theorem load_of_not_isText (htext : isText input.name = false)
    (hscratch : host.scratch = .ok scratch) :
    load host folder input = ((loadArchive host scratch folder input).1,
      match host.removal with
      | none => (loadArchive host scratch folder input).2
      | some fault => .error (.access fault)) := by
  rw [load, if_neg (by simp [htext])]
  simp only [hscratch]
  cases host.removal <;> rfl

theorem load_of_removed (htext : isText input.name = false)
    (hscratch : host.scratch = .ok scratch) (hremoval : host.removal = none) :
    load host folder input = loadArchive host scratch folder input := by
  rw [load_of_not_isText htext hscratch, hremoval]

/-- Nothing is loaded where there is no directory to unpack into. -/
theorem load_of_scratch_error {fault : AccessFault} (htext : isText input.name = false)
    (hscratch : host.scratch = .error fault) :
    load host folder input = ([], .error (.access fault)) := by
  rw [load, if_neg (by simp [htext])]
  simp only [hscratch]

/-- **Of what is listed** the first text is unpacked. -/
theorem unpack_of_list {format : ArchiveFormat} {listings : List Listing}
    (hformat : ArchiveFormat.ofName? input.name = some format)
    (hread : host.read folder input = .ok bytes)
    (hlist : host.library.list format bytes = .ok listings) :
    unpack host folder input =
      match format.operationsName? listings with
      | none => .error (.noOperations input.name)
      | some name =>
        (host.library.unpack format bytes name).mapError (.ofLibrary input.name) >>=
          fun entries => .ok (name, entries) := by
  rw [unpack, hformat]
  simp only [hread, mapError_ok, ok_bind, hlist]
  rfl

/-- **What is unpacked is read back** under the name it is listed under. -/
theorem loadArchive_of_unpack {entries : List (Place × Entry)}
    (hunpack : unpack host folder input = .ok (name, entries)) :
    loadArchive host scratch folder input =
      ([extracted name input.name],
        (host.read (folder.addDirectory scratch entries)
          ((Path.mk .slash scratch).join name)).mapError LoadFault.access >>= ofBytes) := by
  rw [loadArchive, hunpack]

/-! ## What is loaded -/

/-- **What is loaded was read** from some bytes. -/
theorem exists_bytes_of_load (h : (load host folder input).2 = .ok requests) :
    ∃ bytes, ofBytes bytes = .ok requests := by
  have hread : ∀ {read : Except AccessFault (List UInt8)},
      (read.mapError LoadFault.access >>= ofBytes) = .ok requests →
        ∃ bytes, ofBytes bytes = .ok requests := by
    intro read hread
    obtain ⟨bytes, -, hbytes⟩ := bind_eq_ok_iff.1 hread
    exact ⟨bytes, hbytes⟩
  cases htext : isText input.name with
  | true => exact hread (load_of_isText htext ▸ h)
  | false =>
    cases hscratch : host.scratch with
    | error fault =>
      rw [load_of_scratch_error htext hscratch] at h
      cases h
    | ok scratch =>
      rw [load_of_not_isText htext hscratch] at h
      dsimp only at h
      split at h
      · rw [loadArchive] at h
        split at h
        · cases h
        · exact hread h
      · cases h

/-- **What loading has to say** is of the finest level. -/
theorem level_of_mem_load {record : LogRecord} (h : record ∈ (load host folder input).1) :
    record.level = .debug := by
  cases htext : isText input.name with
  | true =>
    rw [load_of_isText htext] at h
    exact absurd h List.not_mem_nil
  | false =>
    cases hscratch : host.scratch with
    | error fault =>
      rw [load_of_scratch_error htext hscratch] at h
      exact absurd h List.not_mem_nil
    | ok scratch =>
      rw [load_of_not_isText htext hscratch, loadArchive] at h
      dsimp only at h
      split at h
      · exact absurd h List.not_mem_nil
      · rw [List.mem_singleton.1 h]
        rfl

end Operations

end Reckoner
