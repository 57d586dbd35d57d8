import Reckoner.CommandLine.Run
import Reckoner.Proofs.Arguments
import Reckoner.Proofs.ReadingBack
/-!
# The status of a batch run

The status of a batch run tells whether it came to an end, and whether
every expression has a value (`runWith_status`). It is two just where the
expressions are not loaded, the results file is not opened, or some of what
is written to it is lost, which are the courses of a batch but one. The
first two come before anything is written. Where the status is not two,
what failed is counted in four places, by the results, the warnings, the
last record and the lines of the file, and the counts agree
(`accounts_runBatch`).
-/

namespace Reckoner

/-! ## Records of a batch -/

/-- A warning. -/
def LogRecord.isWarning (r : LogRecord) : Bool :=
  r.level = .warning

/-- Loading gives no warning. -/
theorem Operations.isWarning_of_mem_load {host : Host} {folder : Folder} {input : Path}
    {record : LogRecord} (h : record ∈ (Operations.load host folder input).1) :
    record.isWarning = false := by
  rw [LogRecord.isWarning, level_of_mem_load h]
  decide

namespace Request

/-- A request gives one warning where it has no value. -/
theorem countP_log (r : Request) :
    r.log.countP LogRecord.isWarning = if r.result.ok then 0 else 1 := by
  rw [log, result]
  cases evaluate r.expression <;> rfl

/-- **As many warnings** as requests without a value. -/
theorem countP_flatMap_log (requests : List Request) :
    (requests.flatMap log).countP LogRecord.isWarning =
      (requests.map result).countP (!·.ok) := by
  induction requests with
  | nil => rfl
  | cons r rest ih =>
    rw [List.flatMap_cons, List.countP_append, ih, r.countP_log, List.map_cons, List.countP_cons]
    cases r.result.ok <;> simp [Nat.add_comm]

/-- **As many lines with the mark of an error** as requests without a
value. -/
theorem countP_errorMark (requests : List Request) :
    ((requests.map result).map (·.line.toList)).countP marksError =
      (requests.map result).countP (!·.ok) := by
  rw [List.countP_map]
  refine List.countP_congr fun result hresult => ?_
  obtain ⟨r, -, rfl⟩ := List.mem_map.1 hresult
  rw [Function.comp_apply, marksError_iff, r.reads_back.1, Bool.not_eq_true']

end Request

namespace Batch

variable {b : Batch} {host : Host} {folder : Folder}

/-! ## What goes wrong -/

/-- The expressions are not loaded. -/
def Unloaded (b : Batch) (host : Host) (folder : Folder) : Prop :=
  ∃ fault, (Operations.load host folder b.input).2 = .error fault

/-- The results file cannot be opened. -/
def Unopened (b : Batch) (host : Host) (folder : Folder) : Prop :=
  ∃ fault, host.target folder b.output = .error fault

/-- **Something of the results is lost:** the expressions are loaded and the
results file is opened, but not every line gets into it, or it is not
closed. -/
def Loses (b : Batch) (host : Host) (folder : Folder) : Prop :=
  ∃ requests place, (Operations.load host folder b.input).2 = .ok requests ∧
    host.target folder b.output = .ok place ∧ ¬ host.Keeps b.output requests.length

theorem not_unloaded {requests : List Request}
    (hload : (Operations.load host folder b.input).2 = .ok requests) :
    ¬ b.Unloaded host folder := by
  rintro ⟨fault, hfault⟩
  rw [hload] at hfault
  cases hfault

theorem not_unopened {place : Place} (hopen : host.target folder b.output = .ok place) :
    ¬ b.Unopened host folder := by
  rintro ⟨fault, hfault⟩
  rw [hopen] at hfault
  cases hfault

/-- **Either something goes wrong, or nothing is lost.** -/
theorem wrong_or_kept (b : Batch) (host : Host) (folder : Folder) :
    (b.Unloaded host folder ∨ b.Unopened host folder ∨ b.Loses host folder) ∨
      ∃ log requests place, Operations.load host folder b.input = (log, .ok requests) ∧
        host.target folder b.output = .ok place ∧ host.Keeps b.output requests.length := by
  cases hload : Operations.load host folder b.input with
  | mk log outcome =>
    have hloaded : (Operations.load host folder b.input).2 = outcome := by rw [hload]
    cases outcome with
    | error fault => exact .inl (.inl ⟨fault, hloaded⟩)
    | ok requests =>
      cases hopen : host.target folder b.output with
      | error fault => exact .inl (.inr (.inl ⟨fault, hopen⟩))
      | ok place =>
        by_cases hkeeps : host.Keeps b.output requests.length
        · exact .inr ⟨log, requests, place, rfl, rfl, hkeeps⟩
        · exact .inl (.inr (.inr ⟨requests, place, hloaded, hopen, hkeeps⟩))

/-- **A batch fails** where something goes wrong. -/
theorem outcome_run_eq_error_iff :
    (∃ fault, (b.run host folder).outcome = .error fault) ↔
      b.Unloaded host folder ∨ b.Unopened host folder ∨ b.Loses host folder := by
  cases b.course host folder with
  | unloaded log fault hload =>
    rw [run_of_load_error hload]
    exact iff_of_true ⟨_, rfl⟩ (.inl ⟨fault, by rw [hload]⟩)
  | unopened log requests fault hload hopen =>
    rw [run_of_unopened hload hopen]
    exact iff_of_true ⟨_, rfl⟩ (.inr (.inl ⟨fault, hopen⟩))
  | spilled log before r after place spill hload hopen hfits hspill =>
    rw [run_of_spill hload hopen hfits hspill]
    refine iff_of_true ⟨_, rfl⟩ (.inr (.inr ⟨_, place, by rw [hload], hopen, fun hkeeps => ?_⟩))
    have hnone := hkeeps.fits before.length (by simp)
    rw [hspill] at hnone
    cases hnone
  | unclosed log requests place fault hload hopen hfits hclose =>
    rw [run_of_unclosed hload hopen hfits hclose]
    refine iff_of_true ⟨_, rfl⟩ (.inr (.inr ⟨_, place, by rw [hload], hopen, fun hkeeps => ?_⟩))
    have hnone := hkeeps.closed
    rw [hclose] at hnone
    cases hnone
  | written log requests place hload hopen hkeeps =>
    rw [run_eq hload hopen hkeeps]
    refine iff_of_false nofun ?_
    rintro (hunloaded | hunopened | ⟨requests', place', hload', -, hlost⟩)
    · exact not_unloaded (by rw [hload]) hunloaded
    · exact not_unopened hopen hunopened
    · rw [hload] at hload'
      cases hload'
      exact hlost hkeeps

/-- **A batch changes nothing but the results file,** and that only once it
is opened. -/
theorem folder_run (b : Batch) (host : Host) (folder : Folder) :
    (b.run host folder).folder = folder ∨
      ∃ requests place bytes, (Operations.load host folder b.input).2 = .ok requests ∧
        host.target folder b.output = .ok place ∧
        (b.run host folder).folder = folder.written place bytes := by
  cases b.course host folder with
  | unloaded log fault hload => exact .inl (by rw [run_of_load_error hload])
  | unopened log requests fault hload hopen => exact .inl (by rw [run_of_unopened hload hopen])
  | spilled log before r after place spill hload hopen hfits hspill =>
    exact .inr ⟨_, place, _, by rw [hload], hopen, by rw [run_of_spill hload hopen hfits hspill]⟩
  | unclosed log requests place fault hload hopen hfits hclose =>
    exact .inr ⟨_, place, _, by rw [hload], hopen,
      by rw [run_of_unclosed hload hopen hfits hclose]⟩
  | written log requests place hload hopen hkeeps =>
    exact .inr ⟨_, place, _, by rw [hload], hopen, by rw [run_eq hload hopen hkeeps]⟩

end Batch

namespace CommandLine

variable {b : Batch} {host : Host} {folder : Folder} {log : Log} {requests : List Request}
variable {place : Place}

/-! ## How a batch run ends -/

/-- The record a batch run begins with. -/
def opening (b : Batch) : LogRecord :=
  ⟨.info, s!"🚀 Evaluating {b.input.text} into {b.output.text}"⟩

/-- The folder after a batch run is that after the batch. -/
theorem folder_runBatch (b : Batch) (host : Host) (folder : Folder) :
    (runBatch b host folder).folder = (b.run host folder).folder := by
  rw [runBatch]
  cases (b.run host folder).outcome <;> rfl

/-- **A run over a batch that fails** ends with status two and with its
refusal. -/
theorem runBatch_of_error {fault : BatchFault}
    (h : (b.run host folder).outcome = .error fault) :
    runBatch b host folder = ⟨2, "", opening b :: (b.run host folder).log ++ [refusal b fault],
      (b.run host folder).folder⟩ := by
  rw [runBatch]
  simp only [h]
  rfl

/-- **A run over a batch of which nothing is lost** evaluates every
request. -/
theorem runBatch_of_keeps (hload : Operations.load host folder b.input = (log, .ok requests))
    (hopen : host.target folder b.output = .ok place)
    (hkeeps : host.Keeps b.output requests.length) :
    runBatch b host folder =
      ⟨if (requests.map Request.result).all Result.ok then 0 else 1, "",
        opening b :: (log ++ [b.loaded requests] ++ requests.flatMap Request.log ++
          [b.wrote (requests.map Request.result)]),
        folder.written place (Text.Utf8.encode (resultsText (requests.map Request.result)))⟩ := by
  rw [runBatch, b.run_eq hload hopen hkeeps]
  rfl

/-- Its status goes by whether some expression has no value. -/
theorem status_runBatch (hload : Operations.load host folder b.input = (log, .ok requests))
    (hopen : host.target folder b.output = .ok place)
    (hkeeps : host.Keeps b.output requests.length) :
    (runBatch b host folder).status =
      if ∃ r ∈ requests.map Request.result, r.ok = false then 1 else 0 := by
  rw [runBatch_of_keeps hload hopen hkeeps]
  by_cases hall : (requests.map Request.result).all Result.ok = true
  · have hnone : ¬ ∃ r ∈ requests.map Request.result, r.ok = false := by
      rintro ⟨r, hr, hok⟩
      rw [List.all_eq_true.1 hall r hr] at hok
      cases hok
    rw [if_neg hnone]
    exact if_pos hall
  · have hsome : ∃ r ∈ requests.map Request.result, r.ok = false := by
      simpa using hall
    rw [if_pos hsome]
    exact if_neg hall

/-- **The status is two** just where something goes wrong. -/
theorem status_runBatch_eq_two_iff :
    (runBatch b host folder).status = 2 ↔
      b.Unloaded host folder ∨ b.Unopened host folder ∨ b.Loses host folder := by
  rw [← Batch.outcome_run_eq_error_iff]
  cases houtcome : (b.run host folder).outcome with
  | error fault =>
    rw [runBatch_of_error houtcome]
    exact iff_of_true rfl ⟨fault, rfl⟩
  | ok results =>
    refine iff_of_false ?_ nofun
    rw [runBatch]
    simp only [houtcome]
    split <;> decide

/-- **A run that cannot load its expressions, or open the results file,**
leaves the folder as it is. -/
theorem folder_runBatch_of_unopened (h : b.Unloaded host folder ∨ b.Unopened host folder) :
    (runBatch b host folder).folder = folder := by
  rw [folder_runBatch]
  rcases b.folder_run host folder with hsame | ⟨requests, place, bytes, hload, hopen, -⟩
  · exact hsame
  · exact absurd h (not_or.2 ⟨Batch.not_unloaded hload, Batch.not_unopened hopen⟩)

/-! ## What is counted -/

/-- **The counts of what failed agree:** of the results, of the warnings, in
the last record, and of the lines with the mark of an error in the results
file, unless it is a device. -/
structure Accounts (b : Batch) (place : Place) (folder : Folder) (results : List Result)
    (ending : Ending) (failed : Nat) : Prop where
  counted : results.countP (!·.ok) = failed
  warned : ending.log.countP LogRecord.isWarning = failed
  reported : ending.log.getLast? = some
    ⟨.info, s!"✅ Wrote {results.length} results to {b.output.text} ({failed} failed)"⟩
  written : folder.entry? place ≠ some .device →
    ∃ bytes text, ending.folder.find b.output = .ok (.file bytes) ∧
      Text.Utf8.decode bytes = .ok text ∧
      (Text.lines text).countP marksError = failed

/-- **The counts of a batch run agree.** -/
theorem accounts_runBatch (hload : Operations.load host folder b.input = (log, .ok requests))
    (hopen : host.target folder b.output = .ok place)
    (hkeeps : host.Keeps b.output requests.length) :
    Accounts b place folder (requests.map Request.result) (runBatch b host folder)
      ((requests.map Request.result).countP (!·.ok)) where
  counted := rfl
  warned := by
    have hlog : log.countP LogRecord.isWarning = 0 := by
      rw [List.countP_eq_zero]
      intro record hrecord
      have hmem : record ∈ (Operations.load host folder b.input).1 := by rwa [hload]
      simp [Operations.isWarning_of_mem_load hmem]
    have hopening : (opening b).isWarning = false := rfl
    have hloaded : (b.loaded requests).isWarning = false := rfl
    have hwrote : (b.wrote (requests.map Request.result)).isWarning = false := rfl
    rw [runBatch_of_keeps hload hopen hkeeps]
    simp [List.countP_append, hlog, hopening, hloaded, hwrote, Request.countP_flatMap_log]
  reported := by
    rw [runBatch_of_keeps hload hopen hkeeps, ← List.cons_append, List.getLast?_concat,
      Batch.wrote, Batch.failures, List.countP_eq_length_filter]
  written hfile := by
    obtain ⟨cs, rfl⟩ := Operations.exists_text_of_load hload
    rw [runBatch_of_keeps hload hopen hkeeps]
    refine ⟨_, _, Folder.find_written (Host.writable_of_target hopen) hfile,
      Text.Utf8.decode_encode _, ?_⟩
    rw [lines_resultsText, Request.countP_errorMark]
    intro result hresult
    obtain ⟨r, hr, rfl⟩ := List.mem_map.1 hresult
    exact r.unbroken_line (Operations.unbroken_of_mem hr)

end CommandLine

/-- **No file stands where a directory has to be:** in the place of the
directory that paths start from. -/
def Folder.Rooted (folder : Folder) : Prop :=
  ∀ root, folder.isFile ⟨root, []⟩ = false

/-- A path that names something has a name. -/
theorem Path.name_ne_nil {word : List Char} (h : (Path.ofChars word).parts ≠ []) :
    (Path.ofChars word).name ≠ [] := by
  have hlast : (ofChars word).name = (ofChars word).parts.getLast h := by
    rw [name, List.getLast?_eq_some_getLast h]
    rfl
  have hpart := (Bool.and_eq_true_iff.1 (List.mem_filter.1 (List.getLast_mem h)).2).1
  rw [hlast]
  exact of_decide_eq_true hpart

/-- Where it has one, its results go beside it by default. -/
theorem Path.results?_of_name_ne_nil {p : Path} (h : p.name ≠ []) :
    p.results? = some (p.withName p.name.results) :=
  if_neg (by simpa using h)

namespace CommandLine

variable {folder : Folder}

/-- What is asked for where it is not said where the results go. -/
theorem Arguments.batch?_of_name_ne_nil {input : Path} (h : input.name ≠ []) (verbose : Bool) :
    (Arguments.mk (some input) none verbose).batch? =
      some ⟨input, input.withName input.name.results⟩ := by
  change (input.results?.bind fun output => some (Batch.mk input output)) = _
  rw [Path.results?_of_name_ne_nil h]
  rfl

/-- **Arguments that are accepted with an operations file** ask for a
batch. -/
theorem exists_batch_of_parse {words : List Name} {a : Arguments} {input : Path}
    (h : parse folder words = .ok (.run a)) (hfile : a.file = some input)
    (hrooted : folder.Rooted) : ∃ b, a.batch? = some b ∧ b.input = input := by
  obtain ⟨⟨word, rfl⟩, hthere⟩ := isFile_of_parse h hfile
  -- a path of no parts is a directory, and so it has a name to go by
  have hparts : (Path.ofChars word).parts ≠ [] := by
    intro hnil
    have hroot : Path.ofChars word = ⟨(Path.ofChars word).root, []⟩ := by rw [← hnil]
    rw [hroot, hrooted] at hthere
    cases hthere
  obtain ⟨file, output, verbose⟩ := a
  cases hfile
  cases output with
  | none => exact ⟨_, Arguments.batch?_of_name_ne_nil (Path.name_ne_nil hparts) verbose, rfl⟩
  | some output => exact ⟨⟨_, output⟩, rfl, rfl⟩

/-- **The status of a batch run tells the truth.** It is two just where the
expressions cannot be loaded, the results file cannot be opened, or
something of the results is lost on the way into it. In the first two cases
no file is made or changed, and in any case none but the results file.
Otherwise the status is one just where some expression has no value, and
else zero, as with no expression at all, which leaves an empty file; and
the counts of what failed agree. -/
theorem runWith_status {words : List Name} {a : Arguments} {input : Path}
    (hparse : parse folder words = .ok (.run a)) (hfile : a.file = some input)
    (hrooted : folder.Rooted) (host : Host) (stdin : List Char) :
    ∃ b, a.batch? = some b ∧ b.input = input ∧
      ((runWith a host folder stdin).status = 2 ↔
        b.Unloaded host folder ∨ b.Unopened host folder ∨ b.Loses host folder) ∧
      (b.Unloaded host folder ∨ b.Unopened host folder →
        (runWith a host folder stdin).folder = folder) ∧
      ((runWith a host folder stdin).folder = folder ∨
        ∃ place bytes, host.target folder b.output = .ok place ∧
          (runWith a host folder stdin).folder = folder.written place bytes) ∧
      ((runWith a host folder stdin).status ≠ 2 →
        ∃ results place, (b.run host folder).outcome = .ok results ∧
          host.target folder b.output = .ok place ∧
          (runWith a host folder stdin).status =
            (if ∃ r ∈ results, r.ok = false then 1 else 0) ∧
          (results = [] → folder.entry? place ≠ some .device →
            (runWith a host folder stdin).folder.find b.output = .ok (.file [])) ∧
          ∃ failed, Accounts b place folder results (runWith a host folder stdin) failed) := by
  obtain ⟨b, hbatch, hinput⟩ := exists_batch_of_parse hparse hfile hrooted
  have hrun : runWith a host folder stdin = runBatch b host folder := by
    rw [runWith, hbatch]
  rw [hrun]
  refine ⟨b, hbatch, hinput, status_runBatch_eq_two_iff, folder_runBatch_of_unopened, ?_,
    fun hne => ?_⟩
  · rw [folder_runBatch]
    exact (b.folder_run host folder).imp_right
      fun ⟨_, place, bytes, _, hopen, hfolder⟩ => ⟨place, bytes, hopen, hfolder⟩
  · obtain ⟨log, requests, place, hload, hopen, hkeeps⟩ :=
      (b.wrong_or_kept host folder).resolve_left (mt status_runBatch_eq_two_iff.2 hne)
    refine ⟨requests.map Request.result, place, ?_, hopen, status_runBatch hload hopen hkeeps,
      fun hnil hplace => ?_, _, accounts_runBatch hload hopen hkeeps⟩
    · rw [b.run_eq hload hopen hkeeps]
    · rw [runBatch_of_keeps hload hopen hkeeps, hnil, resultsText_nil, Text.Utf8.encode_nil]
      exact Folder.find_written (Host.writable_of_target hopen) hplace

/-- A run over a bracket that closes none ends with status one, and has one
failure to account for. -/
theorem runWith_status_bracket :
    let a : Arguments := ⟨some (.ofChars "ops.txt".toList), none, false⟩
    let host : Host := .ofCatalogue (fun _ _ => none) []
    let folder : Folder := ⟨[(["ops.txt".toList], .file [0x29])], []⟩
    (runWith a host folder []).status = 1 ∧
      ∃ b place results, a.batch? = some b ∧
        Accounts b place folder results (runWith a host folder []) 1 := by
  intro a host folder
  have hparse : parse folder ["ops.txt".toList] = .ok (.run a) := rfl
  have hrooted : folder.Rooted := by
    intro root
    cases root <;> rfl
  obtain ⟨b, hbatch, -, -, -, -, hends⟩ := runWith_status hparse rfl hrooted host []
  have hone : (runWith a host folder []).status = 1 := rfl
  have hne : (runWith a host folder []).status ≠ 2 := by
    rw [hone]
    decide
  obtain ⟨results, place, -, -, -, -, failed, haccounts⟩ := hends hne
  have hfailed : failed = 1 := by
    rw [← haccounts.warned]
    rfl
  exact ⟨hone, b, place, results, hbatch, hfailed ▸ haccounts⟩

/-- **On a device that is full** a run ends with status two, though its
expressions are loaded and the results file is opened. -/
theorem runWith_full_device :
    let words : List Name := ["ops.txt".toList, "-o".toList, "/dev/full".toList]
    let b : Batch := ⟨.ofChars "ops.txt".toList, .ofChars "/dev/full".toList⟩
    let a : Arguments := ⟨some b.input, some b.output, false⟩
    let host : Host := { Host.ofCatalogue (fun _ _ => none) [] with
      spill := fun _ _ => some ⟨⟨.noSpace, none⟩, 0⟩ }
    let folder : Folder :=
      ⟨[(["ops.txt".toList], .file [0x31]), (["dev".toList, "full".toList], .device)], []⟩
    parse folder words = .ok (.run a) ∧ a.batch? = some b ∧
      (runWith a host folder []).status = 2 ∧
      ¬ b.Unloaded host folder ∧ ¬ b.Unopened host folder := by
  intro words b a host folder
  have hload : (Operations.load host folder b.input).2 = .ok (Operations.ofText ['1']) := rfl
  have hopen : host.target folder b.output = .ok ["dev".toList, "full".toList] := rfl
  exact ⟨rfl, rfl, rfl, Batch.not_unloaded hload, Batch.not_unopened hopen⟩

end CommandLine

end Reckoner
