import Reckoner.Proofs.Arguments
import Reckoner.Proofs.OptionWords
/-!
# Options of batches

Where to write the results and whether to show every record are questions
of a batch, and a batch has an operations file. What becomes of the words of
a line as they are read (`CommandLine.Given.Becomes`) tells which lines ask
for an interactive run: they give outputs and nothing else
(`CommandLine.OnlyOutputs`), the last of them an empty name
(`CommandLine.parse_interactive_iff`). So every other line with an option is
rejected without an operations file, however the option is written
(`CommandLine.parse_options_need_file`).
-/

namespace Reckoner

namespace CommandLine

namespace Given

variable {g g' : Given} {switch : Switch} {long awaits justFile : Bool} {attached : Option Name}
  {word value : Name} {words : List Name} {all rest : List Word}

/-! ## Noting an option -/

/-- An option has been given. -/
def Has (g : Given) : Switch → Prop
  | .help => g.help = true
  | .output => g.output ≠ .nothing
  | .verbose => g.verbose = true

/-- **The options of a word are noted:** nothing else changes, and the
options given afterwards are those given before and those mentioned. The
output option counts as given once its value is there. -/
structure Notes (g : Given) (mentioned : Switch → Prop) (g' : Given) (awaits : Bool) : Prop where
  file : g'.file = g.file
  extras : g'.extras = g.extras
  has : ∀ s, g'.Has s ∨ (awaits = true ∧ s = .output) ↔ g.Has s ∨ mentioned s

theorem has_flag (hswitch : switch ≠ .output) (s : Switch) :
    (g.flag switch).Has s ↔ g.Has s ∨ switch = s := by
  cases switch <;> cases s <;> simp [flag, Has] at hswitch ⊢

theorem has_putOutput (g : Given) (value : Name) (s : Switch) :
    (g.putOutput value).Has s ↔ g.Has s ∨ Switch.output = s := by
  have hvalue : GivenOutput.ofValue value ≠ .nothing := by
    rw [GivenOutput.ofValue]
    split <;> exact GivenOutput.noConfusion
  cases s <;> simp [putOutput, Has, hvalue]

@[simp] theorem file_flag (g : Given) (switch : Switch) : (g.flag switch).file = g.file := by
  cases switch <;> rfl

@[simp] theorem extras_flag (g : Given) (switch : Switch) : (g.flag switch).extras = g.extras := by
  cases switch <;> rfl

/-- The letters behind an option are noted with it. -/
theorem notes_of_letters {letters : List Char} (hswitch : switch ≠ .output)
    (h : g.letters switch letters = .ok (g', awaits)) :
    Notes g (fun s => switch = s ∨ Lettered s letters) g' awaits := by
  fun_induction Given.letters g switch letters with
  | case1 g switch =>
    cases h
    refine ⟨file_flag .., extras_flag .., fun s => ?_⟩
    simp [has_flag hswitch]
  | case2 => cases h
  | case3 g switch c hc =>
    cases h
    obtain rfl := Switch.ofSpelling?_pair_eq_some_iff.1 hc
    refine ⟨file_flag .., extras_flag .., fun s => ?_⟩
    simp [has_flag hswitch, lettered_cons, or_assoc, eq_comm]
  | case4 g switch c value hvalue hc =>
    cases h
    obtain rfl := Switch.ofSpelling?_pair_eq_some_iff.1 hc
    refine ⟨file_flag .., extras_flag .., fun s => ?_⟩
    simp [has_putOutput, has_flag hswitch, lettered_cons, or_assoc]
  | case5 g switch c next rest hlast hnext hc ih =>
    obtain rfl := Switch.ofSpelling?_pair_eq_some_iff.1 hc
    obtain ⟨hfile, hextras, hhas⟩ := ih hnext h
    refine ⟨hfile.trans (file_flag ..), hextras.trans (extras_flag ..), fun s => ?_⟩
    rw [hhas, has_flag hswitch, lettered_cons, and_iff_right (show next ≠ .output from hnext)]
    simp only [or_assoc]

/-- **The options of a word are noted.** -/
theorem notes_of_option (h : g.option switch long attached = .ok (g', awaits)) :
    Notes g (fun s => (Word.option switch long attached).Mentions s) g' awaits := by
  revert h
  fun_cases Given.option g switch long attached with
  | case1 =>
    rintro ⟨⟩
    exact ⟨rfl, rfl, fun s => by simp [Word.Mentions, eq_comm]⟩
  | case2 long value =>
    rintro ⟨⟩
    exact ⟨rfl, rfl, fun s => by simp [Word.Mentions, has_putOutput]⟩
  | case3 switch long hswitch =>
    rintro ⟨⟩
    exact ⟨file_flag .., extras_flag .., fun s => by
      simp [Word.Mentions, has_flag (show switch ≠ .output from hswitch)]⟩
  | case4 switch c cs hswitch =>
    intro h
    obtain ⟨hfile, hextras, hhas⟩ := notes_of_letters hswitch h
    refine ⟨hfile, hextras, fun s => ?_⟩
    have hswitch : switch ≠ .output := hswitch
    simp [hhas, Word.Mentions, hswitch]
  | case5 => rintro ⟨⟩

/-! ## Reading words -/

/-- **What reading comes to,** word by word: from what is given before some
words to what is given after them. -/
inductive Becomes : Given → List Word → Given → Prop
  /-- Nothing is left to read. -/
  | done (g : Given) : Becomes g [] g
  /-- The first operand is the operations file. -/
  | file {g g' : Given} {word : Name} {rest : List Word} (h : g.file = none)
      (hrest : Becomes { g with file := some word } rest g') :
      Becomes g (.operand word :: rest) g'
  /-- Nothing asks for another one. -/
  | operand {g g' : Given} {word : Name} {rest : List Word} (h : g.file ≠ none)
      (hrest : Becomes (g.extra word) rest g') : Becomes g (.operand word :: rest) g'
  /-- Nor for what only looks like an option. -/
  | unknown {g g' : Given} {word : Name} {rest : List Word}
      (hrest : Becomes (g.extra word) rest g') : Becomes g (.unknown word :: rest) g'
  /-- The marker goes unnoticed. -/
  | marker {g g' : Given} {rest : List Word} (hrest : Becomes g rest g') :
      Becomes g (.marker :: rest) g'
  /-- Long after the operations file it is one word too many. -/
  | lateMarker {g g' : Given} {rest : List Word}
      (hrest : Becomes (g.extra CommandLine.marker) rest g') : Becomes g (.marker :: rest) g'
  /-- An option is noted. -/
  | option {g g₁ g' : Given} {switch : Switch} {long : Bool} {attached : Option Name}
      {rest : List Word} (h : g.option switch long attached = .ok (g₁, false))
      (hrest : Becomes g₁ rest g') : Becomes g (.option switch long attached :: rest) g'
  /-- Its value is the next word. -/
  | value {g g₁ g' : Given} {switch : Switch} {long : Bool} {attached : Option Name}
      {value : Name} {rest : List Word} (h : g.option switch long attached = .ok (g₁, true))
      (hrest : Becomes (g₁.putOutput value) rest g') :
      Becomes g (.option switch long attached :: .operand value :: rest) g'
  /-- Asking for help ends it all. -/
  | help {g g₁ : Given} {switch : Switch} {long awaits : Bool} {attached : Option Name}
      {rest : List Word} (h : g.option switch long attached = .ok (g₁, awaits))
      (hhelp : g₁.help = true) : Becomes g (.option switch long attached :: rest) g₁

theorem becomes_of_words (h : g.words justFile all = .ok g') : Becomes g all g' := by
  fun_induction Given.words g justFile all with
  | case1 g justFile =>
    cases h
    exact .done g'
  | case2 g justFile word rest hfile ih => exact .file (Option.isNone_iff_eq_none.1 hfile) (ih h)
  | case3 g justFile word rest hfile ih =>
    exact .operand (fun hnone => hfile (Option.isNone_iff_eq_none.2 hnone)) (ih h)
  | case4 g justFile word rest ih => exact .unknown (ih h)
  | case5 g justFile rest hmarker ih => exact .marker (ih h)
  | case6 g justFile rest hmarker ih => exact .lateMarker (ih h)
  | case7 => cases h
  | case8 g justFile switch long attached rest g₁ hoption hhelp =>
    cases h
    exact .help hoption hhelp
  | case9 g justFile switch long attached rest g₁ hoption hhelp ih => exact .option hoption (ih h)
  | case10 g justFile switch long attached g₁ hoption value rest hhelp =>
    cases h
    exact .help hoption hhelp
  | case11 g justFile switch long attached g₁ hoption value rest hhelp ih =>
    exact .value hoption (ih h)
  | case12 => cases h

namespace Becomes

/-- **What is given stays given:** the operations file, and the words that
nothing asks for. -/
theorem kept (h : Becomes g all g') :
    (g.file ≠ none → g'.file = g.file) ∧ g.extras <+: g'.extras := by
  induction h with
  | done g => exact ⟨fun _ => rfl, List.prefix_rfl⟩
  | file hfile _ ih => exact ⟨fun hne => absurd hfile hne, ih.2⟩
  | operand _ _ ih | unknown _ ih | lateMarker _ ih =>
    exact ⟨ih.1, (List.prefix_append _ _).trans ih.2⟩
  | marker _ ih => exact ih
  | option h _ ih =>
    have hnotes := notes_of_option h
    rw [hnotes.file, hnotes.extras] at ih
    exact ih
  | value h _ ih =>
    have hnotes := notes_of_option h
    simp only [putOutput, hnotes.file, hnotes.extras] at ih
    exact ih
  | help h _ =>
    have hnotes := notes_of_option h
    exact ⟨fun _ => hnotes.file, hnotes.extras ▸ List.prefix_rfl⟩

/-- A word that nothing asks for is left over in the end. -/
theorem extras_ne_nil (h : Becomes (g.extra word) all g') : g'.extras ≠ [] := by
  intro hnil
  have hkept := h.kept.2
  rw [hnil, List.prefix_nil] at hkept
  exact List.append_ne_nil_of_right_ne_nil _ (List.cons_ne_nil _ _) hkept

/-- An operand ends up as the operations file or is left over. -/
theorem not_operand (hfile : g'.file = none) (hextras : g'.extras = []) :
    ¬ Becomes g (.operand word :: all) g' := by
  rintro (_ | ⟨_, hrest⟩ | ⟨_, hrest⟩)
  · rw [hrest.kept.1 (Option.some_ne_none _)] at hfile
    cases hfile
  · exact hrest.extras_ne_nil hextras

/-- **An option has been given** just if it had been before or some word
mentions it. Where help is asked for, the reading ends with it, and this is
certain of help alone. -/
theorem has_iff (h : Becomes g all g') (hswitch : switch = .help ∨ g'.help = false) :
    g'.Has switch ↔ g.Has switch ∨ ∃ w ∈ all, w.Mentions switch := by
  induction h with
  | done g => simp
  | file _ _ ih | operand _ _ ih | unknown _ ih | marker _ ih | lateMarker _ ih =>
    rw [ih hswitch, List.exists_mem_cons_iff]
    cases switch <;> simp [Has, Word.Mentions, extra]
  | option h _ ih =>
    have hhas := (notes_of_option h).has switch
    simp only [Bool.false_eq_true, false_and, or_false] at hhas
    rw [ih hswitch, List.exists_mem_cons_iff, hhas, or_assoc]
  | @value _ _ _ _ _ _ value rest h _ ih =>
    have hhas := (notes_of_option h).has switch
    rw [ih hswitch, has_putOutput, List.exists_mem_cons_iff, List.exists_mem_cons_iff]
    simp only [true_and] at hhas
    rw [@eq_comm _ Switch.output, hhas]
    simp [Word.Mentions, or_assoc]
  | help h hhelp =>
    obtain rfl : switch = .help := hswitch.resolve_right (by simp [hhelp])
    have hhas := (notes_of_option h).has .help
    simp only [reduceCtorEq, and_false, or_false] at hhas
    rw [List.exists_mem_cons_iff, ← or_assoc, ← hhas]
    simp [Has, hhelp]

end Becomes

/-- An output is noted with its value, which stands in the same word. -/
theorem words_output (hhelp : g.help = false) :
    g.words justFile (.option .output long (some value) :: rest) =
      (g.putOutput value).words false rest := by
  have hstill : (g.putOutput value).help = false := hhelp
  simp [words, option, hstill]

/-- Or in the next one. -/
theorem words_output_apart (hhelp : g.help = false) :
    g.words justFile (.option .output long none :: .operand value :: rest) =
      (g.putOutput value).words false rest := by
  simp [words, option, hhelp]

end Given

/-! ## Lines of outputs alone -/

/-- **A line that gives outputs and nothing else,** and the values it gives
them. -/
inductive OnlyOutputs : List Name → List Name → Prop
  | nil : OnlyOutputs [] []
  /-- The marker may stand at the end. -/
  | marker : OnlyOutputs [marker] []
  /-- The value stands in the same word. -/
  | attached {long : Bool} {word value : Name} {words values : List Name}
      (h : Spells .output long word (some value)) (hrest : OnlyOutputs words values) :
      OnlyOutputs (word :: words) (value :: values)
  /-- The value is the next word, which is no option. -/
  | apart {long : Bool} {word value : Name} {words values : List Name}
      (h : Spells .output long word none) (hvalue : Word.of value = .ok (.operand value))
      (hrest : OnlyOutputs words values) :
      OnlyOutputs (word :: value :: words) (value :: values)

namespace OnlyOutputs

variable {g g' : Given} {words values : List Name} {all : List Word}

/-- **Such a line is read value by value.** -/
theorem words_eq (h : OnlyOutputs words values) :
    ∃ all, Word.ofAll words = .ok all ∧ ∀ g justFile, g.file = none → g.help = false →
      Given.words g justFile all = .ok (values.foldl Given.putOutput g) := by
  induction h with
  | nil => exact ⟨[], rfl, fun _ _ _ _ => rfl⟩
  | marker =>
    refine ⟨[.marker], rfl, fun g justFile hfile _ => ?_⟩
    simp [Given.words, hfile]
  | @attached long word value _ _ h _ ih =>
    obtain ⟨others, hothers, hread⟩ := ih
    have hword := h.of_eq
    refine ⟨.option .output long (some value) :: others,
      (ofAll_cons_eq_ok_iff (ne_marker_of_of hword)).2 ⟨_, _, hword, hothers, rfl⟩,
      fun g justFile hfile hhelp => ?_⟩
    rw [Given.words_output hhelp]
    exact hread _ false hfile hhelp
  | @apart long word value _ _ h hvalue _ ih =>
    obtain ⟨others, hothers, hread⟩ := ih
    have hword := h.of_eq
    have hrest := (ofAll_cons_eq_ok_iff (ne_marker_of_of hvalue)).2 ⟨_, _, hvalue, hothers, rfl⟩
    refine ⟨.option .output long none :: .operand value :: others,
      (ofAll_cons_eq_ok_iff (ne_marker_of_of hword)).2 ⟨_, _, hword, hrest, rfl⟩,
      fun g justFile hfile hhelp => ?_⟩
    rw [Given.words_output_apart hhelp]
    exact hread _ false hfile hhelp

/-- **And no other line** comes to nothing but outputs. -/
theorem of_becomes (h : g.Becomes all g') (hall : Word.ofAll words = .ok all)
    (hoption : ∀ w ∈ all, ∀ switch, w.Mentions switch → switch = .output)
    (hfile : g'.file = none) (hextras : g'.extras = []) (hhelp : g'.help = false) :
    ∃ values, OnlyOutputs words values ∧ g' = values.foldl Given.putOutput g := by
  induction h generalizing words with
  | done g =>
    obtain ⟨rfl, -⟩ | ⟨_, -, hcons⟩ | ⟨_, _, _, _, -, hcons, -⟩ := ofAll_cases hall
    · exact ⟨[], .nil, rfl⟩
    · cases hcons
    · cases hcons
  | file h hrest => exact absurd (.file h hrest) (Given.Becomes.not_operand hfile hextras)
  | operand h hrest => exact absurd (.operand h hrest) (Given.Becomes.not_operand hfile hextras)
  | unknown hrest | lateMarker hrest => exact absurd hextras hrest.extras_ne_nil
  | marker hrest =>
    obtain ⟨-, hnil⟩ | ⟨behind, rfl, heq⟩ | ⟨_, _, _, _, -, heq, hw, -⟩ := ofAll_cases hall
    · cases hnil
    · cases heq
      cases behind with
      | nil =>
        cases hrest
        exact ⟨[], .marker, rfl⟩
      | cons operand _ => exact absurd hrest (Given.Becomes.not_operand hfile hextras)
    · cases heq
      simpa using Word.of_cases hw
  | @option g g₁ g' switch long attached rest h hrest ih =>
    obtain rfl : switch = .output := hoption _ List.mem_cons_self switch (.inl rfl)
    obtain ⟨word, words, rfl, hword, hothers⟩ := exists_of_ofAll_cons hall Word.noConfusion
    cases attached with
    | none => cases h
    | some value =>
      cases h
      obtain ⟨values, hvalues, heq⟩ :=
        ih hothers (fun w hw => hoption w (List.mem_cons_of_mem _ hw)) hfile hextras hhelp
      exact ⟨value :: values, .attached (Word.of_eq_option_iff.1 hword) hvalues, heq⟩
  | @value g g₁ g' switch long attached value rest h hrest ih =>
    obtain rfl : switch = .output := hoption _ List.mem_cons_self switch (.inl rfl)
    obtain ⟨word, words, rfl, hword, hothers⟩ := exists_of_ofAll_cons hall Word.noConfusion
    obtain ⟨operand, words, rfl, hoperand, hbehind⟩ :=
      exists_of_ofAll_cons hothers Word.noConfusion
    obtain rfl : value = operand := by simpa using Word.of_cases hoperand
    cases attached with
    | some value => cases h
    | none =>
      cases h
      obtain ⟨values, hvalues, heq⟩ := ih hbehind
        (fun w hw => hoption w (List.mem_cons_of_mem _ (List.mem_cons_of_mem _ hw)))
        hfile hextras hhelp
      exact ⟨value :: values, .apart (Word.of_eq_option_iff.1 hword) hoperand hvalues, heq⟩
  | help h hasked =>
    rw [hhelp] at hasked
    cases hasked

/-- What is given after some values is the last of them. -/
theorem foldl_putOutput (g : Given) (values : List Name) :
    values.foldl Given.putOutput g =
      { g with output := (values.getLast?.map GivenOutput.ofValue).getD g.output } := by
  induction values generalizing g with
  | nil => rfl
  | cons value rest ih =>
    rw [List.foldl_cons, ih, List.getLast?_cons]
    cases rest.getLast? <;> rfl

end OnlyOutputs

/-! ## Options of a run -/

variable {folder : Folder} {a : Arguments} {words : List Name}

/-- **What a run is asked for** shows which options were given. -/
theorem gives_iff_of_parse (h : parse folder words = .ok (.run a)) :
    (a.verbose = true ↔ Gives .verbose words) ∧ (a.output.isSome = true ↔ Gives .output words) ∧
      ¬ Gives .help words := by
  obtain ⟨all, g, hall, hwords, hhelp, hgiven⟩ := parse_eq_run_iff.1 h
  obtain ⟨horder, rfl⟩ := Arguments.ofGiven_eq_ok_iff.1 hgiven
  have hhas (switch : Switch) : g.Has switch ↔ Gives switch words := by
    rw [(Given.becomes_of_words hwords).has_iff (.inr hhelp), gives_iff hall]
    cases switch <;> simp [Given.Has]
  refine ⟨hhas .verbose, ?_, ?_⟩
  · rw [← hhas .output]
    have hmarker := horder.output
    cases houtput : g.output <;> simp [Given.Has, GivenOutput.name?, houtput] at hmarker ⊢
  · rw [← hhas .help]
    simp [Given.Has, hhelp]

/-- A value that is neither a name nor the marker is empty. -/
theorem eq_nil_of_ofValue {value : Name} (hmarker : GivenOutput.ofValue value ≠ .marker)
    (hname : isNamed (GivenOutput.ofValue value).name? = false) : value = [] := by
  rw [GivenOutput.ofValue] at hmarker hname
  split at hmarker
  · exact absurd rfl hmarker
  next hvalue =>
    rw [if_neg hvalue] at hname
    simpa [isNamed, GivenOutput.name?] using hname

/-- **The command lines of interactive runs** give nothing but outputs, the
last of them an empty name. -/
theorem parse_interactive_iff :
    parse folder words = .ok (.run a) ∧ a.file = none ↔
      ∃ values, OnlyOutputs words values ∧ (∀ value ∈ values.getLast?, value = []) ∧
        a = ⟨none, values.getLast?.map .ofChars, false⟩ := by
  constructor
  · rintro ⟨h, hfile⟩
    obtain ⟨all, g, hall, hwords, hhelp, hgiven⟩ := parse_eq_run_iff.1 h
    obtain ⟨horder, rfl⟩ := Arguments.ofGiven_eq_ok_iff.1 hgiven
    replace hfile : g.file = none := Option.map_eq_none_iff.1 hfile
    obtain ⟨hname, hquiet⟩ := horder.file.resolve_left (by simp [hfile, isNamed])
    have hread := Given.becomes_of_words hwords
    have hoption : ∀ w ∈ all, ∀ switch, w.Mentions switch → switch = .output := by
      intro w hw switch hmentions
      have hhas : g.Has switch := (hread.has_iff (.inr hhelp)).2 (.inr ⟨w, hw, hmentions⟩)
      cases switch <;> simp [Given.Has, hhelp, hquiet] at hhas ⊢
    obtain ⟨values, hvalues, heq⟩ :=
      OnlyOutputs.of_becomes hread hall hoption hfile horder.extras hhelp
    rw [OnlyOutputs.foldl_putOutput] at heq
    have houtput : g.output = (values.getLast?.map GivenOutput.ofValue).getD .nothing := by rw [heq]
    have hmarker := horder.output
    rw [houtput] at hname hmarker
    refine ⟨values, hvalues, ?_, ?_⟩
    · intro value hvalue
      rw [Option.mem_def.1 hvalue] at hname hmarker
      exact eq_nil_of_ofValue hmarker hname
    · rw [hfile, hquiet, houtput]
      cases hlast : values.getLast? with
      | none => rfl
      | some value =>
        rw [hlast] at hname hmarker
        rw [eq_nil_of_ofValue hmarker hname]
        rfl
  · rintro ⟨values, hvalues, hlast, rfl⟩
    obtain ⟨all, hall, hread⟩ := hvalues.words_eq
    refine ⟨parse_eq_run_iff.2 ⟨all, _, hall, hread {} false rfl rfl, ?_, ?_⟩, rfl⟩
    · rw [OnlyOutputs.foldl_putOutput]
    · rw [OnlyOutputs.foldl_putOutput]
      cases hvalue : values.getLast? with
      | none => rfl
      | some value =>
        rw [hlast value hvalue]
        rfl

/-! ## Options without an operations file -/

/-- **A line of outputs alone,** the last of them an empty name. -/
def EndsEmpty (words : List Name) : Prop :=
  ∃ values, OnlyOutputs words (values ++ [[]])

/-- **The options of batches need an operations file:** arguments that are
accepted without one have neither an output nor ask for every record. -/
def FileNeeded (folder : Folder) (words : List Name) : Prop :=
  ∀ a, parse folder words = .ok (.run a) → a.file = none → a.output = none ∧ a.verbose = false

/-- **No operations file is named** by words that are accepted. -/
def WithoutFile (folder : Folder) (words : List Name) : Prop :=
  ∀ a, parse folder words = .ok (.run a) → a.file = none

theorem parse_of_endsEmpty (h : EndsEmpty words) (folder : Folder) :
    parse folder words = .ok (.run ⟨none, some (.ofChars []), false⟩) := by
  obtain ⟨values, hvalues⟩ := h
  refine (parse_interactive_iff.2 ⟨_, hvalues, ?_, ?_⟩).1 <;> simp

/-- **An interactive run** is that of a line without options, or of one of
outputs that ends empty. -/
theorem interactive_cases (h : parse folder words = .ok (.run a)) (hfile : a.file = none) :
    OnlyOutputs words [] ∧ a = ⟨none, none, false⟩ ∨
      EndsEmpty words ∧ a = ⟨none, some (.ofChars []), false⟩ := by
  obtain ⟨values, hvalues, hlast, rfl⟩ := parse_interactive_iff.1 ⟨h, hfile⟩
  rcases List.eq_nil_or_concat' values with rfl | ⟨values, value, rfl⟩
  · exact .inl ⟨hvalues, rfl⟩
  · rw [hlast value (by simp)] at hvalues ⊢
    exact .inr ⟨⟨values, hvalues⟩, by simp⟩

theorem fileNeeded_iff : FileNeeded folder words ↔ ¬ EndsEmpty words := by
  constructor
  · intro hneeded hempty
    obtain ⟨houtput, -⟩ := hneeded _ (parse_of_endsEmpty hempty folder) rfl
    cases houtput
  · intro hnot a h hfile
    obtain ⟨-, rfl⟩ := (interactive_cases h hfile).resolve_right fun hempty => hnot hempty.1
    exact ⟨rfl, rfl⟩

/-- Help is shown where it is asked for. -/
theorem gives_help_of_parse (h : parse folder words = .ok .help) : Gives .help words := by
  obtain ⟨all, hall, h⟩ := bind_eq_ok_iff.1 h
  obtain ⟨g, hwords, h⟩ := bind_eq_ok_iff.1 h
  have hhelp : g.help = true := by
    by_contra hnot
    rw [if_neg hnot] at h
    obtain ⟨a, -, hrun⟩ := bind_eq_ok_iff.1 h
    cases hrun
  have hhas := (Given.becomes_of_words hwords).has_iff (.inl (rfl : Switch.help = .help))
  simpa [Given.Has, hhelp, gives_iff hall] using hhas

/-- **A line of outputs that ends empty** is accepted, and names no
operations file. -/
theorem EndsEmpty.exitStatus?_eq_none (h : EndsEmpty words) (folder : Folder) :
    exitStatus? (parse folder words) = none ∧ WithoutFile folder words := by
  have hparse := parse_of_endsEmpty h folder
  refine ⟨by rw [hparse]; rfl, fun a hrun => ?_⟩
  rw [hparse] at hrun
  cases hrun
  rfl

/-- **A line that gives an option and names no operations file** is rejected
with status two, or shows the help it asks for and ends with status zero,
or is one of outputs that ends empty. -/
theorem exitStatus?_or_endsEmpty {switch : Switch} (hgives : Gives switch words)
    (hfile : WithoutFile folder words) :
    (exitStatus? (parse folder words) = some 2 ∨
      exitStatus? (parse folder words) = some 0 ∧ Gives .help words) ∨
    EndsEmpty words ∧ ¬ Gives .verbose words := by
  cases h : parse folder words with
  | error fault => exact .inl (.inl rfl)
  | ok parsed =>
    cases parsed with
    | help => exact .inl (.inr ⟨rfl, gives_help_of_parse h⟩)
    | run a =>
      obtain ⟨hverbose, -, -⟩ := gives_iff_of_parse h
      rcases interactive_cases h (hfile a h) with ⟨hnone, -⟩ | ⟨hempty, rfl⟩
      · cases hnone <;> simp at hgives
      · exact .inr ⟨hempty, fun hgiven => Bool.false_ne_true (hverbose.2 hgiven)⟩

/-- **The options of batches need an operations file,** but for an output
that is an empty name. Arguments show which options were given. Those of an
interactive run show none, unless the line is one of outputs that ends
empty. A line that asks for every record and names no operations file is
rejected with status two, unless it asks for help, which is shown with
status zero. One that gives an output and names no operations file comes to
the same unless it ends empty: a line that does is accepted, and its empty
output is kept. -/
theorem parse_options_need_file (folder : Folder) (words : List Name) :
    (∀ a, parse folder words = .ok (.run a) →
      (a.verbose = true ↔ Gives .verbose words) ∧
        (a.output.isSome = true ↔ Gives .output words)) ∧
    (FileNeeded folder words ↔ ¬ EndsEmpty words) ∧
    (Gives .verbose words → WithoutFile folder words →
      exitStatus? (parse folder words) = some 2 ∨
        exitStatus? (parse folder words) = some 0 ∧ Gives .help words) ∧
    (Gives .output words → WithoutFile folder words →
      ((exitStatus? (parse folder words) = some 2 ∨
        exitStatus? (parse folder words) = some 0 ∧ Gives .help words) ↔ ¬ EndsEmpty words)) ∧
    (EndsEmpty words → parse folder words = .ok (.run ⟨none, some (.ofChars []), false⟩)) := by
  refine ⟨fun a h => ?_, fileNeeded_iff, fun hverbose hfile => ?_, fun houtput hfile => ?_,
    fun hempty => parse_of_endsEmpty hempty folder⟩
  · obtain ⟨hverbose, houtput, -⟩ := gives_iff_of_parse h
    exact ⟨hverbose, houtput⟩
  · exact (exitStatus?_or_endsEmpty hverbose hfile).resolve_right fun hempty => hempty.2 hverbose
  · constructor
    · rintro hends hempty
      obtain ⟨hnone, -⟩ := hempty.exitStatus?_eq_none folder
      simp [hnone] at hends
    · exact fun hnot => (exitStatus?_or_endsEmpty houtput hfile).resolve_right
        fun hempty => hnot hempty.1

/-- Letters that share a word, with the value in the next one, are rejected
for want of an operations file. -/
theorem parse_options_need_file_grouped :
    let words : List Name := ["-vo".toList, "out.txt".toList]
    let folder : Folder := ⟨[], []⟩
    Gives .verbose words ∧ Gives .output words ∧ WithoutFile folder words ∧
      exitStatus? (parse folder words) = some 2 ∧ FileNeeded folder words := by
  intro words folder
  have hspelled : Spells .verbose false "-vo".toList (some ['o']) := .joined (by decide) []
  have hverbose : Gives .verbose words := ⟨_, List.mem_cons_self, .spelled hspelled⟩
  have houtput : Gives .output words :=
    ⟨_, List.mem_cons_self, .lettered (by decide) hspelled (.head [])⟩
  have hparse : parse folder words = .error (.needsFile "--output") := rfl
  have hfile : WithoutFile folder words := fun a hrun => by
    rw [hparse] at hrun
    cases hrun
  obtain ⟨-, hneeded, hquiet, hunnamed, -⟩ := parse_options_need_file folder words
  have hends := hquiet hverbose hfile
  have hhelp : exitStatus? (parse folder words) ≠ some 0 := by
    rw [hparse]
    decide
  exact ⟨hverbose, houtput, hfile, hends.resolve_right fun hshown => hhelp hshown.1,
    hneeded.2 ((hunnamed houtput hfile).1 hends)⟩

/-- **An empty name as the only output** is accepted without an operations
file. -/
theorem parse_empty_output :
    let words : List Name := ["-o".toList, []]
    let folder : Folder := ⟨[], []⟩
    Gives .output words ∧ EndsEmpty words ∧ WithoutFile folder words ∧
      parse folder words = .ok (.run ⟨none, some (.ofChars []), false⟩) ∧
        exitStatus? (parse folder words) = none ∧ ¬ FileNeeded folder words := by
  intro words folder
  have hspelled : Spells .output false "-o".toList none := .short none
  have hempty : EndsEmpty words := ⟨[], .apart hspelled rfl .nil⟩
  obtain ⟨hnone, hfile⟩ := hempty.exitStatus?_eq_none folder
  exact ⟨⟨_, List.mem_cons_self, .spelled hspelled⟩, hempty, hfile, rfl, hnone,
    fun hneeded => fileNeeded_iff.1 hneeded hempty⟩

end CommandLine

end Reckoner
