import Mathlib.Data.List.Infix
import Reckoner.CommandLine.Arguments
import Reckoner.Proofs.Failing
/-!
# How options are written

A word of the command line that is an option has one of three forms
(`CommandLine.Spells`): its long name or a beginning of it that is longer
than the marker, or a minus sign and its letter, each with or without an
equals sign and a value; or a minus sign, its letter, and more right behind
it. Exactly the words of these forms are taken for options
(`CommandLine.Word.of_eq_option_iff`).

What stands behind the letter of an option without a value are the letters
of more options, so that one word can write several
(`CommandLine.Writes`).
-/

namespace Reckoner

namespace CommandLine

namespace Switch

/-- All options. -/
def all : List Switch :=
  [help, output, verbose]

/-- The letter of an option. -/
def letter : Switch → Char
  | help => 'h'
  | output => 'o'
  | verbose => 'v'

/-- The long name of an option. -/
def longName : Switch → Name
  | help => "--help".toList
  | output => "--output".toList
  | verbose => "--verbose".toList

variable {switch : Switch} {word : Name} {c : Char}

theorem spellings_eq :
    spellings = all.flatMap fun s => [(['-', s.letter], s), (s.longName, s)] := rfl

/-- An option is written in full as its letter or as its long name. -/
theorem mem_spellings :
    (word, switch) ∈ spellings ↔ word = ['-', switch.letter] ∨ word = switch.longName := by
  rw [spellings_eq]
  cases switch <;> simp [all]

/-- And is known by either. -/
theorem ofSpelling?_eq_some_iff :
    ofSpelling? word = some switch ↔ word = ['-', switch.letter] ∨ word = switch.longName := by
  constructor
  · intro h
    obtain ⟨before, after, heq, -⟩ := List.lookup_eq_some_iff.1 h
    rw [← mem_spellings, heq]
    simp
  · rintro (rfl | rfl) <;> cases switch <;> rfl

theorem length_longName (switch : Switch) : 6 ≤ switch.longName.length := by
  cases switch <;> decide

/-- A minus sign and one more character are an option by its letter. -/
theorem ofSpelling?_pair_eq_some_iff : ofSpelling? ['-', c] = some switch ↔ c = switch.letter := by
  have hlong : ['-', c] ≠ switch.longName := by
    intro heq
    have hlength := switch.length_longName
    rw [← heq] at hlength
    simp at hlength
  simp [ofSpelling?_eq_some_iff, hlong]

theorem letter_inj {other : Switch} : switch.letter = other.letter ↔ switch = other := by
  cases switch <;> cases other <;> decide

theorem isLong_longName (switch : Switch) : isLong switch.longName = true := by
  cases switch <;> rfl

theorem letter_ne_minus (switch : Switch) : switch.letter ≠ '-' := by
  cases switch <;> decide

theorem letter_ne_equals (switch : Switch) : switch.letter ≠ '=' := by
  cases switch <;> decide

/-- **A beginning of a long name** that is longer than the marker is that of
no other option. -/
theorem of_beginning {beginning : Name} (h : beginning <+: switch.longName)
    (hlong : marker.length < beginning.length) :
    isLong beginning = true ∧ '=' ∉ beginning ∧
      (ofSpelling? beginning = some switch ∨ ofSpelling? beginning = none ∧
        spellings.filter (fun s => beginning.isPrefixOf s.1) = [(switch.longName, switch)]) := by
  have hall : ∀ b ∈ switch.longName.inits, marker.length < b.length →
      isLong b = true ∧ '=' ∉ b ∧ (ofSpelling? b = some switch ∨ ofSpelling? b = none ∧
        spellings.filter (fun s => b.isPrefixOf s.1) = [(switch.longName, switch)]) := by
    cases switch <;> decide
  exact hall beginning ((List.mem_inits _ _).2 h) hlong

end Switch

/-! ## One option to a word -/

/-- What stands behind an option in the same word, after an equals sign. -/
def behind : Option Name → Name
  | none => []
  | some value => '=' :: value

/-- **How an option is written:** whether by its long name, in which word,
and with what behind it. -/
inductive Spells (switch : Switch) : Bool → Name → Option Name → Prop
  /-- By its long name, or by a beginning of it longer than the marker. -/
  | long {beginning : Name} (h : beginning <+: switch.longName)
      (hlong : marker.length < beginning.length) (attached : Option Name) :
      Spells switch true (beginning ++ behind attached) attached
  /-- By its letter. -/
  | short (attached : Option Name) :
      Spells switch false (['-', switch.letter] ++ behind attached) attached
  /-- By its letter, with more right behind it. -/
  | joined {c : Char} (hc : c ≠ '=') (value : Name) :
      Spells switch false ('-' :: switch.letter :: c :: value) (some (c :: value))

variable {switch : Switch} {long : Bool} {word before value : Name} {attached : Option Name}

/-- A word falls in two at its first equals sign. -/
theorem exists_behind (word : Name) :
    ∃ before attached, '=' ∉ before ∧ word = before ++ behind attached := by
  induction word with
  | nil => exact ⟨[], none, List.not_mem_nil, rfl⟩
  | cons c rest ih =>
    by_cases hc : c = '='
    · exact ⟨[], some rest, List.not_mem_nil, by rw [hc]; rfl⟩
    · obtain ⟨before, attached, hbefore, rfl⟩ := ih
      exact ⟨c :: before, attached, by simp [hbefore, Ne.symm hc], rfl⟩

theorem forall_ne_equals (h : '=' ∉ before) : ∀ c ∈ before, decide (c ≠ '=') = true :=
  fun _ hc => decide_eq_true (ne_of_mem_of_not_mem hc h)

theorem takeWhile_behind (h : '=' ∉ before) :
    (before ++ behind attached).takeWhile (· ≠ '=') = before := by
  rw [List.takeWhile_append_of_pos (forall_ne_equals h)]
  cases attached <;> simp [behind]

theorem dropWhile_behind (h : '=' ∉ before) :
    (before ++ behind attached).dropWhile (· ≠ '=') = behind attached := by
  rw [List.dropWhile_append_of_pos (forall_ne_equals h)]
  cases attached <;> simp [behind]

/-- A long word begins with the marker. -/
theorem isLong_iff : isLong word = true ↔ marker <+: word := by
  rw [isLong, List.isPrefixOf_iff_prefix]

theorem isLong_letter (switch : Switch) (rest : Name) :
    isLong ('-' :: switch.letter :: rest) = false := by
  cases switch <;> rfl

/-- The marker is in front of the first equals sign. -/
theorem isLong_append_behind :
    isLong (before ++ behind attached) = true ↔ isLong before = true := by
  rw [isLong_iff, isLong_iff]
  rcases before with _ | ⟨c, _ | ⟨d, rest⟩⟩ <;> cases attached <;>
    simp [marker, behind, List.cons_prefix_cons]

/-- A name in full, with what stands behind it. -/
theorem Spells.of_named (h : Switch.ofSpelling? before = some switch) (attached : Option Name) :
    Spells switch (isLong (before ++ behind attached)) (before ++ behind attached) attached := by
  rcases Switch.ofSpelling?_eq_some_iff.1 h with rfl | rfl
  · have hshort : isLong (['-', switch.letter] ++ behind attached) = false := isLong_letter switch _
    rw [hshort]
    exact .short attached
  · have hlength : marker.length < switch.longName.length :=
      Nat.lt_of_lt_of_le (by decide) switch.length_longName
    rw [isLong_append_behind.2 switch.isLong_longName]
    exact .long List.prefix_rfl hlength attached

/-- And a beginning that one long name alone has. -/
theorem Spells.of_filter {name : Name} (hlong : isLong before = true)
    (h : spellings.filter (fun s => before.isPrefixOf s.1) = [(name, switch)])
    (attached : Option Name) : Spells switch true (before ++ behind attached) attached := by
  have hmem : (name, switch) ∈ spellings.filter fun s => before.isPrefixOf s.1 := by
    rw [h]
    exact List.mem_singleton_self _
  obtain ⟨hname, hprefix⟩ := List.mem_filter.1 hmem
  have hbefore : before <+: name := List.isPrefixOf_iff_prefix.1 hprefix
  obtain ⟨rest, rfl⟩ := isLong_iff.1 hlong
  rcases Switch.mem_spellings.1 hname with rfl | rfl
  · -- a letter is no second minus sign
    have hletter : '-' = switch.letter :=
      (List.cons_prefix_cons.1 (List.cons_prefix_cons.1 hbefore).2).1
    exact absurd hletter.symm switch.letter_ne_minus
  · refine .long hbefore ?_ attached
    cases rest with
    | cons c rest => simp
    | nil =>
      -- with the marker all long names begin
      have hthree : (spellings.filter fun s => (marker ++ []).isPrefixOf s.1).length = 3 := by
        decide
      rw [h] at hthree
      cases hthree

/-- And a letter that more is joined to. -/
theorem Spells.of_take (hbefore : '=' ∉ before) (hnamed : Switch.ofSpelling? before = none)
    (h : Switch.ofSpelling? ((before ++ behind attached).take 2) = some switch) :
    Spells switch false (before ++ behind attached)
      (some ((before ++ behind attached).drop 2)) := by
  have htake : (before ++ behind attached).take 2 = ['-', switch.letter] := by
    refine (Switch.ofSpelling?_eq_some_iff.1 h).resolve_right fun hlong => ?_
    have hlength := switch.length_longName
    rw [← hlong, List.length_take] at hlength
    omega
  rcases before with _ | ⟨c, _ | ⟨d, _ | ⟨e, rest⟩⟩⟩
  · cases attached <;> simp [behind] at htake
  · cases attached with
    | none => simp [behind] at htake
    | some value =>
      simp only [behind, List.singleton_append, List.take_succ_cons, List.take_zero,
        List.cons.injEq] at htake
      exact absurd htake.2.1.symm switch.letter_ne_equals
  · -- nothing is joined to it, so it is written in full
    have hpair : [c, d] = ['-', switch.letter] := by simpa using htake
    rw [hpair, Switch.ofSpelling?_pair_eq_some_iff.2 rfl] at hnamed
    cases hnamed
  · have he : e ≠ '=' := by
      rintro rfl
      simp at hbefore
    simp only [List.cons_append, List.take_succ_cons, List.take_zero, List.cons.injEq] at htake
    obtain ⟨rfl, rfl, -⟩ := htake
    exact .joined he (rest ++ behind attached)

/-- No other word is an option. -/
theorem Word.ofOther_ne_option : Word.ofOther word ≠ .option switch long attached := by
  rw [ofOther]
  split <;> exact Word.noConfusion

/-- What is taken for an option is written as one. -/
theorem Spells.of_word (h : Word.of word = .ok (.option switch long attached)) :
    Spells switch long word attached := by
  obtain ⟨before, attached', hbefore, rfl⟩ := exists_behind word
  simp only [Word.of, takeWhile_behind hbefore, dropWhile_behind hbefore] at h
  split at h
  · cases h
  · split at h
    next switch' hnamed =>
      cases h
      cases attached' <;> exact .of_named hnamed _
    next hnamed =>
      split at h
      next hlong =>
        rw [isLong_append_behind] at hlong
        split at h
        · exact absurd (Except.ok.inj h) Word.ofOther_ne_option
        next hfilter =>
          cases h
          cases attached' <;> exact .of_filter hlong hfilter _
        · cases h
      next hshort =>
        split at h
        next switch' hletter =>
          cases h
          exact .of_take hbefore hnamed hletter
        · exact absurd (Except.ok.inj h) Word.ofOther_ne_option

/-- And what is written as an option is taken for it. -/
theorem Spells.of_eq (h : Spells switch long word attached) :
    Word.of word = .ok (.option switch long attached) := by
  cases h with
  | @long beginning hbeginning hlength attached =>
    obtain ⟨hlong, hequals, hnamed⟩ := Switch.of_beginning hbeginning hlength
    have hlong' : isLong (beginning ++ behind attached) = true := isLong_append_behind.2 hlong
    simp only [Word.of, takeWhile_behind hequals, dropWhile_behind hequals, hlong']
    obtain ⟨rest, rfl⟩ := isLong_iff.1 hlong
    rw [if_neg (by simp [marker])]
    rcases hnamed with hnamed | ⟨hnamed, hfilter⟩
    · rw [hnamed]
      cases attached <;> rfl
    · rw [hnamed, hfilter]
      cases attached <;> rfl
  | short attached =>
    have hequals : '=' ∉ ['-', switch.letter] := by simp [switch.letter_ne_equals.symm]
    have hnamed := Switch.ofSpelling?_pair_eq_some_iff.2 (rfl : switch.letter = switch.letter)
    have hshort : isLong (['-', switch.letter] ++ behind attached) = false := isLong_letter switch _
    simp only [Word.of, takeWhile_behind hequals, dropWhile_behind hequals, hnamed, hshort]
    rw [if_neg (by simp)]
    cases attached <;> rfl
  | @joined c hc value =>
    obtain ⟨before, attached, hbefore, rfl⟩ := exists_behind value
    have hequals : '=' ∉ '-' :: switch.letter :: c :: before := by
      simp [switch.letter_ne_equals.symm, hc.symm, hbefore]
    have hword : '-' :: switch.letter :: c :: (before ++ behind attached) =
        ('-' :: switch.letter :: c :: before) ++ behind attached := rfl
    have hnamed : Switch.ofSpelling? ('-' :: switch.letter :: c :: before) = none := by
      refine Option.eq_none_iff_forall_ne_some.2 fun other hother => ?_
      rcases Switch.ofSpelling?_eq_some_iff.1 hother with heq | heq
      · simp at heq
      · have hshort := isLong_letter switch (c :: before)
        rw [heq, other.isLong_longName] at hshort
        cases hshort
    rw [hword]
    simp only [Word.of, takeWhile_behind hequals, dropWhile_behind hequals, hnamed]
    rw [if_neg (by simp), List.cons_append, List.cons_append, isLong_letter,
      if_neg Bool.false_ne_true]
    simp only [List.take_succ_cons, List.take_zero, Switch.ofSpelling?_pair_eq_some_iff.2 rfl]
    rfl

/-- **An option is a word that is written as one.** -/
theorem Word.of_eq_option_iff :
    Word.of word = .ok (.option switch long attached) ↔ Spells switch long word attached :=
  ⟨Spells.of_word, Spells.of_eq⟩

/-! ## Telling words apart -/

/-- What is told of a word is told of that word. -/
theorem Word.of_cases {w : Word} (h : Word.of word = .ok w) :
    w = .operand word ∨ w = .unknown word ∨
      ∃ switch long attached, w = .option switch long attached := by
  simp only [Word.of, Word.ofOther] at h
  repeat' split at h
  all_goals cases h
  all_goals simp

/-- The marker is told apart before. -/
theorem ne_marker_of_of {w : Word} (h : Word.of word = .ok w) : word ≠ marker := by
  rintro rfl
  cases h

/-- **A line is told apart word by word.** -/
theorem ofAll_cons_eq_ok_iff {rest : List Name} {all : List Word} (hmarker : word ≠ marker) :
    Word.ofAll (word :: rest) = .ok all ↔
      ∃ w others, Word.of word = .ok w ∧ Word.ofAll rest = .ok others ∧ all = w :: others := by
  rw [Word.ofAll, if_neg hmarker]
  constructor
  · intro h
    obtain ⟨w, hw, h⟩ := bind_eq_ok_iff.1 h
    obtain ⟨others, hothers, h⟩ := bind_eq_ok_iff.1 h
    cases h
    exact ⟨w, others, hw, hothers, rfl⟩
  · rintro ⟨w, others, hw, hothers, rfl⟩
    simp [hw, hothers]

/-- A line is empty, or begins with the marker, behind which are operands
alone, or with another word. -/
theorem ofAll_cases {words : List Name} {all : List Word} (h : Word.ofAll words = .ok all) :
    (words = [] ∧ all = []) ∨
      (∃ rest, words = marker :: rest ∧ all = .marker :: rest.map .operand) ∨
      ∃ word rest w others, words = word :: rest ∧ all = w :: others ∧
        Word.of word = .ok w ∧ Word.ofAll rest = .ok others := by
  cases words with
  | nil =>
    cases h
    exact .inl ⟨rfl, rfl⟩
  | cons word rest =>
    by_cases hmarker : word = marker
    · rw [Word.ofAll, if_pos hmarker] at h
      cases h
      exact .inr (.inl ⟨rest, by rw [hmarker], rfl⟩)
    · obtain ⟨w, others, hw, hothers, rfl⟩ := (ofAll_cons_eq_ok_iff hmarker).1 h
      exact .inr (.inr ⟨word, rest, w, others, rfl, rfl, hw, hothers⟩)

/-- What is not the marker is told of the first word. -/
theorem exists_of_ofAll_cons {words : List Name} {w : Word} {others : List Word}
    (h : Word.ofAll words = .ok (w :: others)) (hw : w ≠ .marker) :
    ∃ word rest, words = word :: rest ∧ Word.of word = .ok w ∧ Word.ofAll rest = .ok others := by
  obtain ⟨-, hnil⟩ | ⟨_, -, heq⟩ | ⟨word, rest, _, _, rfl, heq, hword, hothers⟩ := ofAll_cases h
  · cases hnil
  · cases heq
    exact absurd rfl hw
  · cases heq
    exact ⟨word, rest, rfl, hword, hothers⟩

/-! ## Several options to a word -/

/-- **A letter among letters:** before it are those of options without a
value. -/
inductive Lettered (switch : Switch) : List Char → Prop
  | head (rest : List Char) : Lettered switch (switch.letter :: rest)
  | tail {flag : Switch} {rest : List Char} (hflag : flag ≠ .output) (h : Lettered switch rest) :
      Lettered switch (flag.letter :: rest)

@[simp] theorem not_lettered_nil : ¬ Lettered switch [] := by
  rintro ⟨⟩

/-- What stands behind the letter of the output option is its value. -/
theorem lettered_cons {first : Switch} {rest : List Char} :
    Lettered switch (first.letter :: rest) ↔
      first = switch ∨ first ≠ .output ∧ Lettered switch rest := by
  constructor
  · generalize hletters : first.letter :: rest = letters
    rintro (_ | ⟨hflag, h⟩)
    · exact .inl (Switch.letter_inj.1 (List.cons.inj hletters).1)
    · obtain ⟨hfirst, rfl⟩ := List.cons.inj hletters
      rw [Switch.letter_inj.1 hfirst]
      exact .inr ⟨hflag, h⟩
  · rintro (rfl | ⟨hfirst, h⟩)
    · exact .head rest
    · exact .tail hfirst h

/-- **A word writes an option** as the first or the only one, or by a letter
behind that of an option without a value. -/
inductive Writes (switch : Switch) (word : Name) : Prop
  | spelled {long : Bool} {attached : Option Name} (h : Spells switch long word attached)
  | lettered {flag : Switch} {letters : List Char} (hflag : flag ≠ .output)
      (h : Spells flag false word (some letters)) (hletters : Lettered switch letters)

/-- **A line gives an option** if it is written before the marker. -/
def Gives (switch : Switch) (words : List Name) : Prop :=
  ∃ word ∈ words.takeWhile (· ≠ marker), Writes switch word

@[simp] theorem not_gives_nil : ¬ Gives switch [] := by
  simp [Gives]

@[simp] theorem not_gives_marker (rest : List Name) : ¬ Gives switch (marker :: rest) := by
  simp [Gives]

theorem gives_cons {rest : List Name} (h : word ≠ marker) :
    Gives switch (word :: rest) ↔ Writes switch word ∨ Gives switch rest := by
  rw [Gives, List.takeWhile_cons_of_pos (by simpa using h)]
  simp [Gives]

/-- The options that a word mentions once it is told what it is. -/
def Word.Mentions (switch : Switch) : Word → Prop
  | .option first long attached =>
    first = switch ∨ first ≠ .output ∧ long = false ∧
      ∃ letters, attached = some letters ∧ Lettered switch letters
  | .operand _ | .unknown _ | .marker => False

/-- **A word mentions what it writes.** -/
theorem writes_iff {w : Word} (h : Word.of word = .ok w) :
    Writes switch word ↔ w.Mentions switch := by
  constructor
  · rintro (hspelled | ⟨hflag, hspelled, hletters⟩)
    · rw [hspelled.of_eq] at h
      cases h
      exact .inl rfl
    · rw [hspelled.of_eq] at h
      cases h
      exact .inr ⟨hflag, rfl, _, rfl, hletters⟩
  · intro hmentions
    cases w with
    | operand | unknown | marker => exact hmentions.elim
    | option first long attached =>
      rw [Word.of_eq_option_iff] at h
      rcases hmentions with rfl | ⟨hfirst, rfl, letters, rfl, hletters⟩
      · exact .spelled h
      · exact .lettered hfirst h hletters

/-- **A line gives what its words mention.** -/
theorem gives_iff {words : List Name} {all : List Word} (h : Word.ofAll words = .ok all) :
    Gives switch words ↔ ∃ w ∈ all, w.Mentions switch := by
  induction words generalizing all with
  | nil =>
    cases h
    simp
  | cons word rest ih =>
    obtain ⟨hnil, -⟩ | ⟨rest, heq, rfl⟩ | ⟨word, rest, w, others, heq, rfl, hw, hothers⟩ :=
      ofAll_cases h
    · cases hnil
    · -- what stands behind the marker mentions nothing
      cases heq
      simp [Word.Mentions]
    · cases heq
      rw [gives_cons (ne_marker_of_of hw), writes_iff hw, ih hothers, List.exists_mem_cons_iff]

end CommandLine

end Reckoner
