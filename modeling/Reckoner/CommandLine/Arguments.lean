import Reckoner.Folder
import Reckoner.Record.Value
import Reckoner.Text.Digit
/-!
# Command line — arguments

The words of a command line are first told apart, into operands, options
and words that look like options and are none, and then read from left to
right. The first operand is the operations file. A long option may be
shortened as long as it stays the only one meant; its value follows an
equals sign or is the next word. Short options can share a word, in which
the first that takes a value takes the rest, and an equals sign behind the
first of them is passed over. After the marker `--` every word is an
operand; the marker is never a value.

For words that hold more than one option these are the older of the rules
in use. By the newer ones `-vo=a` gives the output `a` and not `=a`, the
marker in `-o--` and `--output=--` is a name like any other, and `-vx` and
`-hx` are split at the letter that is no option: `-x` is left over from the
one, and the other asks for help.
-/

namespace Reckoner

namespace CommandLine

/-- The options. -/
inductive Switch where
  | help | output | verbose
  deriving DecidableEq, Repr

/-- The ways to write an option in full. -/
def spellings : List (Name × Switch) :=
  [("-h".toList, .help), ("--help".toList, .help), ("-o".toList, .output),
    ("--output".toList, .output), ("-v".toList, .verbose), ("--verbose".toList, .verbose)]

/-- The marker after which every word is an operand. -/
def marker : Name := ['-', '-']

namespace Switch

/-- How an option is called in a message. -/
def label : Switch → String
  | help => "-h/--help"
  | output => "-o/--output"
  | verbose => "-v/--verbose"

/-- The option written so in full. -/
def ofSpelling? (word : Name) : Option Switch :=
  spellings.lookup word

end Switch

/-- What can be wrong with a command line. -/
inductive ArgumentFault where
  /-- A shortened option could be any of these. -/
  | ambiguous (word : Name) (meant : List Name)
  /-- An option that takes a value has none. -/
  | missingValue (option : Switch)
  /-- An option that takes no value has one. -/
  | unwantedValue (option : Switch) (value : Name)
  /-- Words are left over. -/
  | unrecognized (words : List Name)
  /-- An option of batches stands without an operations file. -/
  | needsFile (option : String)
  /-- The operations file is not there, or the results have no path, or
  both. -/
  | invalid (missing : Option Name) (pathless : Bool)
  deriving DecidableEq, Repr

/-- The longest beginning of a text that takes up no more bytes than there
is room for. -/
def fitting (room : Nat) : List Char → List Char
  | [] => []
  | c :: cs => if c.utf8Size ≤ room then c :: fitting (room - c.utf8Size) cs else []

/-- A text of more than fifty bytes shortened to its beginning and its
end, of at most twenty-five and twenty-four bytes. -/
def abridge (cs : List Char) : List Char :=
  if (String.ofList cs).utf8ByteSize ≤ 50 then cs
  else fitting 25 cs ++ ['.', '.', '.'] ++ (fitting 24 cs.reverse).reverse

/-- A complaint about an argument in words: the argument, what is wrong with
it, and what was given. -/
def complaintText (argument : String) (complaint : Record.Complaint) (shown sort : String) :
    String :=
  s!"\n{argument}\n  {complaint.message} [type={complaint.code}, input_value={shown}, " ++
    s!"input_type={sort}]"

/-- Complaints in words, after their number. -/
def complaintsText (complaints : List String) : String :=
  let errors := if complaints.length = 1 then "error" else "errors"
  s!"{complaints.length} validation {errors} for CliArgs" ++ String.join complaints

/-- **The message of a fault.** -/
def ArgumentFault.message : ArgumentFault → String
  | ambiguous word meant =>
    s!"ambiguous option: {String.ofList word} could match " ++
      ", ".intercalate (meant.map String.ofList)
  | missingValue option => s!"argument {option.label}: expected one argument"
  | unwantedValue option value =>
    s!"argument {option.label}: ignored explicit argument {Text.quote value}"
  | unrecognized words =>
    "unrecognized arguments: " ++ " ".intercalate (words.map String.ofList)
  | needsFile option => s!"{option} requires an operations file"
  | invalid missing pathless =>
    let file := missing.map fun word =>
      complaintText "file_path" .notFile (String.ofList (abridge (Text.quote word).toList)) "str"
    let output := if pathless then [complaintText "output_file" .notPath "[]" "list"] else []
    complaintsText (file.toList ++ output)

/-! ## Telling words apart -/

/-- A word of the command line. -/
inductive Word where
  | operand (word : Name)
  /-- An option, and what stands behind it in the same word. -/
  | option (switch : Switch) (long : Bool) (attached : Option Name)
  /-- It looks like an option and is none. -/
  | unknown (word : Name)
  | marker
  deriving DecidableEq, Repr

/-- Whether a word begins as long options do. -/
def isLong (word : Name) : Bool :=
  marker.isPrefixOf word

/-- Whether a word is a negative number: a minus sign and decimal digits,
perhaps with a point that more of them follow. A line feed at the end is
passed over. -/
def isNegativeNumber : Name → Bool
  | '-' :: cs =>
    let number := if cs.getLast? = some '\n' then cs.dropLast else cs
    match number.dropWhile Text.isDecimalDigit with
    | [] => !number.isEmpty
    | '.' :: fraction => !fraction.isEmpty && fraction.all Text.isDecimalDigit
    | _ => false
  | _ => false

/-- A word that begins like an option and is none: a negative number or a
word with a space is an operand. -/
def Word.ofOther (word : Name) : Word :=
  if isNegativeNumber word || word.contains ' ' then .operand word else .unknown word

/-- **What a word is.** -/
def Word.of (word : Name) : Except ArgumentFault Word :=
  let before := word.takeWhile (· ≠ '=')
  let attached : Option Name :=
    match word.dropWhile (· ≠ '=') with
    | [] => none
    | _ :: value => some value
  if word.head? ≠ some '-' || word.length = 1 then .ok (.operand word)
  else
    match Switch.ofSpelling? before with
    | some switch => .ok (.option switch (isLong word) attached)
    | none =>
      if isLong word then
        match spellings.filter fun s => before.isPrefixOf s.1 with
        | [] => .ok (Word.ofOther word)
        | [(_, switch)] => .ok (.option switch true attached)
        | meant => .error (.ambiguous word (meant.map (·.1)))
      else
        match Switch.ofSpelling? (word.take 2) with
        | some switch => .ok (.option switch false (some (word.drop 2)))
        | none => .ok (Word.ofOther word)

/-- Tells the words of a command line apart. -/
def Word.ofAll : List Name → Except ArgumentFault (List Word)
  | [] => .ok []
  | word :: rest =>
    if word = CommandLine.marker then .ok (.marker :: rest.map .operand)
    else do
      let first ← Word.of word
      return first :: (← Word.ofAll rest)

/-! ## Reading words -/

/-- What is given as the path of the results. -/
inductive GivenOutput where
  | nothing
  | name (word : Name)
  /-- The marker in the place of a value, which is no path. -/
  | marker
  deriving DecidableEq, Repr

/-- A value of the output option. -/
def GivenOutput.ofValue (value : Name) : GivenOutput :=
  if value = CommandLine.marker then marker else name value

/-- The path the results are given, if they are given one. -/
def GivenOutput.name? : GivenOutput → Option Name
  | name word => some word
  | nothing | marker => none

/-- **What a command line gives.** -/
structure Given where
  file : Option Name := none
  output : GivenOutput := .nothing
  verbose : Bool := false
  help : Bool := false
  /-- The words nothing asks for, in order. -/
  extras : List Name := []
  deriving DecidableEq, Repr

namespace Given

/-- Adds a word that nothing asks for. -/
def extra (g : Given) (word : Name) : Given :=
  { g with extras := g.extras ++ [word] }

/-- Notes an option that takes no value. -/
def flag (g : Given) : Switch → Given
  | .help => { g with help := true }
  | .verbose => { g with verbose := true }
  | .output => g

/-- Notes the value of the output option. -/
def putOutput (g : Given) (value : Name) : Given :=
  { g with output := .ofValue value }

/-- Reads the letters behind a short option that takes no value, as
options in the same word. Says whether a value is still to come. -/
def letters (g : Given) (switch : Switch) : List Char → Except ArgumentFault (Given × Bool)
  | [] => .ok (g.flag switch, false)
  | c :: rest =>
    match Switch.ofSpelling? ['-', c], rest with
    | none, rest => .error (.unwantedValue switch (c :: rest))
    | some .output, [] => .ok (g.flag switch, true)
    | some .output, value => .ok ((g.flag switch).putOutput value, false)
    | some next, rest => (g.flag switch).letters next rest

/-- Reads an option. Says whether its value is still to come. -/
def option (g : Given) : Switch → Bool → Option Name → Except ArgumentFault (Given × Bool)
  | .output, _, none => .ok (g, true)
  | .output, _, some value => .ok (g.putOutput value, false)
  | switch, _, none => .ok (g.flag switch, false)
  | switch, false, some (c :: cs) => g.letters switch (c :: cs)
  | switch, _, some value => .error (.unwantedValue switch value)

/-- Reads words from left to right; `justFile` says that the last one was
taken as the operations file, behind which a marker goes unnoticed. Asking
for help ends the reading. -/
def words (g : Given) (justFile : Bool) : List Word → Except ArgumentFault Given
  | [] => .ok g
  | .operand word :: rest =>
    if g.file.isNone then { g with file := some word }.words true rest
    else (g.extra word).words false rest
  | .unknown word :: rest => (g.extra word).words false rest
  | .marker :: rest =>
    if g.file.isNone || justFile then g.words false rest
    else (g.extra CommandLine.marker).words false rest
  | .option switch long attached :: rest =>
    match g.option switch long attached with
    | .error fault => .error fault
    | .ok (g, false) => if g.help then .ok g else g.words false rest
    | .ok (g, true) =>
      match rest with
      | .operand value :: rest =>
        if g.help then .ok g else (g.putOutput value).words false rest
      | _ => .error (.missingValue .output)

end Given

/-! ## Arguments -/

/-- **The arguments of a run:** without an operations file it is an
interactive one. -/
structure Arguments where
  file : Option Path
  output : Option Path
  verbose : Bool
  deriving DecidableEq, Repr

/-- What a command line asks for. -/
inductive Parsed where
  | help
  | run (arguments : Arguments)

/-- Whether a word is given and not empty. -/
def isNamed (word : Option Name) : Bool :=
  !(word.getD []).isEmpty

/-- The name given as the operations file, if no file is there. -/
def missingFile (folder : Folder) (g : Given) : Option Name :=
  g.file.filter fun word => !folder.isFile (.ofChars word)

/-- The arguments of what was given. An empty name counts as none where
the two options ask for an operations file. -/
def Arguments.ofGiven (folder : Folder) (g : Given) : Except ArgumentFault Arguments :=
  let missing := missingFile folder g
  let pathless := g.output == .marker
  if !g.extras.isEmpty then .error (.unrecognized g.extras)
  else if isNamed g.output.name? && !isNamed g.file then .error (.needsFile "--output")
  else if g.verbose && !isNamed g.file then .error (.needsFile "--verbose")
  else if missing.isSome || pathless then .error (.invalid missing pathless)
  else .ok ⟨g.file.map .ofChars, g.output.name?.map .ofChars, g.verbose⟩

/-- **What the words of a command line ask for.** -/
def parse (folder : Folder) (words : List Name) : Except ArgumentFault Parsed := do
  let g ← Given.words {} false (← Word.ofAll words)
  if g.help then return .help
  else return .run (← Arguments.ofGiven folder g)

/-- **The status of a program that ends at its command line:** two where it
is not understood, and zero where it asks for help. -/
def exitStatus? : Except ArgumentFault Parsed → Option Nat
  | .error _ => some 2
  | .ok .help => some 0
  | .ok (.run _) => none

end CommandLine

end Reckoner
