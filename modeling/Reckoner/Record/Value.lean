import Reckoner.Number.Numeral
import Reckoner.Text.Blank
import Reckoner.Text.Quoted
/-!
# Record — values and checks

A record comes in as named values of any type and is checked field by
field. A check takes what can be read as the type asked for: a whole
number may come as a text, as a truth value or as a float that has no
fraction and fits in 64 bits. Every field is checked, so the issues with a record are all of
them, in the order of its fields.
-/

namespace Reckoner

namespace Record

/-- A value of a field. Lists and objects are told from the rest but not
looked into. -/
inductive Value where
  | null
  | bool (b : Bool)
  | int (n : Int)
  | float (x : Float)
  | text (s : String)
  | composite

/-- What can be wrong with a field. -/
inductive Complaint where
  | missing
  | notText
  | tooShort (least : Nat)
  | tooLong (most : Nat)
  | notInteger
  | integerSyntax
  | integerSize
  | fractional
  | notFinite
  | notNumber
  | numberSyntax
  | tooSmall (least : Int)
  | tooLarge (most : Int)
  | notAmong (names : List String)
  | notPath
  | notFile
  /-- A rule of the record's own is broken. -/
  | rule (text : String)
  /-- A field of a finished record was assigned to. -/
  | frozen
  deriving DecidableEq, Repr

namespace Complaint

/-- The code of a complaint, for a caller to branch on. -/
def code : Complaint → String
  | missing => "missing"
  | notText => "string_type"
  | tooShort _ => "string_too_short"
  | tooLong _ => "string_too_long"
  | notInteger => "int_type"
  | integerSyntax => "int_parsing"
  | integerSize => "int_parsing_size"
  | fractional => "int_from_float"
  | notFinite => "finite_number"
  | notNumber => "float_type"
  | numberSyntax => "float_parsing"
  | tooSmall _ => "greater_than_equal"
  | tooLarge _ => "less_than_equal"
  | notAmong _ => "enum"
  | notPath => "path_type"
  | notFile => "path_not_file"
  | rule _ => "value_error"
  | frozen => "frozen_instance"

/-- A number of characters. -/
def characters (n : Nat) : String :=
  s!"{n} character" ++ if n = 1 then "" else "s"

/-- Names in quotes, the last joined by a word. -/
def alternatives : List String → String
  | [] => ""
  | [name] => Text.quote name.toList
  | [name, last] => Text.quote name.toList ++ " or " ++ Text.quote last.toList
  | name :: rest => Text.quote name.toList ++ ", " ++ alternatives rest

/-- **The message of a complaint.** -/
def message : Complaint → String
  | missing => "Field required"
  | notText => "Input should be a valid string"
  | tooShort least => "String should have at least " ++ characters least
  | tooLong most => "String should have at most " ++ characters most
  | notInteger => "Input should be a valid integer"
  | integerSyntax => "Input should be a valid integer, unable to parse string as an integer"
  | integerSize => "Unable to parse input string as an integer, exceeded maximum size"
  | fractional => "Input should be a valid integer, got a number with a fractional part"
  | notFinite => "Input should be a finite number"
  | notNumber => "Input should be a valid number"
  | numberSyntax => "Input should be a valid number, unable to parse string as a number"
  | tooSmall least => s!"Input should be greater than or equal to {least}"
  | tooLarge most => s!"Input should be less than or equal to {most}"
  | notAmong names => "Input should be " ++ alternatives names
  | notPath => "Input is not a valid path for <class 'pathlib.Path'>"
  | notFile => "Path does not point to a file"
  | rule text => "Value error, " ++ text
  | frozen => "Instance is frozen"

end Complaint

/-- A complaint and the field it is about; none where it is about the
record as a whole. -/
structure Issue where
  field : Option String
  complaint : Complaint
  deriving DecidableEq, Repr

/-! ## Checks of one value -/

/-- A check reads a value as an `α` or complains. -/
abbrev Check (α : Type) := Value → Except Complaint α

/-- A text without its underscores, each of which stands between two
other characters. -/
def ungroup? (cs : List Char) : Option (List Char) :=
  let pieces := (String.ofList cs).splitOn "_"
  if pieces.any String.isEmpty then none else some (pieces.flatMap String.toList)

/-! ### Whole numbers -/

/-- What follows a zero, and zeros and underscores in any number behind
it, of which `last` is the last. They are passed over, except that a text
of nothing else ends in its last one, and that a point keeps the one
before it. A minus sign may still come. -/
def afterZero? (last : Char) : List Char → Option (List Char)
  | [] => some [last]
  | c :: cs =>
    if c = '0' || c = '_' then afterZero? c cs
    else if c = '.' then some (last :: c :: cs)
    else if c.isDigit || c = '-' then some (c :: cs)
    else none

/-- A text that begins with a digit, without the zeros in front. -/
def withoutZeros? : List Char → Option (List Char)
  | [] => none
  | c :: cs =>
    if c = '0' then afterZero? c cs
    else if c.isDigit then some (c :: cs)
    else none

/-- A text without a point at the end that zeros alone follow, at least
one. -/
def withoutFraction (cs : List Char) : List Char :=
  match cs.dropWhile (· ≠ '.') with
  | _ :: zero :: zeros =>
    if (zero :: zeros).all (· = '0') then cs.takeWhile (· ≠ '.') else cs
  | _ => cs

/-- The greatest length of a whole number, its sign included. -/
def greatestLength : Nat := 4300

/-- The whole number of a sign and digits, of which the first is no zero
unless it is alone. It is the length of the digits in front that is
limited, so that a number too long is known as such before its end. -/
def plainInteger (negative : Bool) (cs : List Char) : Except Complaint Int :=
  let digits := cs.takeWhile Char.isDigit
  if digits.head? = some '0' && digits.length ≠ 1 then .error .integerSyntax
  else if greatestLength < digits.length + negative.toNat then .error .integerSize
  else if Number.isDigits cs then
    .ok (if negative then -Number.ofDigits cs else Number.ofDigits cs)
  else .error .integerSyntax

/-- The whole number of a text without a sign of its own in front. -/
def unsignedInteger (negative : Bool) (cs : List Char) : Except Complaint Int :=
  match withoutZeros? cs with
  | none => .error .integerSyntax
  | some cs =>
    let cs := withoutFraction cs
    match negative, (ungroup? cs).getD cs with
    | false, '-' :: cs => plainInteger true cs
    | negative, cs => plainInteger negative cs

/-- **The whole number a text denotes.** White space around it, a sign,
zeros in front, underscores between digits and a fraction of zeros are let
through. -/
def integer (cs : List Char) : Except Complaint Int :=
  match Text.trim Text.isSpace cs with
  | '-' :: cs => unsignedInteger true cs
  | '+' :: cs => unsignedInteger false cs
  | cs => unsignedInteger false cs

/-- Whether a whole number fits in 64 bits, on either side of zero. -/
def isShort (n : Int) : Bool :=
  n.natAbs < 0x8000000000000000

/-- The whole number that a double is, if it is short. -/
def integerOfFloat (x : Float) : Except Complaint Int :=
  let shape := Number.shape x
  if !shape.isFinite then .error .notFinite
  else
    match shape.whole? with
    | some n => if isShort n then .ok n else .error .integerSize
    | none => .error .fractional

/-! ### Numbers -/

/-- **The number a text denotes.** White space around it or underscores in
it are let through, but not both. -/
def number? (cs : List Char) : Option Float :=
  Number.ofText? (Text.trim Text.isSpace cs) <|> (ungroup? cs).bind Number.ofText?

/-- The number that a whole number is, rounded; one beyond the range is
none. -/
def numberOfInteger? (n : Int) : Option Float :=
  let x := Number.ofInt n
  if (Number.shape x).isFinite then some x else none

namespace Value

/-- Takes a text only. -/
def asText : Check String
  | text s => .ok s
  | _ => .error .notText

/-- **Takes what can be read as a whole number.** -/
def asInteger : Check Int
  | int n => .ok n
  | bool b => .ok (if b then 1 else 0)
  | float x => integerOfFloat x
  | text s => integer s.toList
  | null | composite => .error .notInteger

/-- **Takes what can be read as a number.** -/
def asNumber : Check Float
  | float x => .ok x
  | int n =>
    match numberOfInteger? n with
    | some x => .ok x
    | none => .error .notNumber
  | bool b => .ok (if b then 1 else 0)
  | text s =>
    match number? s.toList with
    | some x => .ok x
    | none => .error .numberSyntax
  | null | composite => .error .notNumber

/-- Takes one of the names listed, read by `ofName?`. -/
def asName (names : List String) (ofName? : String → Option α) : Check α
  | text s =>
    match ofName? s with
    | some a => .ok a
    | none => .error (.notAmong names)
  | _ => .error (.notAmong names)

/-- Lets null stand for nothing. -/
def orNull (check : Check α) : Check (Option α)
  | null => .ok none
  | v => (check v).map some

end Value

/-! ## Checks of a record -/

/-- The fields of a record as they come in. -/
abbrev Fields := List (String × Value)

/-- The checked part of a record, or all that is wrong with it. -/
abbrev Checked (α : Type) := Except (List Issue) α

/-- Checks a field that has to be there. -/
def Fields.required (fields : Fields) (name : String) (check : Check α) : Checked α :=
  match fields.lookup name with
  | none => .error [⟨name, .missing⟩]
  | some v => (check v).mapError fun c => [⟨name, c⟩]

/-- Checks a field that may be left out. -/
def Fields.withDefault (fields : Fields) (name : String) (default : α) (check : Check α) :
    Checked α :=
  match fields.lookup name with
  | none => .ok default
  | some v => (check v).mapError fun c => [⟨name, c⟩]

/-- Joins two parts of a record, and the issues with both. -/
def Checked.and : Checked α → Checked β → Checked (α × β)
  | .ok a, .ok b => .ok (a, b)
  | .ok _, .error issues => .error issues
  | .error issues, .ok _ => .error issues
  | .error first, .error second => .error (first ++ second)

/-- Assigns to fields of a finished record: the first assignment is
refused, whatever the field and the value. -/
def assign (record : α) : List String → Checked α
  | [] => .ok record
  | name :: _ => .error [⟨name, .frozen⟩]

end Record

end Reckoner
