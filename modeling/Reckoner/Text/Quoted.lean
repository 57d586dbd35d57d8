import Reckoner.Text.Printable
/-!
# Text — quotation

A text is quoted in single quotes, or in double quotes where it holds a
single quote and no double one. Inside, the backslash and the quotation
mark in use are escaped, line feed, carriage return and tab have their
letters, and what is not printable is written by its code point, in the
shortest form that holds it. So a quotation is one line of printable
characters.
-/

namespace Reckoner

namespace Text

/-- The lower-case hexadecimal digits of a number, with zeros in front up
to the width. -/
def hexadecimal (width n : Nat) : List Char :=
  let digits := Nat.toDigits 16 n
  List.replicate (width - digits.length) '0' ++ digits

namespace Quoted

/-- The mark a text is quoted in. -/
def mark (cs : List Char) : Char :=
  if cs.contains '\'' && !cs.contains '"' then '"' else '\''

/-- How one character is written between marks `q`. -/
def escape (q c : Char) : List Char :=
  if c = '\\' ∨ c = q then ['\\', c]
  else if c = '\n' then ['\\', 'n']
  else if c = '\r' then ['\\', 'r']
  else if c = '\t' then ['\\', 't']
  else if isPrintable c then [c]
  else if c.toNat < 0x100 then '\\' :: 'x' :: hexadecimal 2 c.toNat
  else if c.toNat < 0x10000 then '\\' :: 'u' :: hexadecimal 4 c.toNat
  else '\\' :: 'U' :: hexadecimal 8 c.toNat

/-- **A quoted text.** -/
def encode (cs : List Char) : List Char :=
  mark cs :: cs.flatMap (escape (mark cs)) ++ [mark cs]

end Quoted

/-- A text in quotation marks, for a message. -/
def quote (cs : List Char) : String :=
  String.ofList (Quoted.encode cs)

end Text

end Reckoner
