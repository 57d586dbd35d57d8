import Reckoner.Text.Blank
/-!
# Text — lines

Two conventions meet in a text file. First the three ways of ending a
line are brought to the line feed (`unifyNewlines`); then the text is cut
at every line break of Unicode (`splitLines`), and a text that ends with
a break has no further, empty line.
-/

namespace Reckoner

namespace Text

/-- Brings a carriage return, alone or before a line feed, to a line
feed. -/
def unifyNewlines : List Char → List Char
  | [] => []
  | '\r' :: '\n' :: cs => '\n' :: unifyNewlines cs
  | '\r' :: cs => '\n' :: unifyNewlines cs
  | c :: cs => c :: unifyNewlines cs

/-- A line break of a text whose newlines are unified, so that the
carriage return is not among them; nor is the unit separator. -/
def isLineBreak (c : Char) : Bool :=
  let n := c.toNat
  (0x0A ≤ n && n ≤ 0x0C) || (0x1C ≤ n && n ≤ 0x1E) || n == 0x85 || n == 0x2028 || n == 0x2029

/-- **The lines of a text,** without their breaks. -/
def splitLines : List Char → List (List Char)
  | [] => []
  | c :: cs =>
    if isLineBreak c then [] :: splitLines cs
    else
      match splitLines cs with
      | [] => [[c]]
      | line :: rest => (c :: line) :: rest

/-- The first line of a text and whether the text holds one: input that
has ended holds none. -/
def firstLine? : List Char → Option (List Char)
  | [] => none
  | cs => some ((unifyNewlines cs).takeWhile (· ≠ '\n'))

/-- Every line break is a blank. -/
theorem isBlank_of_isLineBreak {c : Char} (h : isLineBreak c = true) : isBlank c = true := by
  simp only [isLineBreak, isBlank, Bool.or_eq_true, Bool.and_eq_true, decide_eq_true_eq,
    beq_iff_eq] at h ⊢
  omega

end Text

end Reckoner
