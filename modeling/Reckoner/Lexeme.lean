import Reckoner.Operator
import Reckoner.Text.Blank
/-!
# Lexemes

The lexemes of an expression. A symbol is a lexeme of its own, and the
other characters gather into words, which a symbol or a blank ends. Blanks
are in no lexeme, so an expression needs none, and has as many as it likes
between two lexemes.
-/

namespace Reckoner

/-- **A lexeme:** a symbol, or a word, which is to be an operand. -/
inductive Lexeme where
  | symbol (s : Symbol)
  | word (cs : List Char)
  deriving DecidableEq, Repr

namespace Lexeme

/-- The characters of a lexeme. -/
def chars : Lexeme → List Char
  | symbol s => [s.char]
  | word cs => cs

/-- The text of a lexeme. -/
def text (l : Lexeme) : String :=
  String.ofList l.chars

/-- Reads a whole text as one lexeme: any text that is not just a symbol
is a word. -/
def ofChars : List Char → Lexeme
  | [c] =>
    match Symbol.ofChar? c with
    | some s => symbol s
    | none => word [c]
  | cs => word cs

/-- The operator a lexeme stands for, if it is a symbol. -/
def operator? (unaryContext : Bool) : Lexeme → Option Operator
  | symbol s => some (s.operator unaryContext)
  | word _ => none

/-- The word gathered so far, last character first, if there is one. -/
def gathered (current : List Char) : List Lexeme :=
  if current.isEmpty then [] else [word current.reverse]

/-- The lexemes of a text that follows the word being gathered. -/
def scan (current : List Char) : List Char → List Lexeme
  | [] => gathered current
  | c :: cs =>
    if Text.isBlank c then gathered current ++ scan [] cs
    else
      match Symbol.ofChar? c with
      | some s => gathered current ++ symbol s :: scan [] cs
      | none => scan (c :: current) cs

@[simp] theorem ofChars_symbol (s : Symbol) : ofChars [s.char] = symbol s := by
  simp [ofChars]

end Lexeme

/-- **The lexemes of an expression,** in order. -/
def tokenize (expression : String) : List Lexeme :=
  Lexeme.scan [] expression.toList

end Reckoner
