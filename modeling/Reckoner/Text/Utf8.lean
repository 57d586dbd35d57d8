import Reckoner.Text.Quoted
/-!
# Text — UTF-8

Decoding of bytes into characters. A sequence is well formed where its
lead byte announces its length, its second byte lies in the range the
lead allows, which shuts out overlong forms, surrogates and what lies
above U+10FFFF, and the bytes after that are continuation bytes. The
first sequence that is not well formed is reported with the longest run
of bytes that could have begun one.
-/

namespace Reckoner

namespace Text

namespace Utf8

/-- Why a sequence is not well formed. -/
inductive Defect where
  /-- No sequence begins with this byte. -/
  | invalidStart
  /-- A byte cannot stand where it does in the sequence begun. -/
  | invalidContinuation
  /-- The bytes end inside a sequence. -/
  | unexpectedEnd
  deriving DecidableEq, Repr

/-- An ill-formed sequence: its first byte, where it begins, how many
bytes are put down to it, and what is wrong. -/
structure Fault where
  first : UInt8
  position : Nat
  length : Nat
  defect : Defect
  deriving DecidableEq, Repr

/-- The defect in words. -/
def Defect.message : Defect → String
  | .invalidStart => "invalid start byte"
  | .invalidContinuation => "invalid continuation byte"
  | .unexpectedEnd => "unexpected end of data"

/-- The fault in words: the byte itself where it stands alone, else the
span of positions. -/
def Fault.message (f : Fault) : String :=
  let span :=
    if f.length ≤ 1 then
      s!"byte 0x{String.ofList (hexadecimal 2 f.first.toNat)} in position {f.position}"
    else s!"bytes in position {f.position}-{f.position + f.length - 1}"
  s!"'utf-8' codec can't decode {span}: {f.defect.message}"

/-- A byte that continues a sequence. -/
def isContinuation (b : UInt8) : Bool :=
  0x80 ≤ b && b ≤ 0xBF

/-- How many bytes a lead byte announces, if it is one. -/
def announced? (lead : UInt8) : Option Nat :=
  if lead < 0x80 then some 1
  else if lead < 0xC2 then none
  else if lead < 0xE0 then some 2
  else if lead < 0xF0 then some 3
  else if lead < 0xF5 then some 4
  else none

/-- Whether a second byte may follow this lead byte. -/
def follows (lead second : UInt8) : Bool :=
  isContinuation second &&
    (if lead = 0xE0 then 0xA0 ≤ second
    else if lead = 0xED then second ≤ 0x9F
    else if lead = 0xF0 then 0x90 ≤ second
    else if lead = 0xF4 then second ≤ 0x8F
    else true)

/-- The character of a well-formed sequence: the payload bits of its lead
and its continuation bytes, most significant first. -/
def assemble (lead : UInt8) (rest : List UInt8) : Char :=
  let payload := match rest.length with
    | 0 => lead.toNat
    | 1 => lead.toNat % 0x20
    | 2 => lead.toNat % 0x10
    | _ => lead.toNat % 0x08
  Char.ofNat (rest.foldl (fun n b => n * 0x40 + b.toNat % 0x40) payload)

/-- Decodes bytes of which the first has the given position. -/
def decodeFrom (position : Nat) : List UInt8 → Except Fault (List Char)
  | [] => .ok []
  | lead :: bytes =>
    let fail (length : Nat) (defect : Defect) : Except Fault (List Char) :=
      .error ⟨lead, position, length, defect⟩
    match announced? lead with
    | none => fail 1 .invalidStart
    | some 1 => (decodeFrom (position + 1) bytes).map (assemble lead [] :: ·)
    | some announced =>
      match bytes with
      | [] => fail 1 .unexpectedEnd
      | second :: bytes =>
        if !follows lead second then fail 1 .invalidContinuation
        else if announced = 2 then
          (decodeFrom (position + 2) bytes).map (assemble lead [second] :: ·)
        else
          match bytes with
          | [] => fail 2 .unexpectedEnd
          | third :: bytes =>
            if !isContinuation third then fail 2 .invalidContinuation
            else if announced = 3 then
              (decodeFrom (position + 3) bytes).map (assemble lead [second, third] :: ·)
            else
              match bytes with
              | [] => fail 3 .unexpectedEnd
              | fourth :: bytes =>
                if !isContinuation fourth then fail 3 .invalidContinuation
                else (decodeFrom (position + 4) bytes).map
                  (assemble lead [second, third, fourth] :: ·)

/-- **The characters of a text in UTF-8.** A byte order mark is a
character like any other. -/
def decode (bytes : List UInt8) : Except Fault (List Char) :=
  decodeFrom 0 bytes

/-- The bytes of a text in UTF-8. -/
def encode (cs : List Char) : List UInt8 :=
  (String.ofList cs).toUTF8.toList

end Utf8

end Text

end Reckoner
