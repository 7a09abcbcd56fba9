/-!
# Bytes as text

File names and file contents are bytes. Contents must be valid UTF-8 to be cleaned; names are shown
with a replacement character for every stretch that cannot begin a character.
-/

set_option autoImplicit false

namespace MarkerSweep.Text

/-- Replaces bytes that are not part of a character. -/
def replacement : Char := '\uFFFD'

/-- How many continuation bytes a first byte asks for, and the bounds of the first of them. -/
def leadByte (b : UInt8) : Option (Nat × UInt8 × UInt8) :=
  if 0xC2 ≤ b && b ≤ 0xDF then some (1, 0x80, 0xBF)
  else if b = 0xE0 then some (2, 0xA0, 0xBF)
  else if b = 0xED then some (2, 0x80, 0x9F)
  else if 0xE1 ≤ b && b ≤ 0xEF then some (2, 0x80, 0xBF)
  else if b = 0xF0 then some (3, 0x90, 0xBF)
  else if 0xF1 ≤ b && b ≤ 0xF3 then some (3, 0x80, 0xBF)
  else if b = 0xF4 then some (3, 0x80, 0x8F)
  else none

/-- The bits of a first byte that belong to the code point. -/
def leadBits (b : UInt8) : Nat :=
  if b < 0xE0 then b.toNat % 0x20 else if b < 0xF0 then b.toNat % 0x10 else b.toNat % 0x08

/-- A character that is being read: the continuation bytes still missing, the bounds of the next one,
and the code point so far. -/
structure Partial where
  missing : Nat
  lo : UInt8
  hi : UInt8
  code : Nat

/-- Begins a character, or finishes or replaces it at once. -/
def begin (b : UInt8) : List Char × Option Partial :=
  if b < 0x80 then ([Char.ofNat b.toNat], none)
  else match leadByte b with
    | some (missing, lo, hi) => ([], some ⟨missing, lo, hi, leadBits b⟩)
    | none => ([replacement], none)

/-- The characters of some bytes; each stretch that breaks off inside a character is replaced once. -/
def decodeFrom : Option Partial → List UInt8 → List Char
  | none, [] => []
  | some _, [] => [replacement]
  | none, b :: rest =>
    let (done, pending) := begin b
    done ++ decodeFrom pending rest
  | some p, b :: rest =>
    if p.lo ≤ b && b ≤ p.hi then
      let code := 64 * p.code + b.toNat % 64
      if p.missing ≤ 1 then Char.ofNat code :: decodeFrom none rest
      else decodeFrom (some ⟨p.missing - 1, 0x80, 0xBF, code⟩) rest
    else
      let (done, pending) := begin b
      replacement :: done ++ decodeFrom pending rest

/-- The text that some bytes are shown as. -/
def lossy (bytes : ByteArray) : String := String.ofList (decodeFrom none bytes.toList)

end MarkerSweep.Text
