import MarkerSweep.Rule.Basic
/-!
# Digests of tables

A digest of a table is a number of 64 bits made of the bytes that the rules of the table feed to a hash:
names, patterns, replacements, anchors and switches, in the order of the rules, but no descriptions.
Text ends with a byte that UTF-8 does not use, and what may be missing is announced by a word of eight
bytes. `SipHash` is the hash in use.
-/

set_option autoImplicit false

namespace MarkerSweep

/-! ## Bytes -/

namespace Imprint

/-- A word of eight bytes, the lowest first. -/
def word (n : Nat) : List UInt8 := (List.range 8).map fun i => UInt8.ofNat (n >>> (8 * i))

def text (s : String) : List UInt8 := s.toList.flatMap String.utf8EncodeChar ++ [0xFF]

def bool (b : Bool) : List UInt8 := [if b then 1 else 0]

def option {α : Type} (content : α → List UInt8) : Option α → List UInt8
  | none => word 0
  | some a => word 1 ++ content a

end Imprint

open Imprint

/-- What a rule feeds to the hash. -/
def Rule.imprint (r : Rule) : List UInt8 :=
  text r.name ++ option text r.pattern ++ text r.replaceWith ++ bool r.multiline ++
    option bool r.enabled

/-- What a table feeds to the hash. -/
def RuleTable.imprint (t : RuleTable) : List UInt8 :=
  word t.rules.length ++ t.rules.flatMap Rule.imprint

/-! ## SipHash -/

/-- The four words that the hash works on. -/
structure SipHash where
  v0 : UInt64
  v1 : UInt64
  v2 : UInt64
  v3 : UInt64

namespace SipHash

/-- The state before the first word, for a key of zeros. -/
def start : SipHash :=
  ⟨0x736f6d6570736575, 0x646f72616e646f6d, 0x6c7967656e657261, 0x7465646279746573⟩

def rotate (x n : UInt64) : UInt64 := x <<< n ||| x >>> (64 - n)

def round (s : SipHash) : SipHash :=
  let v0 := s.v0 + s.v1
  let v1 := rotate s.v1 13 ^^^ v0
  let v2 := s.v2 + s.v3
  let v3 := rotate s.v3 16 ^^^ v2
  let v0 := rotate v0 32 + v3
  let v3 := rotate v3 21 ^^^ v0
  let v2 := v2 + v1
  let v1 := rotate v1 17 ^^^ v2
  ⟨v0, v1, rotate v2 32, v3⟩

/-- Takes in one word, in one round. -/
def absorb (s : SipHash) (w : UInt64) : SipHash :=
  let s := { s with v3 := s.v3 ^^^ w }.round
  { s with v0 := s.v0 ^^^ w }

/-- The word of at most eight bytes, the lowest first. -/
def ofBytes (bytes : List UInt8) : UInt64 := bytes.foldr (fun b w => w <<< 8 ||| b.toUInt64) 0

/-- Takes in bytes by words of eight. The last word holds the bytes that are left, and the length. -/
def absorbAll (length : UInt64) (s : SipHash) : List UInt8 → SipHash
  | b₀ :: b₁ :: b₂ :: b₃ :: b₄ :: b₅ :: b₆ :: b₇ :: rest =>
    absorbAll length (s.absorb (ofBytes [b₀, b₁, b₂, b₃, b₄, b₅, b₆, b₇])) rest
  | rest => s.absorb (ofBytes rest ||| length <<< 56)

/-- Three more rounds, and the four words in one. -/
def finish (s : SipHash) : UInt64 :=
  let s := { s with v2 := s.v2 ^^^ 0xff }.round.round.round
  s.v0 ^^^ s.v1 ^^^ s.v2 ^^^ s.v3

def hash (bytes : List UInt8) : UInt64 :=
  (absorbAll (UInt64.ofNat bytes.length) start bytes).finish

end SipHash

end MarkerSweep
