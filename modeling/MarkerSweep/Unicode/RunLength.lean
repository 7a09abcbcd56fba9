/-!
# Run-length tables

A set of scalar values is stored as one text: numerals in base 36, separated by blanks, that give
alternately the length of a gap and the length of a run. `decodeRuns` turns the text into inclusive
ranges. They come out in increasing order and apart from each other whatever the numerals are, since
each range starts where the last one ended plus a gap.
-/

set_option autoImplicit false

namespace MarkerSweep.Unicode

/-- The fields of a text between separators; a text without separators is one field. -/
def fieldsOf (sep : Char) : List Char → List (List Char)
  | [] => [[]]
  | c :: rest =>
    if c = sep then [] :: fieldsOf sep rest
    else match fieldsOf sep rest with
      | [] => [[c]]
      | field :: more => (c :: field) :: more

/-- The value of a digit in base 36; letters are digits from ten on. -/
def digitValue (c : Char) : Nat :=
  if c.toNat < 'a'.toNat then c.toNat - '0'.toNat else c.toNat - 'a'.toNat + 10

/-- The value of a numeral in base 36. -/
def numeral (digits : List Char) : Nat :=
  digits.foldl (fun n c => 36 * n + digitValue c) 0

/-- The ranges that a list of gaps and runs describes, from a given code point on. -/
def rangesFrom (start : Nat) : List Nat → List (Nat × Nat)
  | gap :: run :: rest =>
    (start + gap, start + gap + run - 1) :: rangesFrom (start + gap + run) rest
  | _ => []

/-- The ranges that a run-length text describes; it may be broken into lines between numerals. -/
def decodeRuns (lines : List String) : List (Nat × Nat) :=
  rangesFrom 0 ((lines.flatMap fun line => fieldsOf ' ' line.toList).map numeral)

end MarkerSweep.Unicode
