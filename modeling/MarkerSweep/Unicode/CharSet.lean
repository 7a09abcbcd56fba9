import MarkerSweep.Unicode.RunLength
import MarkerSweep.Unicode.Fold
/-!
# Sets of characters

A set is an increasing list of inclusive ranges of code points that do not touch. Membership stops
at the first range that lies beyond the character, so it is quick for the characters that texts are
made of even where the set has hundreds of ranges. All set operations go through two: adding a range
and taking the complement.
-/

set_option autoImplicit false

namespace MarkerSweep.Unicode

/-- A set of characters as increasing, separate, inclusive ranges of code points. -/
structure CharSet where
  ranges : List (Nat × Nat)
deriving DecidableEq

namespace CharSet

/-- The greatest code point. -/
def maxCode : Nat := 0x10FFFF

/-- Whether a code point lies in one of the ranges. -/
def within (n : Nat) : List (Nat × Nat) → Bool
  | [] => false
  | (lo, hi) :: rest => if n < lo then false else n ≤ hi || within n rest

def contains (s : CharSet) (c : Char) : Bool := within c.toNat s.ranges

def empty : CharSet := ⟨[]⟩

/-- Every character. -/
def all : CharSet := ⟨[(0, maxCode)]⟩

/-- Adds a range, joining it with the ranges that it overlaps or touches. -/
def insertRange (lo hi : Nat) : List (Nat × Nat) → List (Nat × Nat)
  | [] => [(lo, hi)]
  | (a, b) :: rest =>
    if hi + 1 < a then (lo, hi) :: (a, b) :: rest
    else if b + 1 < lo then (a, b) :: insertRange lo hi rest
    else insertRange (min lo a) (max hi b) rest

/-- The set of all characters in some ranges, given in any order. -/
def ofRanges (rs : List (Nat × Nat)) : CharSet :=
  ⟨rs.foldr (fun r s => insertRange r.1 r.2 s) []⟩

def singleton (c : Char) : CharSet := ⟨[(c.toNat, c.toNat)]⟩

def union (s t : CharSet) : CharSet :=
  ⟨s.ranges.foldr (fun r u => insertRange r.1 r.2 u) t.ranges⟩

/-- What lies between the ranges, from a given code point on. -/
def gapsFrom (start : Nat) : List (Nat × Nat) → List (Nat × Nat)
  | [] => if start ≤ maxCode then [(start, maxCode)] else []
  | (lo, hi) :: rest =>
    if start < lo then (start, lo - 1) :: gapsFrom (hi + 1) rest else gapsFrom (hi + 1) rest

def complement (s : CharSet) : CharSet := ⟨gapsFrom 0 s.ranges⟩

def inter (s t : CharSet) : CharSet := (s.complement.union t.complement).complement

def diff (s t : CharSet) : CharSet := s.inter t.complement

def symmDiff (s t : CharSet) : CharSet := (s.union t).diff (s.inter t)

def isEmpty (s : CharSet) : Bool := s.ranges.isEmpty

/-- Whether every member is an ASCII character. -/
def isAscii (s : CharSet) : Bool := s.ranges.all (·.2 < 0x80)

/-- The only member of a set that has just one. -/
def single? (s : CharSet) : Option Char :=
  match s.ranges with
  | [(lo, hi)] => if lo = hi then some (Char.ofNat lo) else none
  | _ => none

/-- Adds every character that is equal up to case to a member. -/
def foldCase (s : CharSet) : CharSet :=
  let met := foldGroups.filter fun g => g.any (within · s.ranges)
  (ofRanges (met.flatten.map fun n => (n, n))).union s

/-- Adds the other case of every ASCII letter in the set. -/
def foldAsciiCase (s : CharSet) : CharSet :=
  let upper := s.inter ⟨[('A'.toNat, 'Z'.toNat)]⟩
  let lower := s.inter ⟨[('a'.toNat, 'z'.toNat)]⟩
  let raised := lower.ranges.map fun r => (r.1 - 32, r.2 - 32)
  let lowered := upper.ranges.map fun r => (r.1 + 32, r.2 + 32)
  (ofRanges (raised ++ lowered)).union s

end CharSet

/-- The set that a table of runs stores under a name; empty when there is no such row. -/
def namedRuns (table : List (String × List String)) (name : String) : CharSet :=
  match table.find? (·.1 == name) with
  | some (_, runs) => ⟨decodeRuns runs⟩
  | none => CharSet.empty

end MarkerSweep.Unicode
