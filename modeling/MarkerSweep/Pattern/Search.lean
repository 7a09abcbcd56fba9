import MarkerSweep.Pattern.Program
/-!
# Searching a text

A search follows the preferred continuation first and comes back to the other one when it fails. An
instruction that was tried at a place is never tried there again: what failed once fails again, and
what is still being tried cannot succeed through itself. So a search takes time proportional to the
program times the text, whatever the pattern, and attempts from later starts profit from the marks
that failed attempts left.
-/

set_option autoImplicit false

namespace MarkerSweep.Pattern

/-- A stretch of a text that a pattern matches, its end excluded. -/
structure Match where
  first : Nat
  last : Nat
deriving DecidableEq, Inhabited

namespace Match

def isEmpty (m : Match) : Bool := m.first == m.last

end Match

namespace Program

/-- Runs the pending attempts, each an address and a place in the text, in order. Answers where the
first that succeeds ends, with what was tried. -/
def run (p : Program) (text : Array Char) :
    Nat → List (Nat × Nat) → Array Bool → Option Nat × Array Bool
  | 0, _, marks => (none, marks)
  | _ + 1, [], marks => (none, marks)
  | fuel + 1, (pc, place) :: stack, marks =>
    let key := pc * (text.size + 1) + place
    if marks[key]?.getD true then run p text fuel stack marks
    else
      let marks := marks.setIfInBounds key true
      match p.code[pc]? with
      | none => run p text fuel stack marks
      | some .accept => (some place, marks)
      | some (.jump target) => run p text fuel ((target, place) :: stack) marks
      | some (.split first second) =>
        run p text fuel ((first, place) :: (second, place) :: stack) marks
      | some (.consume s) =>
        match text[place]? with
        | some c =>
          if s.contains c then run p text fuel ((pc + 1, place + 1) :: stack) marks
          else run p text fuel stack marks
        | none => run p text fuel stack marks
      | some (.look a) =>
        let before := if place = 0 then none else text[place - 1]?
        if a.holds before text[place]? then run p text fuel ((pc + 1, place) :: stack) marks
        else run p text fuel stack marks

/-- How many pairs of an instruction and a place there are. -/
def cells (p : Program) (text : Array Char) : Nat := p.code.size * (text.size + 1)

/-- The first match among the next `starts` places from `start` on. -/
def findFrom (p : Program) (text : Array Char) : Nat → Nat → Array Bool → Option Match
  | 0, _, _ => none
  | starts + 1, start, marks =>
    match p.run text (2 * p.cells text + 2) [(0, start)] marks with
    | (some last, _) => some ⟨start, last⟩
    | (none, marks) => findFrom p text starts (start + 1) marks

/-- The leftmost match that starts at the given place or after it. -/
def find? (p : Program) (text : Array Char) (start : Nat) : Option Match :=
  p.findFrom text (text.size + 1 - start) start (Array.replicate (p.cells text) false)

/-- The matches after one another from a place on. An empty match right at the end of the previous
match does not count; the search goes on one character later. -/
def matchesFrom (p : Program) (text : Array Char) : Nat → Nat → Option Nat → List Match
  | 0, _, _ => []
  | fuel + 1, start, previous =>
    let next :=
      match p.find? text start with
      | some m =>
        if m.isEmpty && previous == some m.last then p.find? text (start + 1) else some m
      | none => none
    match next with
    | none => []
    | some m => m :: matchesFrom p text fuel m.last (some m.last)

/-- The successive matches in a text; they do not overlap. -/
def findAll (p : Program) (text : Array Char) : List Match :=
  p.matchesFrom text (text.size + 2) 0 none

end Program

end MarkerSweep.Pattern
