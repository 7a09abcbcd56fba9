import MarkerSweep.Diff.Edit
import MarkerSweep.Diff.Frontier
/-!
# Comparing two lists

What two lists share at the front and at the back is kept. If one of the rests is empty, the other one
is deleted or inserted; otherwise both are split and their halves compared. Whatever the place of the
split, the script leads from one list to the other; a good place makes it short.
-/

set_option autoImplicit false

namespace MarkerSweep.Diff

variable {α : Type} [DecidableEq α]

/-- What two lists share at the front and at the back, and what is left of each between. -/
structure Trimmed (α : Type) where
  front : List α
  old : List α
  new : List α
  back : List α

def trim (old new : List α) : Trimmed α :=
  let front := sharedFront old new
  let old := old.drop front.length
  let new := new.drop front.length
  let back := (sharedFront old.reverse new.reverse).reverse
  { front, back
    old := old.take (old.length - back.length)
    new := new.take (new.length - back.length) }

/-- Compares two lists, given how the halves of what is left of them are compared. -/
def compareBy (halves : List α → List α → List (Edit α)) (old new : List α) : List (Edit α) :=
  let t := trim old new
  let middle :=
    if t.old.isEmpty && t.new.isEmpty then []
    else if t.old.isEmpty then [.insert t.new]
    else if t.new.isEmpty then [.delete t.old]
    else
      let (x, y) := splitPlace t.old t.new
      halves (t.old.take x) (t.new.take y) ++ halves (t.old.drop x) (t.new.drop y)
  Edit.keep? t.front ++ middle ++ Edit.keep? t.back

def compareFrom : Nat → List α → List α → List (Edit α)
  | 0, old, new => [.delete old, .insert new]
  | fuel + 1, old, new => compareBy (compareFrom fuel) old new

/-- A short script from one list to another. A split leaves fewer items to both halves. -/
def compare (old new : List α) : List (Edit α) := compareFrom (old.length + new.length + 1) old new

end MarkerSweep.Diff
