/-!
# Edit scripts

A script tells how one list becomes another: stretches are kept, deleted or inserted. It can be read
from both sides: kept and deleted stretches make up the old list, kept and inserted ones the new list.
-/

set_option autoImplicit false

namespace MarkerSweep.Diff

inductive Edit (α : Type)
  | keep (items : List α)
  | delete (items : List α)
  | insert (items : List α)
deriving DecidableEq

namespace Edit

variable {α : Type}

/-- The part of the old list that an edit covers. -/
def old : Edit α → List α
  | keep items | delete items => items
  | insert _ => []

/-- The part of the new list that an edit covers. -/
def new : Edit α → List α
  | keep items | insert items => items
  | delete _ => []

/-- A kept stretch, unless it is empty. -/
def keep? (items : List α) : List (Edit α) := if items.isEmpty then [] else [keep items]

end Edit

/-- The list that a script starts from. -/
def oldSide {α : Type} (script : List (Edit α)) : List α := script.flatMap Edit.old

/-- The list that a script leads to. -/
def newSide {α : Type} (script : List (Edit α)) : List α := script.flatMap Edit.new

/-- The longest list that two lists start with. -/
def sharedFront {α : Type} [DecidableEq α] : List α → List α → List α
  | a :: as, b :: bs => if a = b then a :: sharedFront as bs else []
  | _, _ => []

end MarkerSweep.Diff
