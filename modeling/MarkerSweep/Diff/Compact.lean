import MarkerSweep.Diff.Edit
/-!
# Moving edits together

The same change can often be written at several places: deleting one of two equal lines in a row is one
change, whichever of the two is deleted. Each edit is moved up as far as it goes and then down as far as
it goes, and joins the edits of its kind that it meets. First all deletions move, then all insertions.
-/

set_option autoImplicit false

namespace MarkerSweep.Diff

/-- The two kinds of edits that move. -/
inductive Change
  | delete
  | insert
deriving DecidableEq

namespace Change

variable {α : Type}

def edit (items : List α) : Change → Edit α
  | delete => .delete items
  | insert => .insert items

/-- The items of an edit of the kind. -/
def items? (c : Change) : Edit α → Option (List α)
  | .delete items => if c = delete then some items else none
  | .insert items => if c = insert then some items else none
  | .keep _ => none

end Change

/-- An edit on its way: what is above it, from the edit on upwards, and what is below it. -/
structure Moving (α : Type) where
  above : List (Edit α)
  items : List α
  below : List (Edit α)

variable {α : Type} [DecidableEq α]

/-- Puts kept items before a script. -/
def keepBefore (items : List α) (script : List (Edit α)) : List (Edit α) :=
  match items, script with
  | [], _ => script
  | _, .keep more :: rest => .keep (items ++ more) :: rest
  | _, _ => .keep items :: script

/-- Puts kept items after a script that is given from its end. -/
def keepAfter (items : List α) (script : List (Edit α)) : List (Edit α) :=
  match items, script with
  | [], _ => script
  | _, .keep more :: rest => .keep (more ++ items) :: rest
  | _, _ => .keep items :: script

/-- Moves items up past kept ones, which are given last first, one by one as long as the last item is
the same. Gives the kept items that are left, last first, the items, and those they have passed. -/
def passUp (items passed : List α) : List α → List α × List α × List α
  | [] => ([], items, passed)
  | k :: kept =>
    if items.getLast? = some k then passUp (k :: items.dropLast) (k :: passed) kept
    else (k :: kept, items, passed)

/-- Moves items down past kept ones, one by one as long as the first item is the same. Gives the kept
items that are left, the items, and those they have passed, last first. -/
def passDown (items passed : List α) : List α → List α × List α × List α
  | [] => ([], items, passed)
  | k :: kept =>
    match items with
    | i :: more =>
      if i = k then passDown (more ++ [k]) (k :: passed) kept else (k :: kept, items, passed)
    | [] => (k :: kept, items, passed)

/-- Moves an edit up as far as it goes. -/
def moveUp (c : Change) (items : List α) (below : List (Edit α)) : List (Edit α) → Moving α
  | [] => ⟨[], items, below⟩
  | .keep kept :: above =>
    let (left, items, passed) := passUp items [] kept.reverse
    let below := keepBefore passed below
    if left.isEmpty then moveUp c items below above
    else ⟨.keep left.reverse :: above, items, below⟩
  | e :: above =>
    match c.items? e with
    | some more => moveUp c (more ++ items) below above
    | none => moveUp c items (e :: below) above

/-- Moves an edit down as far as it goes. -/
def moveDown (c : Change) (items : List α) (above : List (Edit α)) : List (Edit α) → Moving α
  | [] => ⟨above, items, []⟩
  | .keep kept :: below =>
    let (left, items, passed) := passDown items [] kept
    let above := keepAfter passed.reverse above
    if left.isEmpty then moveDown c items above below
    else ⟨above, items, .keep left :: below⟩
  | e :: below =>
    match c.items? e with
    | some more => moveDown c (items ++ more) above below
    | none => moveDown c items (e :: above) below

/-- Moves the edits of a kind, from the top to the bottom; what is above is given from its end. -/
def compactFrom (c : Change) : Nat → List (Edit α) → List (Edit α) → List (Edit α)
  | _, above, [] => above.reverse
  | 0, above, below => above.reverse ++ below
  | fuel + 1, above, e :: below =>
    match c.items? e with
    | some items =>
      let up := moveUp c items below above
      let down := moveDown c up.items up.above up.below
      compactFrom c fuel (c.edit down.items :: down.above) down.below
    | none => compactFrom c fuel (e :: above) below

/-- Moves the edits of a kind. An edit that moves may send the walk back over the script, but the number
of edits still to be moved shrinks each time. -/
def compactKind (c : Change) (script : List (Edit α)) : List (Edit α) :=
  compactFrom c (4 * (script.length + 1) * (script.length + 1)) [] script

def compact (script : List (Edit α)) : List (Edit α) :=
  compactKind .insert (compactKind .delete script)

end MarkerSweep.Diff
