/-!
# Where to split a comparison in two

Two lists span a grid: a step right deletes an item of the old list, a step down inserts one of the new
list, and a step along the diagonal keeps an item that both share and is free. The search goes from both
corners at once and in each round spends one more step that is not free. It ends where the two sides
meet. Only the farthest place on each diagonal matters, so a round is a list of these places.
-/

set_option autoImplicit false

namespace MarkerSweep.Diff

variable {α : Type} [DecidableEq α]

/-- How many items two arrays share from the given places on. -/
def sharedFrom (a b : Array α) (i j : Nat) : Nat :=
  if _ : i < a.size then
    if _ : j < b.size then
      if a[i] = b[j] then sharedFrom a b (i + 1) (j + 1) + 1 else 0
    else 0
  else 0
termination_by a.size - i

/-- The farthest places of a round, as steps right. In round `d` the diagonals are `d` steps or fewer
from the middle, two apart; the `j`-th one is `2 * j - d` steps right of it. -/
abbrev Frontier := Array Nat

/-- Where a round reaches a diagonal: a step down from the diagonal right of it or a step right from the
one left of it, from whichever place is farther. -/
def enter (last : Frontier) (d j : Nat) : Nat :=
  let right := last.getD j 0
  let left := last.getD (j - 1) 0
  if j = 0 then right else if j = d then left + 1 else if left < right then right else left + 1

/-- The farthest place on a diagonal, from the place where a round reaches it. -/
def slide (a b : Array α) (d j x : Nat) : Nat :=
  -- a place above the grid shares nothing
  if 2 * j ≤ x + d then x + sharedFrom a b x (x + d - 2 * j) else x

/-- The farthest places of the next round. -/
def advance (a b : Array α) (d : Nat) (last : Frontier) : Frontier :=
  ((List.range (d + 1)).map fun j => slide a b d j (enter last d j)).toArray

/-- The last diagonal of a round on which the place meets one of a search from the other corner. That
search is in round `e`, its diagonals count from the other corner, and the grid has `n` columns and
`delta` more columns than rows. -/
def meeting? (n : Nat) (delta : Int) (d e : Nat) (these those : Frontier) : Option Nat :=
  (List.range (d + 1)).reverse.find? fun j =>
    let opposite := delta - (2 * (j : Int) - d)
    opposite.natAbs ≤ e && n ≤ these.getD j 0 + those.getD ((opposite + e).toNat / 2) 0

/-- Searches from both corners, round by round; gives the place where the stretch starts along which
the two sides meet. The arrays are given as they are and reversed. -/
def meetFrom (a b a' b' : Array α) : Nat → Nat → Frontier → Frontier → Nat × Nat
  | 0, _, _, _ => (a.size, 0)
  | fuel + 1, d, forth, back =>
    let n := a.size
    let m := b.size
    let delta := (n : Int) - m
    let odd := delta % 2 ≠ 0
    let forth' := advance a b d forth
    match if odd && 0 < d then meeting? n delta d (d - 1) forth' back else none with
    | some j =>
      let x := enter forth d j
      (x, x + d - 2 * j)
    | none =>
      let back' := advance a' b' d back
      match if odd then none else meeting? n delta d d back' forth' with
      | some j =>
        let x := back'.getD j 0
        (n - x, m - (x + d - 2 * j))
      | none => meetFrom a b a' b' fuel (d + 1) forth' back'

/-- Where to split two lists so that the halves can be compared on their own. -/
def splitPlace (old new : List α) : Nat × Nat :=
  let rounds := (old.length + new.length + 1) / 2 + 1
  meetFrom old.toArray new.toArray old.reverse.toArray new.reverse.toArray rounds 0 #[] #[]

end MarkerSweep.Diff
