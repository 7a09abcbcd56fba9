/-!
# How alike two words are

Letters of one word are paired with equal letters of the other one that stand nearly at the same place.
The measure is the mean of three shares: the paired letters of the first word, those of the second word,
and, among the pairs, those that are not out of order. It is one for equal words and zero for words
without a pair.
-/

set_option autoImplicit false

namespace MarkerSweep.Text

/-- How far apart the places of two paired letters may be. -/
def pairingReach (a b : List Char) : Nat := max a.length b.length / 2 - 1

/-- The first place near `i` in a word that holds a letter and is not taken. -/
def partner? (b : List Char) (reach : Nat) (taken : List Nat) (i : Nat) (c : Char) : Option Nat :=
  (List.range b.length).find? fun j =>
    i ≤ j + reach && j ≤ i + reach && !taken.contains j && b[j]? = some c

/-- Pairs the letters of a word, from the place `i` on, with places of another word. -/
def pairsFrom (b : List Char) (reach : Nat) (taken : List Nat) (i : Nat) :
    List Char → List (Char × Nat)
  | [] => []
  | c :: rest =>
    match partner? b reach taken i c with
    | some j => (c, j) :: pairsFrom b reach (j :: taken) (i + 1) rest
    | none => pairsFrom b reach taken (i + 1) rest

def pairs (a b : List Char) : List (Char × Nat) := pairsFrom b (pairingReach a b) [] 0 a

/-- How many pairs are out of order, counted in twos. -/
def outOfOrder (b : List Char) (ps : List (Char × Nat)) : Nat :=
  let places := ps.map (·.2)
  let letters := (b.zipIdx.filter fun l => places.contains l.2).map (·.1)
  ((ps.map (·.1)).zip letters).countP (fun l => l.1 ≠ l.2) / 2

def similarity (a b : List Char) : Float :=
  let ps := pairs a b
  if ps.isEmpty then 0
  else
    let share (n d : Nat) : Float := n.toFloat / d.toFloat
    (share ps.length a.length + share ps.length b.length +
      share (ps.length - outOfOrder b ps) ps.length) / 3

/-- The word of a list that is most like a given one, if one is like it enough. Of equally like words
the last one is taken. -/
def mostSimilar? (word : List Char) (enough : Float) (candidates : List String) : Option String :=
  let rate (best : Option (Float × String)) (c : String) : Option (Float × String) :=
    let s := similarity word c.toList
    if enough < s then
      match best with
      | some (t, _) => if s < t then best else some (s, c)
      | none => some (s, c)
    else best
  (candidates.foldl rate none).map (·.2)

end MarkerSweep.Text
