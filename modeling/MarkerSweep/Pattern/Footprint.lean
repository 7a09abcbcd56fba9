import MarkerSweep.Pattern.Expr
/-!
# The memory that a pattern takes

A pattern is refused if the automata that read its texts byte by byte, one from the front and one
from the back, would take too much memory. Their sizes follow from the expression alone: each state
takes 32 bytes, each transition of a branching state 8 and each alternative 4. Read from the back, a
set of characters is a tree over their encodings; read from the front, equal subtrees are shared. A
choice between words is a tree over their bytes. Nothing is built, so a pattern is measured before its
repetitions are written out.

The builder of the automata looks for equal subtrees in a table of limited size, where a new subtree
takes the place of an old one at times. So for sets with many ranges its automata are somewhat larger
than what is counted here.
-/

set_option autoImplicit false

namespace MarkerSweep.Pattern

open MarkerSweep.Unicode

namespace Footprint

/-- Bytes of memory for the automaton read from the front and for the one read from the back. -/
structure Cost where
  front : Nat
  back : Nat
deriving DecidableEq

namespace Cost

def both (n : Nat) : Cost := ⟨n, n⟩

def add (a b : Cost) : Cost := ⟨a.front + b.front, a.back + b.back⟩

def times (n : Nat) (a : Cost) : Cost := ⟨n * a.front, n * a.back⟩

end Cost

/-- A state without a branching transition. -/
def plainState : Nat := 32

/-- A state that chooses between `n` alternatives. -/
def choiceState (n : Nat) : Nat := 32 + 4 * n

/-- A state with `n` transitions on ranges of bytes. -/
def branchState (n : Nat) : Nat := 32 + 8 * n

/-- The bytes that encode a code point. -/
def encoding (n : Nat) : List Nat :=
  if n < 0x80 then [n]
  else if n < 0x800 then [0xC0 + n / 0x40, 0x80 + n % 0x40]
  else if n < 0x10000 then [0xE0 + n / 0x1000, 0x80 + n / 0x40 % 0x40, 0x80 + n % 0x40]
  else [0xF0 + n / 0x40000, 0x80 + n / 0x1000 % 0x40, 0x80 + n / 0x40 % 0x40, 0x80 + n % 0x40]

/-- Where to cut a range so that each piece is a product of ranges of bytes: before a code point. -/
def cut? (lo hi : Nat) : Option Nat :=
  if hi < 0x80 then none
  else
    let lengths := [0x80, 0x800, 0x10000].find? fun b => lo < b && b ≤ hi
    lengths <|> [0x40, 0x1000, 0x40000].findSome? fun block =>
      if lo / block = hi / block then none
      else if lo % block ≠ 0 then some ((lo / block + 1) * block)
      else if hi % block ≠ block - 1 then some (hi / block * block)
      else none

/-- The encodings of a range of code points as sequences of ranges of bytes. -/
def pieces : Nat → Nat → Nat → List (List (Nat × Nat))
  | 0, _, _ => []
  | fuel + 1, lo, hi =>
    match cut? lo hi with
    | some b => pieces fuel lo (b - 1) ++ pieces fuel b hi
    | none => [(encoding lo).zip (encoding hi)]

/-- The encodings of a set of characters. -/
def sequences (s : CharSet) : List (List (Nat × Nat)) :=
  (s.diff ⟨[(0xD800, 0xDFFF)]⟩).ranges.flatMap fun r => pieces 32 r.1 r.2

/-- How many sequence members lie beyond the part shared with the previous sequence. -/
def treeSize (previous : List (Nat × Nat)) : List (List (Nat × Nat)) → Nat
  | [] => 0
  | s :: rest =>
    let common := ((s.zip previous).takeWhile fun (a, b) => a == b).length
    s.length - common + treeSize s rest

/-- The states known by their transitions, the last one first, and their cost. -/
structure Shared where
  known : List (List (Nat × Nat × Nat))
  bytes : Nat

/-- Adds a state unless an equal one is known; answers which it is. States count from one in the order
in which they became known. -/
def Shared.state (t : Shared) (transitions : List (Nat × Nat × Nat)) : Nat × Shared :=
  match t.known.idxOf? transitions with
  | some later => (t.known.length - later, t)
  | none =>
    (t.known.length + 1, ⟨transitions :: t.known, t.bytes + branchState transitions.length⟩)

/-- Sequences grouped by their first member, without it. -/
def byFirst : List (List (Nat × Nat)) → List ((Nat × Nat) × List (List (Nat × Nat)))
  | [] => []
  | [] :: rest => byFirst rest
  | (r :: tail) :: rest =>
    match byFirst rest with
    | (r', tails) :: more => if r = r' then (r, tail :: tails) :: more else (r, [tail]) :: (r', tails) :: more
    | [] => [(r, [tail])]

/-- The state that reads some sequences; the final state is number zero. -/
def shareFrom : Nat → List (List (Nat × Nat)) → Shared → Nat × Shared
  | 0, _, t => (0, t)
  | depth + 1, ss, t =>
    match byFirst ss with
    | [] => (0, t)
    | groups =>
      let (transitions, t) := groups.foldl
        (fun (done, t) ((lo, hi), tails) =>
          let (next, t) := shareFrom depth tails t
          ((lo, hi, next) :: done, t))
        (([] : List (Nat × Nat × Nat)), t)
      t.state transitions.reverse

def setCost (s : CharSet) : Cost :=
  match s.single? with
  | some c => Cost.both (plainState * (encoding c.toNat).length)
  | none =>
    if s.isEmpty then Cost.both plainState
    else if s.isAscii then Cost.both (plainState + branchState s.ranges.length)
    else
      let ss := sequences s
      let shared := (shareFrom 5 ss ⟨[], 0⟩).2
      ⟨plainState + shared.bytes, choiceState ss.length + plainState + plainState * treeSize [] ss⟩

/-- Words grouped by their first byte, without it; empty words are left out. -/
def byByte (words : List (List Nat)) : List (List (List Nat)) :=
  let firsts := (words.filterMap List.head?).eraseDups
  firsts.map fun b => words.filterMap fun w => if w.head? = some b then w.tail? else none

/-- The cost of the state where the rests of some words start, in the order of the words, and of the
states after it. Where a word ends, the words after it get branches of their own. -/
def wordsCost : Nat → List (List Nat) → Nat
  | 0, _ => 0
  | depth + 1, words =>
    if words.all List.isEmpty then 0
    else
      let chunks := (words.splitOn []).map byByte
      let full := chunks.filter (!·.isEmpty)
      -- words that end here before any branch has been made count once
      let ends := chunks.length - 1 - (chunks.takeWhile List.isEmpty).length.pred
      let branch := fun chunk : List (List (List Nat)) =>
        if chunk.length = 1 then plainState else branchState chunk.length
      choiceState (full.length + ends) + (full.map branch).sum +
        (full.flatten.map (wordsCost depth)).sum

/-- The cost of a choice between words, given by their characters. -/
def choiceCost (words : List (List Char)) : Cost :=
  let bytes := words.map fun w => w.flatMap fun c => encoding c.toNat
  let depth := (bytes.map List.length).foldr max 0
  ⟨plainState + wordsCost depth bytes, plainState + wordsCost depth (bytes.map List.reverse)⟩

end Footprint

open Footprint

namespace Expr

/-- The word that an expression stands for, if it is a sequence of characters. -/
def word? (e : Expr) : Option (List Char) :=
  match e with
  | empty => none
  | _ => e.parts.mapM fun part => match part with
    | set s => s.single?
    | _ => none

/-- The cost of an expression. The branches of a choice are `inner` ones; the last of them is where the
choice itself is counted. -/
def costFrom (inner : Bool) : Expr → Cost
  | empty => Cost.both plainState
  | set s => setCost s
  | look _ => Cost.both plainState
  | group e => (e.costFrom false).add ⟨2 * plainState, 0⟩
  | seq a b => (a.costFrom false).add (b.costFrom false)
  | alt a b =>
    let words? := if inner then none else (alt a b).branches.mapM word?
    match words?, b with
    | some words, _ => choiceCost words
    -- the choice state of a nested choice is that of the whole choice
    | none, alt _ _ => ((a.costFrom false).add (b.costFrom true)).add (Cost.both 4)
    | none, _ =>
      ((a.costFrom false).add (b.costFrom false)).add (Cost.both (choiceState 2 + plainState))
  | rep least most? _ body =>
    let c := body.costFrom false
    let loop := Cost.both (choiceState 2)
    match least, most? with
    | 0, some 1 => (c.add loop).add (Cost.both plainState)
    | 0, none =>
      if body.consumes then c.add loop else ((c.add loop).add loop).add (Cost.both plainState)
    | n, none => (c.times n).add loop
    | n, some m =>
      let fixed := if n = 0 then Cost.both plainState else c.times n
      if n = m then fixed
      else (fixed.add (Cost.both plainState)).add ((c.add loop).times (m - n))

/-- The states that pass over what stands outside of a match, unless it can be nowhere but at one end
of the text. -/
def passing (atEnd : Bool) : Nat :=
  if atEnd then plainState else choiceState 2 + plainState + branchState 1

/-- The memory of the larger one of the automata, the states around the pattern included. -/
def footprint (e : Expr) : Nat :=
  let c := e.costFrom false
  max (c.front + passing e.startsText + 3 * plainState) (c.back + passing e.endsText + plainState)

end Expr

end MarkerSweep.Pattern
