import MarkerSweep.Unicode.CharSet
import MarkerSweep.Unicode.Classes
/-!
# Regular expressions

What a pattern means once its flags are resolved: sets of characters, assertions about the two
characters around a place, sequences, ordered choices and repetitions. The constructors below build
the same language by smaller trees where they can; a sequence or a choice nests to the right.
-/

set_option autoImplicit false

namespace MarkerSweep.Pattern

open MarkerSweep.Unicode

/-- Assertions about a place in a text. -/
inductive Look
  | start
  | finish
  | lineStart
  | lineFinish
  | crlfStart
  | crlfFinish
  | wordBoundary (ascii : Bool)
  | notWordBoundary (ascii : Bool)
  | wordStart (ascii : Bool)
  | wordFinish (ascii : Bool)
  | wordStartHalf (ascii : Bool)
  | wordFinishHalf (ascii : Bool)
deriving DecidableEq

namespace Look

/-- Whether a neighbour of a place is a word character; beyond the text there is none. -/
def isWord (ascii : Bool) (c : Option Char) : Bool :=
  c.any (if ascii then asciiWord else wordChars).contains

/-- Whether the assertion holds between two characters; `none` is the end of the text. -/
def holds (before after : Option Char) : Look → Bool
  | start => before.isNone
  | finish => after.isNone
  | lineStart => before.all (· = '\n')
  | lineFinish => after.all (· = '\n')
  | crlfStart => before.all (fun b => b = '\n' || (b = '\r' && after ≠ some '\n'))
  | crlfFinish => after.all (fun a => a = '\r' || (a = '\n' && before ≠ some '\r'))
  | wordBoundary ascii => isWord ascii before != isWord ascii after
  | notWordBoundary ascii => isWord ascii before == isWord ascii after
  | wordStart ascii => !isWord ascii before && isWord ascii after
  | wordFinish ascii => isWord ascii before && !isWord ascii after
  | wordStartHalf ascii => !isWord ascii before
  | wordFinishHalf ascii => !isWord ascii after

end Look

/-- Regular expressions. -/
inductive Expr
  | empty
  /-- One character of a set; of the empty set there is none, so that matches nothing. -/
  | set (s : CharSet)
  | look (a : Look)
  | group (e : Expr)
  | seq (first rest : Expr)
  | alt (first rest : Expr)
  | rep (least : Nat) (most? : Option Nat) (greedy : Bool) (body : Expr)
deriving DecidableEq

namespace Expr

/-- Whether every match holds at least one character, as far as the shape of the tree shows. -/
def consumes : Expr → Bool
  | empty | look _ => false
  | set s => !s.isEmpty
  | group e => e.consumes
  | seq a b => a.consumes || b.consumes
  | alt a b => a.consumes && b.consumes
  | rep least _ _ body => 0 < least && body.consumes

/-- Whether every match is empty, as far as the shape of the tree shows. -/
def isEmptyOnly : Expr → Bool
  | empty | look _ => true
  | set _ => false
  | group e => e.isEmptyOnly
  | seq a b | alt a b => a.isEmptyOnly && b.isEmptyOnly
  | rep _ most? _ body => most? == some 0 || body.isEmptyOnly

/-- Whether every match starts at the start of the text, as far as the shape of the tree shows. -/
def startsText : Expr → Bool
  | look a => a = .start
  | empty | set _ => false
  | group e => e.startsText
  | seq a b => a.startsText || (a.isEmptyOnly && b.startsText)
  | alt a b => a.startsText && b.startsText
  | rep least _ _ body => 0 < least && body.startsText

/-- Whether every match ends at the end of the text, as far as the shape of the tree shows. -/
def endsText : Expr → Bool
  | look a => a = .finish
  | empty | set _ => false
  | group e => e.endsText
  | seq a b => b.endsText || (b.isEmptyOnly && a.endsText)
  | alt a b => a.endsText && b.endsText
  | rep least _ _ body => 0 < least && body.endsText

/-- The parts of a sequence. -/
def parts : Expr → List Expr
  | empty => []
  | seq a b => a :: b.parts
  | e => [e]

/-- The branches of a choice. -/
def branches : Expr → List Expr
  | alt a b => a :: b.branches
  | e => [e]

/-- The sequence of some parts. -/
def ofParts : List Expr → Expr
  | [] => empty
  | [e] => e
  | e :: rest => seq e (ofParts rest)

/-- The choice between some branches, which are never none. -/
def ofBranches : List Expr → Expr
  | [] => empty
  | [e] => e
  | e :: rest => alt e (ofBranches rest)

/-- A sequence; sequences within it are spliced in. -/
def sequence (es : List Expr) : Expr := ofParts (es.flatMap parts)

/-- The union of the branches when all of them are sets. -/
def setUnion? : List Expr → Option CharSet
  | [] => some CharSet.empty
  | set s :: rest => (setUnion? rest).map s.union
  | _ => none

/-- Whether something in it captures. Every capturing group is a group of its own, so two expressions
that capture differ, however alike they are. -/
def captures : Expr → Bool
  | empty | set _ | look _ => false
  | group _ => true
  | seq a b | alt a b => a.captures || b.captures
  | rep _ _ _ body => body.captures

def isChar : Expr → Bool
  | set s => s.single?.isSome
  | _ => false

/-- The parts of a sequence; single characters that stand side by side are one unit. -/
def units (e : Expr) : List (List Expr) := e.parts.splitBy fun a b => a.isChar && b.isChar

/-- The units with which both of two sequences begin. -/
def sharedUnits (us vs : List (List Expr)) : List (List Expr) :=
  ((us.zip vs).takeWhile fun (u, v) => u = v && !u.any captures).map Prod.fst

/-- The units with which all sequences begin, provided that none of them is a single unit. -/
def commonStart : List (List (List Expr)) → List (List Expr)
  | [] => []
  | us :: rest =>
    if (us :: rest).all fun us => 1 < us.length then rest.foldl sharedUnits us else []

/-- A choice; choices within it are spliced in, and a choice between sets is a set. -/
def between (es : List Expr) : Expr :=
  let es := es.flatMap branches
  match setUnion? es with
  | some s => set s
  | none => ofBranches es

/-- A choice, made after what all branches begin with. -/
def choice (es : List Expr) : Expr :=
  let rows := (es.flatMap branches).map units
  let start := commonStart rows
  if start.isEmpty then between es
  else
    let rest := rows.map fun us => ofParts (us.drop start.length).flatten
    sequence (start.flatten ++ [between rest])

/-- A repetition. What matches only the empty text need not be repeated more than once. -/
def repeated (least : Nat) (most? : Option Nat) (greedy : Bool) (body : Expr) : Expr :=
  let once := body.isEmptyOnly
  let least := if once then min least 1 else least
  let most? := if once then some ((most?.map (min 1)).getD 1) else most?
  if most? = some 0 then empty
  else if least = 1 && most? = some 1 then body
  else rep least most? greedy body

end Expr

end MarkerSweep.Pattern
