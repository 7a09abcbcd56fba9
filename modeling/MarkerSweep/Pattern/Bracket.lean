import MarkerSweep.Pattern.Escape
/-!
# Bracketed classes

Brackets nest and hold set operators of equal precedence that group to the left. The open brackets
and pending operators are kept on a stack of frames; a union collects the members that stand next to
each other.
-/

set_option autoImplicit false

namespace MarkerSweep.Pattern

/-- Members of a class that stand next to each other, the last one first. -/
structure Members where
  span : Span
  items : List ClassItem

namespace Members

/-- No members yet, at the place where they would stand. -/
def none (p : Position) : Members := ⟨Span.point p, []⟩

def push (m : Members) (i : ClassItem) : Members :=
  ⟨if m.items.isEmpty then i.span else m.span.cover i.span, i :: m.items⟩

/-- All members as one. -/
def toItem (m : Members) : ClassItem :=
  match m.items with
  | [] => .empty m.span
  | [i] => i
  | _ => .union m.span m.items.reverse

end Members

/-- What is still open to the left of the reader's place in a class. -/
inductive ClassFrame
  /-- A bracket, the members before it, its own stretch so far, and whether it is negated. -/
  | bracket (outer : Members) (span : Span) (negated : Bool)
  /-- An operator that waits for its right side. -/
  | operator (op : SetOp) (lhs : ClassSet)

namespace Reader

/-- The fault of the innermost bracket that is still open. -/
def failUnclosed {α : Type} (frames : List ClassFrame) : Reader α := do
  let open? := frames.findSome? fun
    | .bracket _ span _ => some span
    | .operator _ _ => none
  match open? with
  | some span => fail .classUnclosed span
  | none => fail .classUnclosed (← hereSpan)

/-- A class written `[:name:]` inside brackets. Anything else leaves the reader where it was. -/
def asciiClass? : Reader (Option AsciiClass) := do
  let start ← cursor
  let back : Reader (Option AsciiClass) := do
    setCursor start
    return none
  if !(← bumpIf "[:") then back
  else if ← atEnd then back
  else
    let negated ← bumpIf "^"
    if ← atEnd then back
    else
      let c ← cursor
      let name := c.rest.takeWhile (· ≠ ':')
      setCursor (name.foldl (fun c _ => c.next) c)
      if ← bumpIf ":]" then
        match AsciiKind.ofName? name with
        | some kind => return some ⟨⟨start.position, ← position⟩, kind, negated⟩
        | none => back
      else back

/-- An opening bracket with the signs that stand for themselves right after it. -/
def openBracket : Reader (Span × Bool × Members) := do
  let start ← position
  if !(← bumpSpace) then fail .classUnclosed ⟨start, ← position⟩
  let negated := (← peek?) = some '^'
  if negated then
    if !(← bumpSpace) then fail .classUnclosed ⟨start, ← position⟩
  let rec hyphens (m : Members) : Nat → Reader Members
    | 0 => return m
    | fuel + 1 => do
      if (← peek?) = some '-' then
        let m := m.push (.literal ⟨← charSpan, '-', false⟩)
        if !(← bumpSpace) then fail .classUnclosed (Span.point start)
        hyphens m fuel
      else return m
  let m ← hyphens (Members.none (← position)) ((← cursor).rest.length + 1)
  if m.items.isEmpty && (← peek?) = some ']' then
    let m := m.push (.literal ⟨← charSpan, ']', false⟩)
    if !(← bumpSpace) then fail .classUnclosed ⟨start, ← position⟩
    return (⟨start, ← position⟩, negated, m)
  else return (⟨start, ← position⟩, negated, m)

/-- A single member or the end of a range. -/
def classAtom : Reader Atom := do
  match ← peek? with
  | some '\\' => escape
  | some c =>
    let span ← charSpan
    let _ ← bump
    return .literal ⟨span, c, false⟩
  | none => fail .classUnclosed (← hereSpan)

def memberOf : Atom → Reader ClassItem
  | .literal l => return .literal l
  | .property c => return .property c
  | .short c => return .short c
  | a => fail .classEscapeInvalid a.span

def boundOf : Atom → Reader Literal
  | .literal l => return l
  | a => fail .classRangeLiteral a.span

/-- A member or a range of a class. -/
def classMember (frames : List ClassFrame) : Reader ClassItem := do
  let lo ← classAtom
  skipSpace
  if ← atEnd then failUnclosed frames
  let second ← peekSecondSpace?
  if (← peek?) ≠ some '-' || second = some ']' || second = some '-' then memberOf lo
  else
    if !(← bumpSpace) then failUnclosed frames
    let hi ← classAtom
    let span := lo.span.cover hi.span
    let l ← boundOf lo
    let h ← boundOf hi
    if h.char < l.char then fail .classRangeInvalid span
    else return .range span l h

/-- Gives a pending operator its right side. -/
def closeOperator (rhs : ClassSet) : List ClassFrame → ClassSet × List ClassFrame
  | .operator op lhs :: frames => (.binary (lhs.span.cover rhs.span) op lhs rhs, frames)
  | frames => (rhs, frames)

/-- Two signs that stand for a set operator. -/
def setOp? : Reader (Option SetOp) := do
  match ← peek?, ← peekSecond? with
  | some '&', some '&' => return some .intersection
  | some '-', some '-' => return some .difference
  | some '~', some '~' => return some .symmetricDifference
  | _, _ => return none

/-- A bracketed class whose opening bracket is next. -/
def bracketed : Reader Ast := do
  let rec go (m : Members) (frames : List ClassFrame) : Nat → Reader Ast
    | 0 => failUnclosed frames
    | fuel + 1 => do
      skipSpace
      match ← peek? with
      | none => failUnclosed frames
      | some '[' =>
        let ascii ← if frames.isEmpty then pure none else asciiClass?
        match ascii with
        | some cls => go (m.push (.ascii cls)) frames fuel
        | none =>
          let (span, negated, inner) ← openBracket
          go inner (.bracket m span negated :: frames) fuel
      | some ']' =>
        let (set, frames) := closeOperator (.item m.toItem) frames
        match frames with
        | .bracket outer span negated :: frames =>
          let _ ← bump
          let span : Span := ⟨span.first, ← position⟩
          if frames.isEmpty then return .bracketed span negated set
          else go (outer.push (.bracketed span negated set)) frames fuel
        | _ => failUnclosed frames
      | some _ =>
        match ← setOp? with
        | some op =>
          let _ ← bump
          let _ ← bump
          let (lhs, frames) := closeOperator (.item m.toItem) frames
          go (Members.none (← position)) (.operator op lhs :: frames) fuel
        | none =>
          let i ← classMember frames
          go (m.push i) frames fuel
  go (Members.none (← position)) [] (2 * (← cursor).rest.length + 2)

end Reader

end MarkerSweep.Pattern
