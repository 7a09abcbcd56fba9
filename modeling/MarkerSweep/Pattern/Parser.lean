import MarkerSweep.Pattern.Bracket
/-!
# Parsing a pattern

Groups and alternations that are still open wait on a stack of frames, so that a fault can name the
outermost or innermost one that it concerns. A finished tree is refused when it is nested too deeply.
-/

set_option autoImplicit false

namespace MarkerSweep.Pattern

/-- Parts of a sequence, the last one first, and where the sequence starts. -/
structure Parts where
  first : Position
  parts : List Ast

namespace Parts

def none (p : Position) : Parts := ⟨p, []⟩

def push (s : Parts) (a : Ast) : Parts := { s with parts := a :: s.parts }

/-- The sequence as a tree, given where it ends. -/
def toAst (s : Parts) (last : Position) : Ast := Ast.ofParts ⟨s.first, last⟩ s.parts.reverse

end Parts

/-- What is still open to the left of the reader's place. -/
inductive Frame
  /-- A group, the sequence before it, and whether blanks were skipped there. -/
  | group (outer : Parts) (span : Span) (kind : GroupKind) (verbose : Bool)
  /-- Finished branches of an alternation, the last one first. -/
  | branches (first : Position) (done : List Ast)

namespace Reader

/-- What an opening parenthesis begins: a change of flags or a group. -/
inductive Opening
  | flags (span : Span) (items : List FlagItem)
  | group (span : Span) (kind : GroupKind)

/-- An opening parenthesis with what belongs to it. -/
def opening : Reader Opening := do
  let span ← charSpan
  let _ ← bump
  skipSpace
  if (← bumpIf "?=") || (← bumpIf "?!") || (← bumpIf "?<=") || (← bumpIf "?<!") then
    fail .lookAround ⟨span.first, ← position⟩
  let inner ← hereSpan
  if (← bumpIf "?P<") || (← bumpIf "?<") then
    return .group span (.named (← groupName))
  else if ← bumpIf "?" then
    if ← atEnd then fail .groupUnclosed span
    let items ← flags
    let closes := (← peek?) = some ')'
    let _ ← bump
    if closes then
      if items.isEmpty then fail .repetitionMissing inner
      else return .flags ⟨span.first, ← position⟩ items
    else return .group span (.flags items)
  else return .group span .capture

/-- Takes the part that a repetition sign applies to. -/
def repeated (s : Parts) : Reader (Ast × Parts) := do
  match s.parts with
  | [] | .empty _ :: _ | .flags _ _ :: _ => fail .repetitionMissing (← hereSpan)
  | a :: rest => return (a, { s with parts := rest })

/-- A repetition sign of one character. -/
def starOf (count : Count) (s : Parts) : Reader Parts := do
  let (body, s) ← repeated s
  let more ← bump
  let lazily := more && (← peek?) = some '?'
  if lazily then
    let _ ← bump
  return s.push (.repetition ⟨body.span.first, ← position⟩ count (!lazily) body)

/-- A count in braces, the opening one of which is next. -/
def counted (s : Parts) : Reader Parts := do
  let start ← position
  let (body, s) ← repeated s
  let unclosed : Reader PUnit := do fail .countUnclosed ⟨start, ← position⟩
  if !(← bumpSpace) then unclosed
  let least ← decimal
  if ← atEnd then unclosed
  let count : Count ←
    if (← peek?) = some ',' then do
      if !(← bumpSpace) then unclosed
      if (← peek?) = some '\x7d' then
        let n ← liftM least
        pure ⟨n, none⟩
      else
        let n ← liftM least
        let m ← liftM (← decimal)
        pure ⟨n, some m⟩
    else do
      let n ← liftM least
      pure ⟨n, some n⟩
  if (← peek?) ≠ some '\x7d' then unclosed
  let more ← bumpSpace
  let lazily := more && (← peek?) = some '?'
  if lazily then
    let _ ← bump
  let last ← position
  if count.most?.any (· < count.least) then fail .countRangeInvalid ⟨start, last⟩
  else return s.push (.repetition ⟨body.span.first, last⟩ count (!lazily) body)

/-- A part that is neither a group, a class nor a repetition. -/
def primitive (c : Char) : Reader Ast := do
  if c = '\\' then return (← escape).toAst
  else
    let span ← charSpan
    let _ ← bump
    match c with
    | '.' => return .dot span
    | '^' => return .assertion span .startLine
    | '$' => return .assertion span .endLine
    | _ => return .literal ⟨span, c, false⟩

/-- Ends the branch that is being read. -/
def pushBranch (s : Parts) (frames : List Frame) : Reader (List Frame) := do
  let branch := s.toAst (← position)
  match frames with
  | .branches first done :: frames => return .branches first (branch :: done) :: frames
  | frames => return .branches s.first [branch] :: frames

/-- Ends the group that is being read; a closing parenthesis is next. -/
def closeGroup (s : Parts) (frames : List Frame) : Reader (Parts × List Frame) := do
  let last ← position
  let (body, frames) := match frames with
    | .branches first done :: frames =>
      (Ast.alternation ⟨first, last⟩ (s.toAst last :: done).reverse, frames)
    | frames => (s.toAst last, frames)
  match frames with
  | .group outer span kind verbose :: frames =>
    setVerbose verbose
    let _ ← bump
    return (outer.push (.group ⟨span.first, ← position⟩ kind body), frames)
  | _ => fail .groupUnopened (← charSpan)

/-- Ends the pattern. -/
def close (s : Parts) (frames : List Frame) : Reader Ast := do
  let last ← position
  let (body, frames) := match frames with
    | .branches first done :: frames =>
      (Ast.alternation ⟨first, last⟩ (s.toAst last :: done).reverse, frames)
    | frames => (s.toAst last, frames)
  match frames with
  | .group _ span _ _ :: _ => fail .groupUnclosed span
  | _ => return body

/-- A whole pattern. -/
def pattern : Reader Ast := do
  let rec go (s : Parts) (frames : List Frame) : Nat → Reader Ast
    | 0 => close s frames
    | fuel + 1 => do
      skipSpace
      match ← peek? with
      | none => close s frames
      | some '(' =>
        match ← opening with
        | .flags span items =>
          if let some on := flagState items .ignoreWhitespace then setVerbose on
          go (s.push (.flags span items)) frames fuel
        | .group span kind =>
          let verbose := (← get).verbose
          if let .flags items := kind then
            if let some on := flagState items .ignoreWhitespace then setVerbose on
          go (Parts.none (← position)) (.group s span kind verbose :: frames) fuel
      | some ')' =>
        let (s, frames) ← closeGroup s frames
        go s frames fuel
      | some '|' =>
        let frames ← pushBranch s frames
        let _ ← bump
        go (Parts.none (← position)) frames fuel
      | some '[' =>
        let cls ← bracketed
        go (s.push cls) frames fuel
      | some '?' => go (← starOf ⟨0, some 1⟩ s) frames fuel
      | some '*' => go (← starOf ⟨0, none⟩ s) frames fuel
      | some '+' => go (← starOf ⟨1, none⟩ s) frames fuel
      | some '\x7b' => go (← counted s) frames fuel
      | some c =>
        let a ← primitive c
        go (s.push a) frames fuel
  go (Parts.none (← position)) [] ((← cursor).rest.length + 1)

end Reader

/-- How deeply groups, classes and repetitions may nest. -/
def nestLimit : Nat := 250

/-- Goes one level down, unless that is too deep. -/
def deeper (span : Span) (depth : Nat) : Except Fault Nat :=
  if depth < nestLimit then .ok (depth + 1) else .error ⟨.nestedTooDeep nestLimit, span⟩

mutual

def ClassItem.checkDepth (depth : Nat) : ClassItem → Except Fault Unit
  | .bracketed span _ set => do set.checkDepth (← deeper span depth)
  | .union span items => do ClassItem.checkDepths (← deeper span depth) items
  | _ => .ok ()

def ClassItem.checkDepths (depth : Nat) : List ClassItem → Except Fault Unit
  | [] => .ok ()
  | i :: rest => do
    i.checkDepth depth
    ClassItem.checkDepths depth rest

def ClassSet.checkDepth (depth : Nat) : ClassSet → Except Fault Unit
  | .item i => i.checkDepth depth
  | .binary span _ lhs rhs => do
    let inner ← deeper span depth
    lhs.checkDepth inner
    rhs.checkDepth inner

end

mutual

/-- Refuses a tree that is nested too deeply, at the first node that is. -/
def Ast.checkDepth (depth : Nat) : Ast → Except Fault Unit
  | .bracketed span _ set => do set.checkDepth (← deeper span depth)
  | .repetition span _ _ body => do body.checkDepth (← deeper span depth)
  | .group span _ body => do body.checkDepth (← deeper span depth)
  | .alternation span branches => do Ast.checkDepths (← deeper span depth) branches
  | .concat span parts => do Ast.checkDepths (← deeper span depth) parts
  | _ => .ok ()

def Ast.checkDepths (depth : Nat) : List Ast → Except Fault Unit
  | [] => .ok ()
  | a :: rest => do
    a.checkDepth depth
    Ast.checkDepths depth rest

end

/-- The tree of a pattern. -/
def parse (pattern : List Char) : Except Fault Ast := do
  let (tree, _) ← Reader.pattern.run ⟨Cursor.ofPattern pattern, false, []⟩
  tree.checkDepth 0
  return tree

end MarkerSweep.Pattern
