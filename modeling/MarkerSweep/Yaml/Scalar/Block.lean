import MarkerSweep.Yaml.Scalar.Basic
/-!
# Block scalars

The lines of a block scalar are indented alike, either as far as its header says or as far as the first
line that is not empty. A literal scalar keeps its line breaks; a folded one joins neighbouring lines
that do not start with a blank. The header also says what becomes of the line breaks at the end.
-/

set_option autoImplicit false

namespace MarkerSweep.Yaml

/-- What becomes of the line breaks at the end of a block scalar. -/
inductive Chomping
  | strip
  | clip
  | keep
deriving DecidableEq

/-- The part of a block scalar's first line that follows its indicator. -/
structure BlockHeader where
  chomping : Chomping := .clip
  /-- How much deeper than what is around them the lines are indented. -/
  increment : Option Nat := none

/-- Reads a sign that says what becomes of the line breaks at the end. -/
def chompingSign? (c : Cursor) : Option (Chomping × Cursor) :=
  match c.peek? with
  | some '+' => some (.keep, c.next)
  | some '-' => some (.strip, c.next)
  | _ => none

/-- Reads a digit that says how far lines are indented. -/
def indentDigit? (start : Mark) (c : Cursor) : Reading (Option Nat × Cursor) :=
  match c.peek? with
  | some ch =>
    if ch = '0' then refuse .indentZero c.mark .blockScalar start
    else if ch.isDigit then .ok (some (ch.toNat - '0'.toNat), c.next)
    else .ok (none, c)
  | none => .ok (none, c)

/-- Reads the sign and the digit after the indicator, in either order. -/
def blockHeader (start : Mark) (c : Cursor) : Reading (BlockHeader × Cursor) := do
  match chompingSign? c with
  | some (chomping, c) =>
    let (increment, c) ← indentDigit? start c
    return (⟨chomping, increment⟩, c)
  | none =>
    let (increment, c) ← indentDigit? start c
    match increment, chompingSign? c with
    | some _, some (chomping, c) => return (⟨chomping, increment⟩, c)
    | _, _ => return (⟨.clip, increment⟩, c)

/-- The empty lines before a line of a block scalar. -/
structure EmptyLines where
  breaks : List Char
  /-- The column of the deepest of the lines. -/
  deepest : Nat
  after : Cursor

/-- Steps over indentation and empty lines. Where the indentation is not known yet, all spaces belong
to it. -/
def emptyLinesFrom (indent : Option Nat) (start : Mark) (found : List Char) (deepest : Nat) (m : Mark) :
    List Char → Reading EmptyLines
  | [] => .ok ⟨found.reverse, max deepest m.column, ⟨m, []⟩⟩
  | '\r' :: '\n' :: rest =>
    emptyLinesFrom indent start ('\n' :: found) (max deepest m.column) (m.newLine 2) rest
  | c :: rest =>
    let shallow := indent.all (m.column < ·)
    if c = ' ' && shallow then emptyLinesFrom indent start found deepest (m.right 1) rest
    else if c = '\t' && shallow then refuse .tabInIndent m .blockScalar start
    else if isBreak c then
      emptyLinesFrom indent start (brokenAs c :: found) (max deepest m.column) (m.newLine 1) rest
    else .ok ⟨found.reverse, max deepest m.column, ⟨m, c :: rest⟩⟩

/-- What has been read of a block scalar. -/
structure BlockText where
  /-- The text up to the last line, last character first. -/
  read : List Char := []
  /-- The line break that ends the last line. -/
  lastBreak : List Char := []
  /-- The empty lines after the last line. -/
  empty : List Char := []
  /-- The last line starts with a blank. -/
  blank : Bool := false

/-- Adds a line. A folded line break counts as a space if no empty line follows it, and as nothing
otherwise. -/
def BlockText.addLine (literal : Bool) (t : BlockText) (line lineBreak empty : List Char) : BlockText :=
  let blank := line.head?.any isBlank
  let joint :=
    if !literal && t.lastBreak == ['\n'] && !t.blank && !blank then
      if t.empty.isEmpty then [' '] else []
    else t.lastBreak
  ⟨line.reverseAux (t.empty.reverseAux (joint.reverseAux t.read)), lineBreak, empty, blank⟩

/-- Reads the lines that are indented to the given column. -/
def blockLines (literal : Bool) (indent : Nat) (start : Mark) :
    Nat → BlockText → Cursor → Reading (BlockText × Cursor)
  | 0, t, c => .ok (t, c)
  | n + 1, t, c => do
    if c.mark.column ≠ indent || c.rest.isEmpty then return (t, c)
    let (line, c) := c.span (!isBreak ·)
    let (lineBreak, c) := match c.lineBreak? with
      | some (b, after) => ([b], after)
      | none => ([], c)
    let e ← emptyLinesFrom (some indent) start [] 0 c.mark c.rest
    blockLines literal indent start n (t.addLine literal line lineBreak e.breaks) e.after

/-- Reads a block scalar from its indicator on; `parent` is the least column that is deeper than what
is around the scalar. -/
def blockScalar (literal : Bool) (parent : Nat) (c : Cursor) : Reading (List Char × Cursor) := do
  let start := c.mark
  let (header, c) ← blockHeader start c.next
  let c := (c.skipWhile isBlank).skipComment
  if !c.atLineEnd then refuse .lineEndMissing c.mark .blockScalar start
  else do
    let c := c.skipBreak
    let known := header.increment.map (parent - 1 + ·)
    let e ← emptyLinesFrom known start [] 0 c.mark c.rest
    let indent := known.getD (max (max e.deepest parent) 1)
    let (t, c) ← blockLines literal indent start (c.rest.length + 1) ⟨[], [], e.breaks, false⟩ e.after
    let ending := match header.chomping with
      | .strip => []
      | .clip => t.lastBreak
      | .keep => t.lastBreak ++ t.empty
    return (t.read.reverse ++ ending, c)

end MarkerSweep.Yaml
