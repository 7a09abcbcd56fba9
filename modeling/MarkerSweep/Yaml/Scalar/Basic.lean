import MarkerSweep.Yaml.Error
/-!
# Scalars

A scalar is a text with the style in which it is written. Inside plain and quoted scalars a stretch of
blanks and line breaks is folded: blanks around line breaks vanish, one line break becomes a space, and
of several the first one vanishes.
-/

set_option autoImplicit false

namespace MarkerSweep.Yaml

inductive Style
  | plain
  | singleQuoted
  | doubleQuoted
  | literal
  | folded
deriving DecidableEq

/-- A result of reading, or the problem that stopped it. -/
abbrev Reading (α : Type) := Except Error α

def refuse {α : Type} (problem : Problem) (mark : Mark) (activity : Activity) (since : Mark) :
    Reading α :=
  .error (.malformed problem mark (some (activity, since)))

/-- A stretch of blanks and line breaks: the blanks before the first line break, and what the line
breaks count as. -/
structure Gap where
  blanks : List Char
  breaks : List Char
  after : Cursor

namespace Gap

/-- What the stretch becomes in the text of the scalar. -/
def text (g : Gap) : List Char :=
  match g.breaks with
  | [] => g.blanks
  | ['\n'] => [' ']
  | '\n' :: more => more
  | breaks => breaks

end Gap

/-- Reads line breaks and the blanks around them, from the start of a line on. Gives the place of a tab
that stands before the given column, if there is one. -/
def breaksFrom (column : Nat) (found : List Char) (m : Mark) :
    List Char → Except Mark (List Char × Cursor)
  | [] => .ok (found.reverse, ⟨m, []⟩)
  | '\r' :: '\n' :: rest => breaksFrom column ('\n' :: found) (m.newLine 2) rest
  | c :: rest =>
    if isBreak c then breaksFrom column (brokenAs c :: found) (m.newLine 1) rest
    else if c = '\t' && m.column < column then .error m
    else if isBlank c then breaksFrom column found (m.right 1) rest
    else .ok (found.reverse, ⟨m, c :: rest⟩)

/-- Reads a stretch of blanks and line breaks. -/
def gapAt (column : Nat) (c : Cursor) : Except Mark Gap :=
  let (blanks, c) := c.span isBlank
  match c.lineBreak? with
  | none => .ok ⟨blanks, [], c⟩
  | some (first, c) => do
    let (more, c) ← breaksFrom column [] c.mark c.rest
    return ⟨blanks, first :: more, c⟩

end MarkerSweep.Yaml
