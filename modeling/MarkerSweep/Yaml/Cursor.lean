/-!
# Walking through a YAML text

Places are counted in characters, lines and columns from zero. Besides the carriage return and the line
feed, the next-line character and the two Unicode separators end a line. A carriage return and the
line feed after it are one line break.
-/

set_option autoImplicit false

namespace MarkerSweep.Yaml

structure Mark where
  index : Nat
  line : Nat
  column : Nat
deriving DecidableEq, Inhabited

namespace Mark

def start : Mark := ⟨0, 0, 0⟩

/-- The place after a number of characters of the same line. -/
def right (m : Mark) (n : Nat) : Mark := ⟨m.index + n, m.line, m.column + n⟩

/-- The start of the next line, after a line break of the given number of characters. -/
def newLine (m : Mark) (n : Nat) : Mark := ⟨m.index + n, m.line + 1, 0⟩

/-- The very first place is the one that messages do not mention. -/
def isOrigin (m : Mark) : Bool := m.line == 0 && m.column == 0

def display (m : Mark) : String :=
  "line " ++ toString (m.line + 1) ++ " column " ++ toString (m.column + 1)

/-- The end of a message about a place. -/
def suffix (m : Mark) : String := if m.isOrigin then "" else " at " ++ m.display

end Mark

def isBreak (c : Char) : Bool :=
  c = '\n' || c = '\r' || c = '\u0085' || c = '\u2028' || c = '\u2029'

def isBlank (c : Char) : Bool := c = ' ' || c = '\t'

def isBlankOrBreak (c : Char) : Bool := isBlank c || isBreak c

/-- Letters of names: of anchors, tag handles and directives. -/
def isNameChar (c : Char) : Bool := c.isAlphanum || c = '_' || c = '-'

/-- What a line break counts as in a text. -/
def brokenAs (c : Char) : Char := if c = '\u2028' || c = '\u2029' then c else '\n'

/-- The characters that are left and the place of the first of them. -/
structure Cursor where
  mark : Mark
  rest : List Char
deriving DecidableEq, Inhabited

namespace Cursor

def ofText (text : List Char) : Cursor := ⟨Mark.start, text⟩

/-- Steps over characters of the same line. -/
def skip (c : Cursor) (n : Nat) : Cursor := ⟨c.mark.right n, c.rest.drop n⟩

def next (c : Cursor) : Cursor := c.skip 1

def peek? (c : Cursor) : Option Char := c.rest.head?

/-- The character some steps ahead. -/
def ahead? (c : Cursor) (n : Nat) : Option Char := c.rest[n]?

/-- Whether a given character comes next. -/
def looksAt (c : Cursor) (ch : Char) : Bool := c.rest.head? == some ch

/-- Whether a blank, a line break or the end is some steps ahead. -/
def endsWord (c : Cursor) (n : Nat) : Bool :=
  match c.ahead? n with
  | none => true
  | some ch => isBlankOrBreak ch

def atLineEnd (c : Cursor) : Bool :=
  match c.peek? with
  | none => true
  | some ch => isBreak ch

/-- The longest stretch of characters of a class, and what comes after it. -/
def span (c : Cursor) (p : Char → Bool) : List Char × Cursor :=
  let taken := c.rest.takeWhile p
  (taken, c.skip taken.length)

/-- Steps over the characters of a class. -/
def skipWhile (c : Cursor) (p : Char → Bool) : Cursor := (c.span p).2

/-- Steps over a line break, if one comes next, and tells what it counts as. -/
def lineBreak? (c : Cursor) : Option (Char × Cursor) :=
  match c.rest with
  | '\r' :: '\n' :: rest => some ('\n', ⟨c.mark.newLine 2, rest⟩)
  | ch :: rest => if isBreak ch then some (brokenAs ch, ⟨c.mark.newLine 1, rest⟩) else none
  | [] => none

/-- Steps over a line break, if one comes next. -/
def skipBreak (c : Cursor) : Cursor :=
  match c.lineBreak? with
  | some (_, after) => after
  | none => c

/-- Steps over a comment that comes next, up to the end of its line. -/
def skipComment (c : Cursor) : Cursor :=
  if c.looksAt '#' then c.skipWhile (!isBreak ·) else c

/-- Whether a word of three equal characters stands alone at the start of the line. -/
def atLineWord (c : Cursor) (ch : Char) : Bool :=
  c.mark.column == 0 && c.rest.take 3 == [ch, ch, ch] && c.endsWord 3

/-- Whether a line starts here that parts documents. -/
def atDocumentMark (c : Cursor) : Bool := c.atLineWord '-' || c.atLineWord '.'

end Cursor

end MarkerSweep.Yaml
