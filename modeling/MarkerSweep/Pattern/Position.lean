/-!
# Places in a pattern

Every part of a pattern remembers where it was written, because an error message draws carets under
it. Lines and columns count from one and columns count characters; the offset counts characters too
and serves to order places.
-/

set_option autoImplicit false

namespace MarkerSweep.Pattern

structure Position where
  offset : Nat
  line : Nat
  column : Nat
deriving DecidableEq, Inhabited

namespace Position

def start : Position := ⟨0, 1, 1⟩

/-- The place right after a character that stands at the given one. -/
def after (p : Position) (c : Char) : Position :=
  if c = '\n' then ⟨p.offset + 1, p.line + 1, 1⟩ else ⟨p.offset + 1, p.line, p.column + 1⟩

end Position

/-- A stretch of a pattern, its end excluded. -/
structure Span where
  first : Position
  last : Position
deriving DecidableEq, Inhabited

namespace Span

/-- The empty stretch at a place. -/
def point (p : Position) : Span := ⟨p, p⟩

def isOneLine (s : Span) : Bool := s.first.line == s.last.line

/-- From the start of one stretch to the end of another. -/
def cover (s t : Span) : Span := ⟨s.first, t.last⟩

end Span

/-- What is left of a pattern and where that starts. -/
structure Cursor where
  position : Position
  rest : List Char
deriving DecidableEq, Inhabited

namespace Cursor

def ofPattern (pattern : List Char) : Cursor := ⟨Position.start, pattern⟩

/-- Steps over one character; at the end it stays. -/
def next (c : Cursor) : Cursor :=
  match c.rest with
  | [] => c
  | ch :: rest => ⟨c.position.after ch, rest⟩

/-- The stretch of the next character, empty at the end. -/
def charSpan (c : Cursor) : Span := ⟨c.position, c.next.position⟩

end Cursor

end MarkerSweep.Pattern
