import MarkerSweep.Pattern.Ast
import MarkerSweep.Pattern.Error
import MarkerSweep.Unicode.Classes
/-!
# Reading a pattern character by character

The state of a reader is what is left of the pattern, whether blanks and comments are skipped, and
the group names met so far. Reading stops at the first fault. Loops run over the characters that are
left, so each of them ends.
-/

set_option autoImplicit false

namespace MarkerSweep.Pattern

open MarkerSweep.Unicode

structure ReaderState where
  cursor : Cursor
  /-- Blanks and comments are skipped. -/
  verbose : Bool
  names : List (String × Span)

abbrev Reader := StateT ReaderState (Except Fault)

namespace Reader

def fail {α : Type} (kind : FaultKind) (span : Span) : Reader α := throw ⟨kind, span⟩

def cursor : Reader Cursor := do return (← get).cursor

def setCursor (c : Cursor) : Reader Unit := modify fun s => { s with cursor := c }

def setVerbose (on : Bool) : Reader Unit := modify fun s => { s with verbose := on }

def position : Reader Position := do return (← cursor).position

/-- The next character, if there is one. -/
def peek? : Reader (Option Char) := do return (← cursor).rest.head?

def atEnd : Reader Bool := do return (← cursor).rest.isEmpty

def charSpan : Reader Span := do return (← cursor).charSpan

/-- The empty stretch at the reader's place. -/
def hereSpan : Reader Span := do return Span.point (← position)

/-- Steps over one character and says whether another follows. -/
def bump : Reader Bool := do
  setCursor (← cursor).next
  return !(← atEnd)

/-- What is left after blanks and comments. -/
def skipped (inComment : Bool) (p : Position) : List Char → Cursor
  | [] => ⟨p, []⟩
  | c :: rest =>
    if inComment then skipped (c ≠ '\n') (p.after c) rest
    else if isBlank c then skipped false (p.after c) rest
    else if c = '#' then skipped true (p.after c) rest
    else ⟨p, c :: rest⟩

/-- Steps over blanks and comments where they are to be skipped. -/
def skipSpace : Reader Unit := do
  let s ← get
  if s.verbose then setCursor (skipped false s.cursor.position s.cursor.rest)

/-- Steps over one character and what may be skipped after it; says whether another follows. -/
def bumpSpace : Reader Bool := do
  let _ ← bump
  skipSpace
  return !(← atEnd)

/-- Steps over a given text if it comes next. -/
def bumpIf (text : String) : Reader Bool := do
  let c ← cursor
  if text.toList.isPrefixOf c.rest then
    setCursor (text.toList.foldl (fun c _ => c.next) c)
    return true
  else return false

/-- The character after the next one. -/
def peekSecond? : Reader (Option Char) := do return (← cursor).rest.tail.head?

/-- The first character that is neither blank nor the sign of a comment. A comment hides nothing but
its sign here. -/
def pastBlanks : List Char → Option Char
  | [] => none
  | c :: rest => if isBlank c then pastBlanks rest else some c

/-- The character after the next one, past what may be skipped. -/
def peekSecondSpace? : Reader (Option Char) := do
  let s ← get
  let rest := s.cursor.rest.tail
  if s.verbose then
    match rest.dropWhile isBlank with
    | '#' :: comment => return (pastBlanks comment <|> rest.head?)
    | other => return (other.head? <|> rest.head?)
  else return rest.head?

/-- Reads characters while they satisfy a test, skipping what may be skipped after each. -/
def takeWhileSpace (test : Char → Bool) : Reader (List Char) := do
  let rec go : Nat → Reader (List Char)
    | 0 => return []
    | fuel + 1 => do
      match ← peek? with
      | none => return []
      | some c =>
        if test c then
          let _ ← bumpSpace
          return c :: (← go fuel)
        else return []
  go (← cursor).rest.length

/-- Steps over blanks whether they may be skipped or not. -/
def skipBlanks : Reader Unit := do
  let rec drop (p : Position) : List Char → Cursor
    | [] => ⟨p, []⟩
    | c :: rest => if isBlank c then drop (p.after c) rest else ⟨p, c :: rest⟩
  let c ← cursor
  setCursor (drop c.position c.rest)

end Reader

end MarkerSweep.Pattern
