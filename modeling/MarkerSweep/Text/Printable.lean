/-!
# Text without control sequences

Output that is not meant for a terminal must not steer one. An escape character and what belongs to it
are left out, and so is every other control character that is not a blank.

An escape is followed by one letter, by a bracket and parameters up to a letter, or by a string that
goes on to a bell or to the next escape; characters in between may stand before the letter.
-/

set_option autoImplicit false

namespace MarkerSweep.Text

/-- Where in a control sequence a text stands. -/
inductive Phase
  | plain
  | escape
  | parameters
  | string
deriving DecidableEq

namespace Phase

def escapeChar : Char := '\x1b'

/-- Ends a control sequence at once. -/
def isAbort (c : Char) : Bool := c = '\x18' || c = '\x1a'

def isBell (c : Char) : Bool := c = '\x07'

def isControl (c : Char) : Bool := c.toNat < 0x20

/-- The control characters that are kept. -/
def isKeptControl (c : Char) : Bool := c = '\t' || c = '\n' || c = '\x0c' || c = '\r'

/-- Whether a character ends the parameters of a sequence. -/
def isFinal (c : Char) : Bool := 0x40 ≤ c.toNat && c.toNat ≤ 0x7E

/-- The phase after the character that follows an escape. -/
def afterEscape (c : Char) : Phase :=
  if c = '[' then parameters
  else if c = ']' || c = 'P' || c = 'X' || c = '^' || c = '_' then string
  else if 0x30 ≤ c.toNat && c.toNat ≤ 0x7E then plain
  else escape

/-- The phase after a character, and whether the character is kept. -/
def step (p : Phase) (c : Char) : Phase × Bool :=
  if c = escapeChar then (escape, false)
  else if isAbort c then (plain, false)
  else match p with
    | string => (if isBell c then plain else string, false)
    | plain => (plain, isKeptControl c || !(isControl c || c = '\x7f'))
    | escape | parameters =>
      if isControl c then if isKeptControl c then (plain, true) else (p, false)
      else match p with
        | parameters => (if isFinal c then plain else parameters, false)
        | _ => (afterEscape c, false)

end Phase

/-- The characters of a text that are kept, if it starts in the given phase. -/
def printableFrom (p : Phase) : List Char → List Char
  | [] => []
  | c :: rest =>
    let (next, kept) := p.step c
    if kept then c :: printableFrom next rest else printableFrom next rest

/-- The text without control sequences. -/
def printable (text : String) : String := String.ofList (printableFrom .plain text.toList)

end MarkerSweep.Text
