import MarkerSweep.Pattern.Reader
/-!
# Escapes, numerals, flags and group names

The parts of a pattern that are read the same way wherever they stand. Each reader starts on the
first character of its part and ends right after it.
-/

set_option autoImplicit false

namespace MarkerSweep.Pattern

open MarkerSweep.Unicode

/-- A part that is a single unit of a pattern, inside or outside of brackets. -/
inductive Atom
  | literal (l : Literal)
  | dot (span : Span)
  | assertion (span : Span) (kind : AssertionKind)
  | property (c : PropertyClass)
  | short (c : ShortClass)

namespace Atom

def span : Atom → Span
  | literal l => l.span
  | dot s | assertion s _ => s
  | property c => c.span
  | short c => c.span

def toAst : Atom → Ast
  | literal l => .literal l
  | dot s => .dot s
  | assertion s k => .assertion s k
  | property c => .property c
  | short c => .short c

end Atom

/-- Characters that an escape turns into themselves because they have a meaning of their own. -/
def isMeta (c : Char) : Bool := "\\.+*?()|[]\x7b\x7d^$#&-~".toList.contains c

/-- Characters that may be escaped although they have no meaning of their own. -/
def isEscapable (c : Char) : Bool :=
  isMeta c || (c.toNat < 0x80 && !c.isAlphanum && c ≠ '<' && c ≠ '>')

def hexValue? (c : Char) : Option Nat :=
  if '0' ≤ c && c ≤ '9' then some (c.toNat - '0'.toNat)
  else if 'a' ≤ c && c ≤ 'f' then some (c.toNat - 'a'.toNat + 10)
  else if 'A' ≤ c && c ≤ 'F' then some (c.toNat - 'A'.toNat + 10)
  else none

/-- The scalar value that hexadecimal digits denote. -/
def scalar? (digits : List Nat) : Option Char :=
  let n := digits.foldl (fun n d => 16 * n + d) 0
  if n.isValidChar then some (Char.ofNat n) else none

namespace Reader

/-- Exactly `count` hexadecimal digits, the first of which is next. -/
def hexFixed (isByte : Bool) (count : Nat) : Reader Literal := do
  let first ← position
  let rec digits : Nat → Reader (List Nat)
    | 0 => return []
    | left + 1 => do
      if left + 1 < count then
        if !(← bumpSpace) then fail .escapeUnfinished (← hereSpan)
      match (← peek?).bind hexValue? with
      | none => fail .hexDigitInvalid (← charSpan)
      | some d => return d :: (← digits left)
  let ds ← digits count
  let _ ← bumpSpace
  let span : Span := ⟨first, ← position⟩
  match scalar? ds with
  | none => fail .hexNoScalar span
  | some c => return ⟨span, c, isByte⟩

/-- Hexadecimal digits between braces, the opening one of which is next. -/
def hexBraced : Reader Literal := do
  let brace ← position
  let first := (← charSpan).last
  let rec digits : Nat → Reader (List Nat)
    | 0 => return []
    | fuel + 1 => do
      if !(← bumpSpace) then return []
      match ← peek? with
      | none => return []
      | some c =>
        if c = '\x7d' then return []
        match hexValue? c with
        | none => fail .hexDigitInvalid (← charSpan)
        | some d => return d :: (← digits fuel)
  let ds ← digits (← cursor).rest.length
  if ← atEnd then fail .escapeUnfinished ⟨brace, ← position⟩
  let last ← position
  let _ ← bumpSpace
  if ds.isEmpty then fail .hexEmpty ⟨brace, ← position⟩
  match scalar? ds with
  | none => fail .hexNoScalar ⟨first, last⟩
  | some c => return ⟨⟨first, ← position⟩, c, false⟩

/-- A hexadecimal escape whose letter is next. -/
def hex (letter : Char) : Reader Literal := do
  if !(← bumpSpace) then fail .escapeUnfinished (← hereSpan)
  if (← peek?) = some '\x7b' then hexBraced
  else hexFixed (letter = 'x') (if letter = 'x' then 2 else if letter = 'u' then 4 else 8)

/-- The part of a text before a separator and the part after it. -/
def cutAt (sep : List Char) : List Char → Option (List Char × List Char)
  | [] => none
  | c :: rest =>
    if sep.isPrefixOf (c :: rest) then some ([], (c :: rest).drop sep.length)
    else (cutAt sep rest).map fun (a, b) => (c :: a, b)

/-- The property that the text between braces names. -/
def propertyName (text : List Char) : PropertyName :=
  match cutAt ['!', '='] text with
  | some (n, v) => .valued (String.ofList n) (String.ofList v) true
  | none => match cutAt [':'] text with
    | some (n, v) => .valued (String.ofList n) (String.ofList v) false
    | none => match cutAt ['='] text with
      | some (n, v) => .valued (String.ofList n) (String.ofList v) false
      | none => .named (String.ofList text)

/-- A property class whose letter is next; `start` is where its backslash stands. -/
def property (start : Position) (letter : Char) : Reader PropertyClass := do
  let negated := letter = 'P'
  if !(← bumpSpace) then fail .escapeUnfinished (← hereSpan)
  match ← peek? with
  | some '\x7b' =>
    let rec name : Nat → Reader (List Char)
      | 0 => return []
      | fuel + 1 => do
        if !(← bumpSpace) then return []
        match ← peek? with
        | none => return []
        | some c => if c = '\x7d' then return [] else return c :: (← name fuel)
    let text ← name (← cursor).rest.length
    if ← atEnd then fail .escapeUnfinished (← hereSpan)
    let _ ← bump
    return ⟨⟨start, ← position⟩, propertyName text, negated⟩
  | some c =>
    if c = '\\' then fail .propertyNameInvalid (← charSpan)
    let _ ← bumpSpace
    return ⟨⟨start, ← position⟩, .named (String.singleton c), negated⟩
  | none => fail .escapeUnfinished (← hereSpan)

/-- The boundary that braces after `\b` name. If the braces hold a count instead, the reader goes back
to the opening one. -/
def boundary? (start : Position) : Reader (Option AssertionKind) := do
  let brace ← cursor
  let isNameChar : Char → Bool := fun c => c.isAlpha || c = '-'
  if !(← bumpSpace) then fail .boundaryOrCountUnfinished ⟨start, ← position⟩
  let first ← position
  if !((← peek?).any isNameChar) then
    setCursor brace
    return none
  let name ← takeWhileSpace isNameChar
  if (← peek?) ≠ some '\x7d' then fail .boundaryUnclosed ⟨brace.position, ← position⟩
  let last ← position
  let _ ← bump
  match String.ofList name with
  | "start" => return some .wordStart
  | "end" => return some .wordEnd
  | "start-half" => return some .wordStartHalf
  | "end-half" => return some .wordEndHalf
  | _ => fail .boundaryUnknown ⟨first, last⟩

/-- The character that a letter stands for after a backslash. -/
def control? (c : Char) : Option Char :=
  match c with
  | 'a' => some '\x07' | 'f' => some '\x0c' | 't' => some '\t'
  | 'n' => some '\n' | 'r' => some '\r' | 'v' => some '\x0b'
  | _ => none

/-- The assertion that a character stands for after a backslash. -/
def assertion? (c : Char) : Option AssertionKind :=
  match c with
  | 'A' => some .startText | 'z' => some .endText
  | 'b' => some .wordBoundary | 'B' => some .notWordBoundary
  | '<' => some .wordStart | '>' => some .wordEnd
  | _ => none

/-- The short class that a letter stands for after a backslash. -/
def short? (c : Char) : Option (ShortKind × Bool) :=
  match c with
  | 'd' => some (.digit, false) | 'D' => some (.digit, true)
  | 's' => some (.space, false) | 'S' => some (.space, true)
  | 'w' => some (.word, false) | 'W' => some (.word, true)
  | _ => none

/-- An escape whose backslash is next. -/
def escape : Reader Atom := do
  let start ← position
  if !(← bump) then fail .escapeUnfinished ⟨start, ← position⟩
  let some c ← peek? | fail .escapeUnfinished ⟨start, ← position⟩
  if c.isDigit then fail .backreference ⟨start, (← charSpan).last⟩
  else if c = 'x' || c = 'u' || c = 'U' then
    let l ← hex c
    return .literal { l with span := ⟨start, l.span.last⟩ }
  else if c = 'p' || c = 'P' then
    return .property (← property start c)
  else
    let _ ← bump
    let span : Span := ⟨start, ← position⟩
    if let some (kind, negated) := short? c then return .short ⟨span, kind, negated⟩
    else if isEscapable c then return .literal ⟨span, c, false⟩
    else if let some image := control? c then return .literal ⟨span, image, false⟩
    else match assertion? c with
      | some .wordBoundary =>
        if (← peek?) = some '\x7b' then
          match ← boundary? start with
          | some kind => return .assertion ⟨start, ← position⟩ kind
          | none => return .assertion span .wordBoundary
        else return .assertion span .wordBoundary
      | some kind => return .assertion span kind
      | none => fail .escapeUnknown span

/-- A decimal numeral of at most 32 bits, with blanks around it. A bad numeral is stepped over all
the same, because what follows it may be the greater fault. -/
def decimal : Reader (Except Fault Nat) := do
  skipBlanks
  let first ← position
  let digits ← takeWhileSpace (·.isDigit)
  let span : Span := ⟨first, ← position⟩
  let _ ← takeWhileSpace isBlank
  let n := digits.foldl (fun n c => 10 * n + (c.toNat - '0'.toNat)) 0
  if digits.isEmpty then return .error ⟨.countEmpty, span⟩
  else if n < UInt32.size then return .ok n
  else return .error ⟨.decimalInvalid, span⟩

/-- The flag that a letter stands for. -/
def flag? (c : Char) : Option Flag :=
  match c with
  | 'i' => some .caseInsensitive | 'm' => some .multiLine | 's' => some .dotMatchesNewLine
  | 'U' => some .swapGreed | 'u' => some .unicode | 'R' => some .crlf
  | 'x' => some .ignoreWhitespace
  | _ => none

/-- The flags before a colon or a closing parenthesis. -/
def flags : Reader (List FlagItem) := do
  let rec go (earlier : List (FlagItem × Span)) : Nat → Reader (List (FlagItem × Span))
    | 0 => return earlier
    | fuel + 1 => do
      let some c ← peek? | fail .flagUnfinished (← hereSpan)
      if c = ':' || c = ')' then return earlier
      let span ← charSpan
      let item : FlagItem ←
        if c = '-' then pure .negation
        else match flag? c with
          | some f => pure (.flag f)
          | none => fail .flagUnknown span
      match earlier.find? (·.1 = item) with
      | some (_, other) =>
        if item = .negation then fail (.flagRepeatedNegation other) span
        else fail (.flagDuplicate other) span
      | none =>
        if !(← bump) then fail .flagUnfinished (← hereSpan)
        go (earlier ++ [(item, span)]) fuel
  let items ← go [] ((← cursor).rest.length + 1)
  match items.getLast? with
  | some (.negation, span) => fail .flagDanglingNegation span
  | _ => return items.map (·.1)

/-- Characters that a group name may hold; a digit or a sign may not come first. -/
def isNameChar (first : Bool) (c : Char) : Bool :=
  if first then c = '_' || alphabetic.contains c
  else c = '_' || c = '.' || c = '[' || c = ']' || alphanumeric.contains c

/-- A group name and the closing angle bracket after it. -/
def groupName : Reader String := do
  if ← atEnd then fail .groupNameUnfinished (← hereSpan)
  let start ← position
  let rec go (first : Bool) : Nat → Reader (List Char)
    | 0 => return []
    | fuel + 1 => do
      match ← peek? with
      | none => return []
      | some c =>
        if c = '>' then return []
        if !isNameChar first c then fail .groupNameInvalid (← charSpan)
        let _ ← bump
        return c :: (← go false fuel)
  let name ← go true (← cursor).rest.length
  let last ← position
  if ← atEnd then fail .groupNameUnfinished (← hereSpan)
  let _ ← bump
  if name.isEmpty then fail .groupNameEmpty (Span.point start)
  let span : Span := ⟨start, last⟩
  let text := String.ofList name
  match (← get).names.find? (·.1 = text) with
  | some (_, other) => fail (.groupNameDuplicate other) span
  | none =>
    modify fun s => { s with names := (text, span) :: s.names }
    return text

end Reader

end MarkerSweep.Pattern
