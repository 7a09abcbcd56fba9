import MarkerSweep.Yaml.Scalar.Block
import MarkerSweep.Yaml.Scalar.Plain
import MarkerSweep.Yaml.Token
/-!
# Finding the tokens of a text

A key need not be announced: whether a value follows it shows only at the colon after it. Until then
the token that may begin a key is held back, and so are all tokens after it, because a token for the
key, and possibly one for the start of a mapping, will go before them. A key must be on one line and at
most 1024 characters before its colon.
-/

set_option autoImplicit false

namespace MarkerSweep.Yaml

/-- A token that may turn out to begin a key. -/
structure KeyStart where
  /-- How many tokens come before it. -/
  number : Nat
  mark : Mark
  /-- Nothing but a key fits here. -/
  required : Bool
deriving DecidableEq

structure Lexer where
  cursor : Cursor
  /-- Tokens that are final, the last one first, and their number. -/
  done : List Token := []
  doneCount : Nat := 0
  /-- Tokens that are held back. -/
  held : List Token := []
  /-- The column of the innermost block collection, and those of the ones around it; -1 outside all. -/
  indent : Int := -1
  indents : List Int := []
  /-- A key may begin here. -/
  keyAllowed : Bool := true
  /-- What may turn out to begin a key: within the innermost brackets, and within those around. -/
  keyStart : Option KeyStart := none
  outerKeyStarts : List (Option KeyStart) := []
  started : Bool := false
  ended : Bool := false

namespace Lexer

/-- Whether the text here is inside brackets. -/
def inFlow (l : Lexer) : Bool := !l.outerKeyStarts.isEmpty

def mark (l : Lexer) : Mark := l.cursor.mark

/-- The least column that is deeper than the innermost block collection. -/
def deeper (l : Lexer) : Nat := (l.indent + 1).toNat

/-- The number of tokens found so far. -/
def count (l : Lexer) : Nat := l.doneCount + l.held.length

/-- Adds a token. -/
def push (l : Lexer) (t : Token) : Lexer := { l with held := l.held ++ [t] }

/-- Puts a token before the one of a given number. -/
def insert (l : Lexer) (number : Nat) (t : Token) : Lexer :=
  let place := number - l.doneCount
  { l with held := l.held.take place ++ t :: l.held.drop place }

/-- Adds a token that ends at the given place and goes on from there. -/
def pushTo (l : Lexer) (kind : TokenKind) (after : Cursor) : Lexer :=
  { l.push ⟨kind, l.mark, after.mark⟩ with cursor := after }

/-- Adds a token of the next few characters. -/
def pushNext (l : Lexer) (kind : TokenKind) (length : Nat) : Lexer :=
  l.pushTo kind (l.cursor.skip length)

def allowKey (l : Lexer) (allowed : Bool) : Lexer := { l with keyAllowed := allowed }

/-! ## Keys -/

/-- Whether a place is too far away for its token to begin a key. -/
def isStale (l : Lexer) (k : KeyStart) : Bool :=
  k.mark.line < l.mark.line || k.mark.index + 1024 < l.mark.index

def missingColon {α : Type} (l : Lexer) (k : KeyStart) : Reading α :=
  refuse .keyWithoutValue l.mark .simpleKey k.mark

/-- Drops a key start that is too far away. -/
def refreshKey (l : Lexer) : Option KeyStart → Reading (Option KeyStart)
  | none => .ok none
  | some k =>
    if l.isStale k then
      if k.required then l.missingColon k else .ok none
    else .ok (some k)

/-- Drops the key starts that are too far away, those of the outermost brackets first. -/
def refreshKeys (l : Lexer) : Reading Lexer := do
  let outer ← l.outerKeyStarts.reverse.mapM l.refreshKey
  let inner ← l.refreshKey l.keyStart
  return { l with keyStart := inner, outerKeyStarts := outer.reverse }

/-- Gives up the key start within the innermost brackets. -/
def dropKey (l : Lexer) : Reading Lexer :=
  match l.keyStart with
  | some k => if k.required then l.missingColon k else .ok { l with keyStart := none }
  | none => .ok l

/-- Notes that the next token may begin a key, if one may begin here. -/
def noteKey (l : Lexer) : Reading Lexer :=
  if l.keyAllowed then do
    let required := !l.inFlow && l.indent == (l.mark.column : Int)
    let l' ← l.dropKey
    return { l' with keyStart := some ⟨l.count, l.mark, required⟩ }
  else .ok l

/-! ## Indentation -/

/-- Starts a block collection if the column is deeper than the innermost one; its token goes before the
one of the given number, or at the end. -/
def openBlock (l : Lexer) (column : Nat) (number : Option Nat) (kind : TokenKind) (m : Mark) : Lexer :=
  if l.inFlow || (column : Int) ≤ l.indent then l
  else
    let l := { l with indents := l.indent :: l.indents, indent := column }
    match number with
    | some n => l.insert n ⟨kind, m, m⟩
    | none => l.push ⟨kind, m, m⟩

/-- Ends the block collections that are deeper than the given column. -/
def closeFrom (column : Int) (l : Lexer) : List Int → Lexer
  | [] => l
  | outer :: more =>
    if column < l.indent then
      closeFrom column
        { l.push ⟨.blockEnd, l.mark, l.mark⟩ with indent := outer, indents := more } more
    else l

def closeBlocks (l : Lexer) (column : Int) : Lexer :=
  if l.inFlow then l else closeFrom column l l.indents

/-! ## Blanks -/

/-- Steps over blanks, comments and line breaks. A tab counts as a blank only where no key may
begin. -/
def skipFrom : Nat → Lexer → Lexer
  | 0, l => l
  | n + 1, l =>
    let c := l.cursor
    let c := if c.mark.index = 0 && c.looksAt '\uFEFF' then c.next else c
    let tabs := l.inFlow || !l.keyAllowed
    let c := (c.skipWhile fun ch => ch = ' ' || (tabs && ch = '\t')).skipComment
    match c.lineBreak? with
    | some (_, c) => skipFrom n { l with cursor := c, keyAllowed := l.keyAllowed || !l.inFlow }
    | none => { l with cursor := c }

def skipBlanks (l : Lexer) : Lexer := skipFrom (l.cursor.rest.length + 1) l

/-! ## Tokens -/

/-- Ends everything that is open at the end of a document. -/
def leaveDocument (l : Lexer) : Reading Lexer := do
  return (← (l.closeBlocks (-1)).dropKey).allowKey false

def streamStart (l : Lexer) : Lexer := { l.pushNext .streamStart 0 with started := true }

/-- The end counts as the start of a line. -/
def streamEnd (l : Lexer) : Reading Lexer := do
  let m := l.mark
  let m := if m.column = 0 then m else ⟨m.index, m.line + 1, 0⟩
  let l ← { l with cursor := ⟨m, []⟩ }.leaveDocument
  return { l.pushNext .streamEnd 0 with ended := true }

def directiveToken (l : Lexer) : Reading Lexer := do
  let l ← l.leaveDocument
  let (d, after) ← directive l.cursor
  return l.pushTo (.directive d) after

def documentMark (l : Lexer) (kind : TokenKind) : Reading Lexer := do
  return (← l.leaveDocument).pushNext kind 3

def openBracket (l : Lexer) (kind : TokenKind) : Reading Lexer := do
  let l ← l.noteKey
  let l := { l with keyStart := none, outerKeyStarts := l.keyStart :: l.outerKeyStarts }
  return (l.allowKey true).pushNext kind 1

def closeBracket (l : Lexer) (kind : TokenKind) : Reading Lexer := do
  let l ← l.dropKey
  let l := match l.outerKeyStarts with
    | k :: more => { l with keyStart := k, outerKeyStarts := more }
    | [] => l
  return (l.allowKey false).pushNext kind 1

def comma (l : Lexer) : Reading Lexer := do
  return ((← l.dropKey).allowKey true).pushNext .flowEntry 1

def refuseHere {α : Type} (l : Lexer) (problem : Problem) : Reading α :=
  .error (.malformed problem l.mark none)

def hyphen (l : Lexer) : Reading Lexer := do
  if !l.inFlow && !l.keyAllowed then l.refuseHere .entryNotAllowed
  else
    let l := l.openBlock l.mark.column none .blockSequenceStart l.mark
    return ((← l.dropKey).allowKey true).pushNext .blockEntry 1

def questionMark (l : Lexer) : Reading Lexer := do
  if !l.inFlow && !l.keyAllowed then l.refuseHere .keyNotAllowed
  else
    let l := l.openBlock l.mark.column none .blockMappingStart l.mark
    let l ← l.dropKey
    return (l.allowKey !l.inFlow).pushNext .key 1

/-- A colon makes a key of what may begin one, or stands for a value without a key. -/
def colon (l : Lexer) : Reading Lexer := do
  match l.keyStart with
  | some k =>
    let l := l.insert k.number ⟨.key, k.mark, k.mark⟩
    let l := l.openBlock k.mark.column (some k.number) .blockMappingStart k.mark
    return ({ l with keyStart := none }.allowKey false).pushNext .value 1
  | none =>
    if !l.inFlow && !l.keyAllowed then l.refuseHere .valueNotAllowed
    else
      let l := l.openBlock l.mark.column none .blockMappingStart l.mark
      return (l.allowKey !l.inFlow).pushNext .value 1

/-- Characters that may follow the name of an anchor directly. -/
def followsName (c : Cursor) : Bool :=
  c.endsWord 0 || c.peek?.any ("?:,]\x7d%@`".toList.contains ·)

def anchorName (activity : Activity) (c : Cursor) : Reading (String × Cursor) := do
  let (name, after) := c.next.span isNameChar
  if name.isEmpty || !followsName after then refuse .nameMissing after.mark activity c.mark
  else return (String.ofList name, after)

def aliasToken (l : Lexer) : Reading Lexer := do
  let l := (← l.noteKey).allowKey false
  let (name, after) ← anchorName .aliasName l.cursor
  return l.pushTo (.aliasOf name) after

def anchorToken (l : Lexer) : Reading Lexer := do
  let l := (← l.noteKey).allowKey false
  let (name, after) ← anchorName .anchor l.cursor
  return l.pushTo (.anchor name) after

def tagToken (l : Lexer) : Reading Lexer := do
  let l := (← l.noteKey).allowKey false
  let (t, after) ← tag l.inFlow l.cursor
  return l.pushTo (.tag t) after

def blockScalarToken (l : Lexer) (style : Style) : Reading Lexer := do
  let l := (← l.dropKey).allowKey true
  let (text, after) ← blockScalar (style == .literal) l.deeper l.cursor
  return l.pushTo (.scalar (String.ofList text) style) after

def quotedToken (l : Lexer) (quote : Char) (style : Style) : Reading Lexer := do
  let l := (← l.noteKey).allowKey false
  let (text, after) ← quotedScalar quote l.cursor
  return l.pushTo (.scalar (String.ofList text) style) after

def plainToken (l : Lexer) : Reading Lexer := do
  let l := (← l.noteKey).allowKey false
  let p ← plainScalar l.inFlow l.deeper l.cursor
  return (l.pushTo (.scalar (String.ofList p.text) .plain) p.after).allowKey p.atNewLine

/-- Characters that have a meaning of their own at the start of a token. -/
def isIndicator (c : Char) : Bool := "-?:,[]\x7b\x7d#&*!|>'\"%@`".toList.contains c

/-- Whether a plain scalar may start here. -/
def atPlain (l : Lexer) (ch : Char) : Bool :=
  let next := l.cursor.ahead? 1
  (!isBlankOrBreak ch && !isIndicator ch) || (ch = '-' && !(next.any isBlank)) ||
    (!l.inFlow && (ch = '?' || ch = ':') && !l.cursor.endsWord 1)

/-- Finds the token that starts with the given character. -/
def tokenAt (l : Lexer) (ch : Char) : Reading Lexer :=
  let c := l.cursor
  let alone := c.endsWord 1
  if c.mark.column = 0 && ch = '%' then l.directiveToken
  else if c.atLineWord '-' then l.documentMark .documentStart
  else if c.atLineWord '.' then l.documentMark .documentEnd
  else match ch with
    | '[' => l.openBracket .flowSequenceStart
    | '\x7b' => l.openBracket .flowMappingStart
    | ']' => l.closeBracket .flowSequenceEnd
    | '\x7d' => l.closeBracket .flowMappingEnd
    | ',' => l.comma
    | '*' => l.aliasToken
    | '&' => l.anchorToken
    | '!' => l.tagToken
    | '\'' => l.quotedToken '\'' .singleQuoted
    | '"' => l.quotedToken '"' .doubleQuoted
    | _ =>
      if ch = '-' && alone then l.hyphen
      else if ch = '?' && (l.inFlow || alone) then l.questionMark
      else if ch = ':' && (l.inFlow || alone) then l.colon
      else if ch = '|' && !l.inFlow then l.blockScalarToken .literal
      else if ch = '>' && !l.inFlow then l.blockScalarToken .folded
      else if l.atPlain ch then l.plainToken
      else refuse .tokenStart c.mark .nextToken c.mark

/-- Finds the next token, and those that the indentation before it stands for. -/
def advance (l : Lexer) : Reading Lexer := do
  if !l.started then return l.streamStart
  let l ← l.skipBlanks.refreshKeys
  let l := l.closeBlocks l.mark.column
  match l.cursor.peek? with
  | none => l.streamEnd
  | some ch => l.tokenAt ch

/-! ## All tokens -/

def mayBeginKey (l : Lexer) (number : Nat) : Bool :=
  let begins : Option KeyStart → Bool := fun k => k.any (·.number == number)
  begins l.keyStart || l.outerKeyStarts.any begins

/-- Moves tokens to those that are final, up to one that may begin a key. -/
def releaseFrom (l : Lexer) : List Token → Lexer
  | [] => { l with held := [] }
  | t :: rest =>
    if l.mayBeginKey l.doneCount then { l with held := t :: rest }
    else releaseFrom { l with done := t :: l.done, doneCount := l.doneCount + 1 } rest

def release (l : Lexer) : Reading Lexer :=
  if l.held.isEmpty then .ok l
  else do
    let l ← l.refreshKeys
    return l.releaseFrom l.held

def scanFrom : Nat → Lexer → Scan
  | 0, l => ⟨l.done.reverse, none⟩
  | n + 1, l =>
    if l.ended then ⟨l.done.reverse, none⟩
    else match l.advance >>= release with
      | .ok l => scanFrom n l
      | .error e => ⟨l.done.reverse, some e⟩

end Lexer

/-- The tokens of a text. Every step but the first and the last one takes a character at least. -/
def Scan.ofText (text : List Char) : Scan :=
  Lexer.scanFrom (text.length + 2) { cursor := Cursor.ofText text }

end MarkerSweep.Yaml
