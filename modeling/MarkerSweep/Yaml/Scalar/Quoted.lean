import MarkerSweep.Yaml.Scalar.Basic
/-!
# Quoted scalars

In single quotes a quote is written twice. In double quotes a backslash starts an escape, and one
before a line break joins the lines.
-/

set_option autoImplicit false

namespace MarkerSweep.Yaml

/-- What a letter after a backslash stands for. -/
def escaped? : Char → Option Char
  | '0' => some '\x00'
  | 'a' => some '\x07'
  | 'b' => some '\x08'
  | 't' | '\t' => some '\t'
  | 'n' => some '\n'
  | 'v' => some '\x0b'
  | 'f' => some '\x0c'
  | 'r' => some '\r'
  | 'e' => some '\x1b'
  | ' ' => some ' '
  | '"' => some '"'
  | '/' => some '/'
  | '\\' => some '\\'
  | 'N' => some '\u0085'
  | '_' => some '\u00a0'
  | 'L' => some '\u2028'
  | 'P' => some '\u2029'
  | _ => none

/-- How many hexadecimal digits a letter after a backslash asks for. -/
def escapeDigits? : Char → Option Nat
  | 'x' => some 2
  | 'u' => some 4
  | 'U' => some 8
  | _ => none

def hexValue? (c : Char) : Option Nat :=
  if c.isDigit then some (c.toNat - '0'.toNat)
  else if 'a' ≤ c && c ≤ 'f' then some (c.toNat - 'a'.toNat + 10)
  else if 'A' ≤ c && c ≤ 'F' then some (c.toNat - 'A'.toNat + 10)
  else none

/-- The number written in some hexadecimal digits. -/
def hexNumber? (cs : List Char) : Option Nat :=
  cs.foldl (fun n c => do return 16 * (← n) + (← hexValue? c)) (some 0)

/-- Reads the escape that a backslash starts. -/
def escape (start : Mark) (c : Cursor) : Reading (Char × Cursor) := do
  let some letter := c.ahead? 1 | refuse .escapeUnknown c.mark .quotedEscape start
  match escaped? letter, escapeDigits? letter with
  | some ch, _ => return (ch, c.skip 2)
  | none, some count =>
    let c := c.skip 2
    let digits := c.rest.take count
    let some code := if digits.length < count then none else hexNumber? digits
      | refuse .hexDigitMissing c.mark .quotedEscape start
    if h : code.isValidChar then return (Char.ofNatAux code h, c.skip count)
    else refuse .escapeNoCharacter c.mark .quotedEscape start
  | none, none => refuse .escapeUnknown c.mark .quotedEscape start

/-- Reads the inside of a quoted scalar and its closing quote; `read` is what has been read, last
character first. -/
def quotedFrom (quote : Char) (start : Mark) : Nat → List Char → Cursor → Reading (List Char × Cursor)
  | 0, _, c => refuse .streamEndInside c.mark .quotedScalar start
  | n + 1, read, c => do
    if c.atDocumentMark then refuse .documentMarkInside c.mark .quotedScalar start
    else match c.rest with
    | [] => refuse .streamEndInside c.mark .quotedScalar start
    | ch :: rest =>
      if isBlankOrBreak ch then
        match gapAt 0 c with
        | .ok g => quotedFrom quote start n (g.text.reverseAux read) g.after
        | .error m => refuse .streamEndInside m .quotedScalar start
      else if quote = '\'' && ch = '\'' && rest.head? = some '\'' then
        quotedFrom quote start n ('\'' :: read) (c.skip 2)
      else if ch = quote then return (read.reverse, c.next)
      else if quote = '"' && ch = '\\' then
        if rest.head?.any isBreak then
          let c := c.next.skipBreak
          match breaksFrom 0 [] c.mark c.rest with
          | .ok (breaks, c) => quotedFrom quote start n (breaks.reverseAux read) c
          | .error m => refuse .streamEndInside m .quotedScalar start
        else do
          let (ch, c) ← escape start c
          quotedFrom quote start n (ch :: read) c
      else quotedFrom quote start n (ch :: read) c.next

/-- Reads a quoted scalar from its opening quote on. -/
def quotedScalar (quote : Char) (c : Cursor) : Reading (List Char × Cursor) :=
  quotedFrom quote c.mark (c.rest.length + 1) [] c.next

end MarkerSweep.Yaml
