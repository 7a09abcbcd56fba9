import MarkerSweep.Pattern.Position
/-!
# Why a pattern is refused

A fault is a cause and the stretch of the pattern that shows it. Its text repeats the pattern with
carets under the stretch; a pattern of several lines is framed and its lines are numbered.
-/

set_option autoImplicit false

namespace MarkerSweep.Pattern

/-- The causes for which a pattern is refused. -/
inductive FaultKind
  | classEscapeInvalid
  | classRangeInvalid
  | classRangeLiteral
  | classUnclosed
  | decimalInvalid
  | hexEmpty
  | hexNoScalar
  | hexDigitInvalid
  | escapeUnfinished
  | escapeUnknown
  | flagDanglingNegation
  | flagDuplicate (earlier : Span)
  | flagRepeatedNegation (earlier : Span)
  | flagUnfinished
  | flagUnknown
  | groupNameDuplicate (earlier : Span)
  | groupNameEmpty
  | groupNameInvalid
  | groupNameUnfinished
  | groupUnclosed
  | groupUnopened
  | nestedTooDeep (limit : Nat)
  | countRangeInvalid
  | countEmpty
  | countUnclosed
  | repetitionMissing
  | boundaryUnclosed
  | boundaryUnknown
  | boundaryOrCountUnfinished
  | propertyNameInvalid
  | backreference
  | lookAround
  | unicodeNotAllowed
  | invalidUtf8
  | propertyUnknown
  | propertyValueUnknown
deriving DecidableEq

namespace FaultKind

def message : FaultKind → String
  | classEscapeInvalid => "invalid escape sequence found in character class"
  | classRangeInvalid => "invalid character class range, the start must be <= the end"
  | classRangeLiteral => "invalid range boundary, must be a literal"
  | classUnclosed => "unclosed character class"
  | decimalInvalid => "decimal literal invalid"
  | hexEmpty => "hexadecimal literal empty"
  | hexNoScalar => "hexadecimal literal is not a Unicode scalar value"
  | hexDigitInvalid => "invalid hexadecimal digit"
  | escapeUnfinished => "incomplete escape sequence, reached end of pattern prematurely"
  | escapeUnknown => "unrecognized escape sequence"
  | flagDanglingNegation => "dangling flag negation operator"
  | flagDuplicate _ => "duplicate flag"
  | flagRepeatedNegation _ => "flag negation operator repeated"
  | flagUnfinished => "expected flag but got end of regex"
  | flagUnknown => "unrecognized flag"
  | groupNameDuplicate _ => "duplicate capture group name"
  | groupNameEmpty => "empty capture group name"
  | groupNameInvalid => "invalid capture group character"
  | groupNameUnfinished => "unclosed capture group name"
  | groupUnclosed => "unclosed group"
  | groupUnopened => "unopened group"
  | nestedTooDeep limit =>
    "exceed the maximum number of nested parentheses/brackets (" ++ toString limit ++ ")"
  | countRangeInvalid => "invalid repetition count range, the start must be <= the end"
  | countEmpty => "repetition quantifier expects a valid decimal"
  | countUnclosed => "unclosed counted repetition"
  | repetitionMissing => "repetition operator missing expression"
  | boundaryUnclosed =>
    "special word boundary assertion is either unclosed or contains an invalid character"
  | boundaryUnknown =>
    "unrecognized special word boundary assertion, valid choices are: " ++
      "start, end, start-half or end-half"
  | boundaryOrCountUnfinished =>
    "found either the beginning of a special word boundary or a bounded repetition on a " ++
      "\\b with an opening brace, but no closing brace"
  | propertyNameInvalid => "invalid Unicode character class"
  | backreference => "backreferences are not supported"
  | lookAround => "look-around, including look-ahead and look-behind, is not supported"
  | unicodeNotAllowed => "Unicode not allowed here"
  | invalidUtf8 => "pattern can match invalid UTF-8"
  | propertyUnknown => "Unicode property not found"
  | propertyValueUnknown => "Unicode property value not found"

/-- The earlier stretch that a repeated name or flag collides with. -/
def earlier? : FaultKind → Option Span
  | flagDuplicate s | flagRepeatedNegation s | groupNameDuplicate s => some s
  | _ => none

end FaultKind

/-- A cause and the stretch of the pattern that shows it. -/
structure Fault where
  kind : FaultKind
  span : Span
deriving DecidableEq

/-- The lines of a text after the reversed start of a line. -/
def linesFrom (line : List Char) : List Char → List (List Char)
  | [] => if line.isEmpty then [] else [line.reverse]
  | c :: rest =>
    if c = '\n' then
      (match line with
        | '\r' :: body => body.reverse
        | _ => line.reverse) :: linesFrom [] rest
    else linesFrom (c :: line) rest

/-- The lines of a text: a final line break opens no further line, and a carriage return before a
line break belongs to it. -/
def textLines (text : List Char) : List (List Char) := linesFrom [] text

namespace Fault

def spans (f : Fault) : List Span :=
  f.span :: f.kind.earlier?.toList

/-- Whether one stretch is written before another. -/
def before (s t : Span) : Bool :=
  s.first.offset < t.first.offset || (s.first.offset == t.first.offset && s.last.offset ≤ t.last.offset)

/-- The stretches in the order in which they are written. -/
def ordered : List Span → List Span
  | [] => []
  | s :: rest =>
    let sorted := ordered rest
    sorted.takeWhile (before · s) ++ s :: sorted.dropWhile (before · s)

/-- Carets under the columns of each stretch; an empty stretch gets one. -/
def carets (column : Nat) : List Span → List Char
  | [] => []
  | s :: rest =>
    let blanks := s.first.column - 1 - column
    let width := max 1 (s.last.column - s.first.column)
    List.replicate blanks ' ' ++ List.replicate width '^' ++ carets (column + blanks + width) rest

def padLeft (width : Nat) (s : String) : String :=
  String.ofList (List.replicate (width - s.length) ' ') ++ s

/-- A line of the pattern and the carets under it. -/
def notedLine (numberWidth index : Nat) (noted : List Span) (line : List Char) : String :=
  let margin :=
    if numberWidth = 0 then "    " else padLeft numberWidth (toString (index + 1)) ++ ": "
  let body := margin ++ String.ofList line ++ "\n"
  let here := noted.filter fun s => s.isOneLine && s.first.line == index + 1
  if here.isEmpty then body
  else body ++ String.ofList (List.replicate margin.length ' ' ++ carets 0 here) ++ "\n"

/-- The pattern with the fault drawn into it. -/
def notedPattern (numberWidth : Nat) (noted : List Span) (lines : List (List Char)) : String :=
  String.join (lines.zipIdx.map fun (line, i) => notedLine numberWidth i noted line)

def divider : String := String.ofList (List.replicate 79 '~')

/-- Where a stretch of several lines starts and ends. -/
def throughLines (s : Span) : String :=
  "on line " ++ toString s.first.line ++ " (column " ++ toString s.first.column ++
    ") through line " ++ toString s.last.line ++ " (column " ++ toString (s.last.column - 1) ++ ")"

/-- The text of a fault of the given pattern. -/
def message (pattern : List Char) (f : Fault) : String :=
  let lines := textLines pattern
  let noted := ordered f.spans
  let count := lines.length + (if pattern.getLast? = some '\n' then 1 else 0)
  let numberWidth := if count ≤ 1 then 0 else (toString count).length
  let drawn := notedPattern numberWidth noted lines
  let cause := "error: " ++ f.kind.message
  if pattern.contains '\n' then
    let long := noted.filter (!·.isOneLine)
    let notes :=
      if long.isEmpty then "" else String.intercalate "\n" (long.map throughLines) ++ "\n"
    "regex parse error:\n" ++ divider ++ "\n" ++ drawn ++ divider ++ "\n" ++ notes ++ cause
  else "regex parse error:\n" ++ drawn ++ cause

end Fault

end MarkerSweep.Pattern
