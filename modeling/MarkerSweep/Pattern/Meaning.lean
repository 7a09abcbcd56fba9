import MarkerSweep.Pattern.Ast
import MarkerSweep.Pattern.Error
import MarkerSweep.Pattern.Expr
import MarkerSweep.Unicode.Query
/-!
# From written patterns to regular expressions

Flags act on everything after them up to the end of the group that holds them, so the reading passes
them along from left to right. Without the Unicode flag a class ranges over bytes; since texts are
Unicode, it is then refused unless all its members are ASCII.
-/

set_option autoImplicit false

namespace MarkerSweep.Pattern

open MarkerSweep.Unicode

/-- The switches in force at a place of a pattern. -/
structure Flags where
  caseInsensitive : Bool := false
  multiLine : Bool := false
  dotMatchesNewLine : Bool := false
  swapGreed : Bool := false
  unicode : Bool := true
  crlf : Bool := false
deriving DecidableEq

namespace Flags

/-- The switches after a directive; what it does not mention stays. -/
def apply (f : Flags) (items : List FlagItem) : Flags where
  caseInsensitive := (flagState items .caseInsensitive).getD f.caseInsensitive
  multiLine := (flagState items .multiLine).getD f.multiLine
  dotMatchesNewLine := (flagState items .dotMatchesNewLine).getD f.dotMatchesNewLine
  swapGreed := (flagState items .swapGreed).getD f.swapGreed
  unicode := (flagState items .unicode).getD f.unicode
  crlf := (flagState items .crlf).getD f.crlf

/-- Adds the other cases of the members if case is ignored. -/
def fold (f : Flags) (s : CharSet) : CharSet :=
  if f.caseInsensitive then (if f.unicode then s.foldCase else s.foldAsciiCase) else s

/-- Applies case folding and then negation, in this order, to a class. -/
def finish (f : Flags) (span : Span) (negated : Bool) (s : CharSet) : Except Fault CharSet :=
  let folded := f.fold s
  let result := if negated then folded.complement else folded
  if f.unicode || result.isAscii then .ok result else .error ⟨.invalidUtf8, span⟩

/-- A single character. A byte that is no ASCII character cannot stand in a text. -/
def literal (f : Flags) (l : Literal) : Except Fault CharSet :=
  if !f.unicode && l.isByte && 0x80 ≤ l.char.toNat then .error ⟨.invalidUtf8, l.span⟩
  else if f.unicode || l.char.toNat < 0x80 then .ok (f.fold (CharSet.singleton l.char))
  else .ok (CharSet.singleton l.char)

/-- A character as the member of a class. -/
def member (f : Flags) (l : Literal) : Except Fault Nat :=
  if f.unicode || l.char.toNat < 0x80 then .ok l.char.toNat
  else if l.isByte then .error ⟨.invalidUtf8, l.span⟩
  else .error ⟨.unicodeNotAllowed, l.span⟩

def dot (f : Flags) (span : Span) : Except Fault CharSet :=
  if !f.unicode then .error ⟨.invalidUtf8, span⟩
  else if f.dotMatchesNewLine then .ok CharSet.all
  else if f.crlf then .ok (CharSet.ofRanges [(0x0A, 0x0A), (0x0D, 0x0D)]).complement
  else .ok (CharSet.singleton '\n').complement

def look (f : Flags) : AssertionKind → Look
  | .startLine => if f.multiLine then (if f.crlf then .crlfStart else .lineStart) else .start
  | .endLine => if f.multiLine then (if f.crlf then .crlfFinish else .lineFinish) else .finish
  | .startText => .start
  | .endText => .finish
  | .wordBoundary => .wordBoundary (!f.unicode)
  | .notWordBoundary => .notWordBoundary (!f.unicode)
  | .wordStart => .wordStart (!f.unicode)
  | .wordEnd => .wordFinish (!f.unicode)
  | .wordStartHalf => .wordStartHalf (!f.unicode)
  | .wordEndHalf => .wordFinishHalf (!f.unicode)

/-- The short classes; case does not matter to them. -/
def short (f : Flags) (c : ShortClass) : Except Fault CharSet :=
  let s := match c.kind, f.unicode with
    | .digit, true => digits
    | .space, true => blanks
    | .word, true => wordChars
    | .digit, false => asciiDigits
    | .space, false => asciiBlanks
    | .word, false => asciiWord
  let result := if c.negated then s.complement else s
  if f.unicode || result.isAscii then .ok result else .error ⟨.invalidUtf8, c.span⟩

def property (f : Flags) (c : PropertyClass) : Except Fault CharSet :=
  if !f.unicode then .error ⟨.unicodeNotAllowed, c.span⟩
  else
    let found := match c.name with
      | .named name => Unicode.named name
      | .valued name value _ => Unicode.valued name value
    let differs := match c.name with
      | .named _ => false
      | .valued _ _ differs => differs
    match found with
    | .ok s => f.finish c.span (c.negated != differs) s
    | .error .unknownProperty => .error ⟨.propertyUnknown, c.span⟩
    | .error .unknownValue => .error ⟨.propertyValueUnknown, c.span⟩

end Flags

mutual

/-- The characters of a member of a class. -/
def ClassItem.chars (f : Flags) : ClassItem → Except Fault CharSet
  | .empty _ => .ok CharSet.empty
  | .literal l => do
    let n ← f.member l
    return CharSet.ofRanges [(n, n)]
  | .range _ lo hi => do
    let a ← f.member lo
    let b ← f.member hi
    return CharSet.ofRanges [(a, b)]
  | .ascii c => f.finish c.span c.negated (CharSet.ofRanges c.kind.ranges)
  | .property c => f.property c
  | .short c => f.short c
  | .bracketed span negated set => do f.finish span negated (← set.chars f)
  | .union _ items => ClassItem.unionChars f items

def ClassItem.unionChars (f : Flags) : List ClassItem → Except Fault CharSet
  | [] => .ok CharSet.empty
  | i :: rest => do
    let s ← i.chars f
    return s.union (← ClassItem.unionChars f rest)

/-- The characters of what stands between brackets. -/
def ClassSet.chars (f : Flags) : ClassSet → Except Fault CharSet
  | .item i => i.chars f
  | .binary _ op lhs rhs => do
    let l := f.fold (← lhs.chars f)
    let r := f.fold (← rhs.chars f)
    return match op with
      | .intersection => l.inter r
      | .difference => l.diff r
      | .symmetricDifference => l.symmDiff r

end

mutual

/-- The meaning of a tree under the flags in force, and the flags in force after it. -/
def Ast.meaning (f : Flags) : Ast → Except Fault (Expr × Flags)
  | .empty _ => .ok (.empty, f)
  | .flags _ items => .ok (.empty, f.apply items)
  | .literal l => do return (.set (← f.literal l), f)
  | .dot span => do return (.set (← f.dot span), f)
  | .assertion _ kind => .ok (.look (f.look kind), f)
  | .property c => do return (.set (← f.property c), f)
  | .short c => do return (.set (← f.short c), f)
  | .bracketed span negated set => do return (.set (← f.finish span negated (← set.chars f)), f)
  | .repetition _ count greedy body => do
    let (e, after) ← body.meaning f
    return (.repeated count.least count.most? (greedy != after.swapGreed) e, after)
  | .group _ kind body => do
    let inner := match kind with
      | .flags items => f.apply items
      | _ => f
    let (e, _) ← body.meaning inner
    return match kind with
      | .flags _ => (e, f)
      | _ => (.group e, f)
  | .alternation _ branches => do
    let (es, after) ← Ast.meanings f branches
    return (Expr.choice es, after)
  | .concat _ parts => do
    let (es, after) ← Ast.meanings f parts
    return (Expr.sequence es, after)

def Ast.meanings (f : Flags) : List Ast → Except Fault (List Expr × Flags)
  | [] => .ok ([], f)
  | a :: rest => do
    let (e, between) ← a.meaning f
    let (es, after) ← Ast.meanings between rest
    return (e :: es, after)

end

end MarkerSweep.Pattern
