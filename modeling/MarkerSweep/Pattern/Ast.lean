import MarkerSweep.Pattern.Position
/-!
# Patterns as written

The tree of a pattern before any of it is given a meaning: flags are still directives, classes are
still expressions, and every node knows the stretch that it was written in. Whether a part is legal
under the flags in force is decided when the tree is read, not here.
-/

set_option autoImplicit false

namespace MarkerSweep.Pattern

/-- The switches of a pattern. -/
inductive Flag
  | caseInsensitive
  | multiLine
  | dotMatchesNewLine
  | swapGreed
  | unicode
  | crlf
  | ignoreWhitespace
deriving DecidableEq

/-- A switch or the sign after which switches are turned off. -/
inductive FlagItem
  | negation
  | flag (f : Flag)
deriving DecidableEq

/-- What a list of flags says about one flag, if anything. -/
def flagState (items : List FlagItem) (f : Flag) : Option Bool :=
  let on := items.takeWhile (· ≠ .negation)
  if items.contains (.flag f) then some (on.contains (.flag f)) else none

/-- A character as written; a two-digit hexadecimal escape may stand for a byte. -/
structure Literal where
  span : Span
  char : Char
  isByte : Bool
deriving DecidableEq

/-- Assertions about a place in a text. -/
inductive AssertionKind
  | startLine
  | endLine
  | startText
  | endText
  | wordBoundary
  | notWordBoundary
  | wordStart
  | wordEnd
  | wordStartHalf
  | wordEndHalf
deriving DecidableEq

/-- The short classes `\d`, `\s` and `\w`. -/
inductive ShortKind
  | digit
  | space
  | word
deriving DecidableEq

structure ShortClass where
  span : Span
  kind : ShortKind
  negated : Bool
deriving DecidableEq

/-- How a property class names its set. -/
inductive PropertyName
  | named (name : String)
  | valued (name value : String) (differs : Bool)
deriving DecidableEq

structure PropertyClass where
  span : Span
  name : PropertyName
  negated : Bool
deriving DecidableEq

/-- The classes written `[:name:]` inside brackets. -/
inductive AsciiKind
  | alnum | alpha | ascii | blank | cntrl | digit | graph | lower | print | punct | space | upper
  | word | xdigit
deriving DecidableEq

structure AsciiClass where
  span : Span
  kind : AsciiKind
  negated : Bool
deriving DecidableEq

inductive SetOp
  | intersection
  | difference
  | symmetricDifference
deriving DecidableEq

mutual

/-- One member of a bracketed class. -/
inductive ClassItem
  | empty (span : Span)
  | literal (l : Literal)
  | range (span : Span) (lo hi : Literal)
  | ascii (c : AsciiClass)
  | property (c : PropertyClass)
  | short (c : ShortClass)
  | bracketed (span : Span) (negated : Bool) (set : ClassSet)
  | union (span : Span) (items : List ClassItem)

/-- What stands between the brackets of a class. -/
inductive ClassSet
  | item (i : ClassItem)
  | binary (span : Span) (op : SetOp) (lhs rhs : ClassSet)

end

def ClassItem.span : ClassItem → Span
  | .empty s | .range s _ _ | .bracketed s _ _ | .union s _ => s
  | .literal l => l.span
  | .ascii c => c.span
  | .property c => c.span
  | .short c => c.span

def ClassSet.span : ClassSet → Span
  | .item i => i.span
  | .binary s _ _ _ => s

/-- How a group captures. -/
inductive GroupKind
  | capture
  | named (name : String)
  | flags (items : List FlagItem)
deriving DecidableEq

/-- How often something is repeated: at least `least` and at most `most?` times. -/
structure Count where
  least : Nat
  most? : Option Nat
deriving DecidableEq

inductive Ast
  | empty (span : Span)
  | flags (span : Span) (items : List FlagItem)
  | literal (l : Literal)
  | dot (span : Span)
  | assertion (span : Span) (kind : AssertionKind)
  | property (c : PropertyClass)
  | short (c : ShortClass)
  | bracketed (span : Span) (negated : Bool) (set : ClassSet)
  | repetition (span : Span) (count : Count) (greedy : Bool) (body : Ast)
  | group (span : Span) (kind : GroupKind) (body : Ast)
  | alternation (span : Span) (branches : List Ast)
  | concat (span : Span) (parts : List Ast)

namespace Ast

def span : Ast → Span
  | empty s | flags s _ | dot s | assertion s _ | bracketed s _ _ | repetition s _ _ _
  | group s _ _ | alternation s _ | concat s _ => s
  | literal l => l.span
  | property c => c.span
  | short c => c.span

/-- A sequence of parts; one part stands for itself. -/
def ofParts (span : Span) : List Ast → Ast
  | [] => empty span
  | [a] => a
  | parts => concat span parts

end Ast

namespace AsciiKind

def ofName? (name : List Char) : Option AsciiKind :=
  match String.ofList name with
  | "alnum" => some alnum | "alpha" => some alpha | "ascii" => some ascii | "blank" => some blank
  | "cntrl" => some cntrl | "digit" => some digit | "graph" => some graph | "lower" => some lower
  | "print" => some print | "punct" => some punct | "space" => some space | "upper" => some upper
  | "word" => some word | "xdigit" => some xdigit
  | _ => none

/-- The code points of the class. -/
def ranges : AsciiKind → List (Nat × Nat)
  | alnum => [(0x30, 0x39), (0x41, 0x5A), (0x61, 0x7A)]
  | alpha => [(0x41, 0x5A), (0x61, 0x7A)]
  | ascii => [(0x00, 0x7F)]
  | blank => [(0x09, 0x09), (0x20, 0x20)]
  | cntrl => [(0x00, 0x1F), (0x7F, 0x7F)]
  | digit => [(0x30, 0x39)]
  | graph => [(0x21, 0x7E)]
  | lower => [(0x61, 0x7A)]
  | print => [(0x20, 0x7E)]
  | punct => [(0x21, 0x2F), (0x3A, 0x40), (0x5B, 0x60), (0x7B, 0x7E)]
  | space => [(0x09, 0x0D), (0x20, 0x20)]
  | upper => [(0x41, 0x5A)]
  | word => [(0x30, 0x39), (0x41, 0x5A), (0x5F, 0x5F), (0x61, 0x7A)]
  | xdigit => [(0x30, 0x39), (0x41, 0x46), (0x61, 0x66)]

end AsciiKind

end MarkerSweep.Pattern
