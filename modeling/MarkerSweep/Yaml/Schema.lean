import MarkerSweep.Decimal
import MarkerSweep.Text.Quoted
import MarkerSweep.Yaml.Document
/-!
# What plain scalars stand for

A plain scalar may stand for nothing, a truth value or a number; all other scalars are texts. Numbers
with a leading zero are texts.
-/

set_option autoImplicit false

namespace MarkerSweep.Yaml

/-- A value as messages name it. -/
inductive Found
  | unit
  | bool (b : Bool)
  | int (n : Int)
  /-- An integer that takes more than eight bytes. -/
  | wide (n : Int)
  | float (numeral : String)
  | text (s : String)
  | map
  | sequence
deriving DecidableEq

namespace Found

def display : Found → String
  | unit => "unit value"
  | bool b => "boolean `" ++ toString b ++ "`"
  | int n => "integer `" ++ toString n ++ "`"
  | wide n => "integer `" ++ toString n ++ "` as " ++ (if n < 0 then "i128" else "u128")
  | float numeral => "floating point `" ++ numeral ++ "`"
  | text s => "string " ++ Text.quoted s
  | map => "map"
  | sequence => "sequence"

end Found

def isNull (s : String) : Bool := s = "null" || s = "Null" || s = "NULL" || s = "~"

def bool? (s : String) : Option Bool :=
  if s = "true" || s = "True" || s = "TRUE" then some true
  else if s = "false" || s = "False" || s = "FALSE" then some false
  else none

/-- The number written in some digits of a base. -/
def number? (base : Nat) (digits : List Char) : Option Nat :=
  if digits.isEmpty then none
  else digits.foldl (fun n c => do
    let d ← hexValue? c
    if d < base then return base * (← n) + d else none) (some 0)

/-- Takes off a sign. -/
def unsigned (cs : List Char) : List Char :=
  match cs with
  | '+' :: rest | '-' :: rest => rest
  | _ => cs

/-- Whether a number is written with a leading zero. -/
def hasLeadingZero (cs : List Char) : Bool :=
  match unsigned cs with
  | '0' :: d :: rest => (d :: rest).all Char.isDigit
  | _ => false

/-- The digits of a number and their base. -/
def basedDigits : List Char → Nat × List Char
  | '0' :: 'x' :: rest => (16, rest)
  | '0' :: 'o' :: rest => (8, rest)
  | '0' :: 'b' :: rest => (2, rest)
  | cs => (10, cs)

/-- The integer that a text is written as. -/
def int? (s : String) : Option Int :=
  let cs := s.toList
  if hasLeadingZero cs then none
  else
    let (base, digits) := basedDigits (unsigned cs)
    let n := number? base digits
    if cs.head? = some '-' then n.map fun n => -(n : Int) else n.map fun n => (n : Int)

/-- The integer that a text is written as, as messages name it. Integers of more than sixteen bytes are
no integers here. -/
def foundInt? (s : String) : Option Found := do
  let n ← int? s
  if -Int.pow 2 63 ≤ n && n < Int.pow 2 64 then some (.int n)
  else if -Int.pow 2 127 ≤ n && n < Int.pow 2 128 then some (.wide n)
  else none

/-- The floating-point number that a text is written as, in the text that messages give it. -/
def float? (s : String) : Option String :=
  let cs := s.toList
  let positive := if cs.head? = some '+' then cs.drop 1 else cs
  let word := String.ofList positive
  if word = ".inf" || word = ".Inf" || word = ".INF" then some "inf"
  else if s = "-.inf" || s = "-.Inf" || s = "-.INF" then some "-inf"
  else if s = ".nan" || s = ".NaN" || s = ".NAN" then some "NaN"
  else if positive.head? = some '+' || (cs.head? = some '+' && positive.head? = some '-') then none
  else (Decimal.read? positive).bind Decimal.roundedText?

/-- What an untagged plain scalar stands for. -/
def foundPlain (s : String) : Found :=
  if s.isEmpty || isNull s then .unit
  else match bool? s, foundInt? s with
    | some b, _ => .bool b
    | none, some n => n
    | none, none =>
      if hasLeadingZero s.toList then .text s
      else match float? s with
        | some f => .float f
        | none => .text s

/-- What a scalar stands for. A tag of the repository demands a value of its kind. -/
def found (s : Scalar) : Except Complaint Found :=
  let refused : String → Except Complaint Found := fun expected =>
    .error (.value (Found.text s.text).display expected)
  match s.tag with
  | some tag =>
    if tag = TagText.bool then
      match bool? s.text with
      | some b => .ok (.bool b)
      | none => refused "a boolean"
    else if tag = TagText.int then
      match foundInt? s.text with
      | some n => .ok n
      | none => refused "an integer"
    else if tag = TagText.float then
      match float? s.text with
      | some f => .ok (.float f)
      | none => refused "a float"
    else if tag = TagText.null then
      if isNull s.text then .ok .unit else refused "null"
    else if tag.head? = TagText.bang.head? && s.style = .plain then .ok (foundPlain s.text)
    else .ok (.text s.text)
  | none => .ok (if s.style = .plain then foundPlain s.text else .text s.text)

end MarkerSweep.Yaml
