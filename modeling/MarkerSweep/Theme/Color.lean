import MarkerSweep.Unicode.Lowercase
/-!
# Colours

A terminal has sixteen colours. A colour is given by a name: one of their names is recognised in any
mixture of cases, and the colour then bears it in lower case. A colour that bears any other name comes
out white.
-/

set_option autoImplicit false

namespace MarkerSweep

inductive Hue
  | black
  | red
  | green
  | yellow
  | blue
  | magenta
  | cyan
  | white
deriving DecidableEq

namespace Hue

def name : Hue → String
  | black => "black"
  | red => "red"
  | green => "green"
  | yellow => "yellow"
  | blue => "blue"
  | magenta => "magenta"
  | cyan => "cyan"
  | white => "white"

def number : Hue → Nat
  | black => 0
  | red => 1
  | green => 2
  | yellow => 3
  | blue => 4
  | magenta => 5
  | cyan => 6
  | white => 7

end Hue

/-- A colour of a terminal. -/
structure Tint where
  hue : Hue
  bright : Bool := false
deriving DecidableEq

namespace Tint

def name (t : Tint) : String := if t.bright then "bright" ++ t.hue.name else t.hue.name

def white : Tint := ⟨.white, false⟩

/-- The colour of a terminal that a name in lower case stands for. -/
def named? : String → Option Tint
  | "black" => some ⟨.black, false⟩
  | "red" => some ⟨.red, false⟩
  | "green" => some ⟨.green, false⟩
  | "yellow" => some ⟨.yellow, false⟩
  | "blue" => some ⟨.blue, false⟩
  | "magenta" => some ⟨.magenta, false⟩
  | "cyan" => some ⟨.cyan, false⟩
  | "white" => some ⟨.white, false⟩
  | "brightblack" => some ⟨.black, true⟩
  | "brightred" => some ⟨.red, true⟩
  | "brightgreen" => some ⟨.green, true⟩
  | "brightyellow" => some ⟨.yellow, true⟩
  | "brightblue" => some ⟨.blue, true⟩
  | "brightmagenta" => some ⟨.magenta, true⟩
  | "brightcyan" => some ⟨.cyan, true⟩
  | "brightwhite" => some ⟨.white, true⟩
  | _ => none

end Tint

/-- A colour by its name, whatever that is. -/
structure Color where
  ofName ::
  name : String
deriving DecidableEq

namespace Color

/-- The names that are recognised. -/
def names : List String :=
  ["black", "red", "green", "yellow", "blue", "magenta", "cyan", "white", "brightblack",
    "brightred", "brightgreen", "brightyellow", "brightblue", "brightmagenta", "brightcyan",
    "brightwhite"]

/-- The colour that a text names. -/
def parse? (text : String) : Option Color :=
  let lower := Unicode.lowercase text
  if names.contains lower then some ⟨lower⟩ else none

/-- The message for a text that names no colour. -/
def unknownMessage : String :=
  "Invalid theme color; expected one of: " ++ String.intercalate ", " names ++ "."

/-- How the colour comes out on a terminal. -/
def tint (c : Color) : Tint := (Tint.named? (Unicode.lowercase c.name)).getD .white

def hue (c : Color) : Hue := c.tint.hue

def bright (c : Color) : Bool := c.tint.bright

/-- The number of the colour in escape sequences. -/
def code (c : Color) : Nat := (if c.bright then 90 else 30) + c.hue.number

def escape : Char := '\x1b'

/-- The escape sequence that sets a colour. -/
def sequence (code : Nat) : String := String.ofList [escape] ++ "[" ++ toString code ++ "m"

/-- The number that stands for the colour from before. -/
def resetCode : Nat := 39

/-- A text in a colour. -/
def paint (c : Color) (text : String) : String := sequence c.code ++ text ++ sequence resetCode

end Color

end MarkerSweep
