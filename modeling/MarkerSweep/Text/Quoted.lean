import MarkerSweep.Unicode.Classes
/-!
# Quoted texts

A text in a message stands in double quotes. Quotes, backslashes and characters that do not show, or
that change the character before them, are written as escapes.
-/

set_option autoImplicit false

namespace MarkerSweep.Text

open Unicode

/-- Characters that take up space on paper: letters, marks, numbers, punctuation and symbols. -/
def visible : CharSet :=
  categories ["Lu", "Ll", "Lt", "Lm", "Lo", "Mn", "Mc", "Me", "Nd", "Nl", "No", "Pc", "Pd", "Ps", "Pe",
    "Pi", "Pf", "Po", "Sm", "Sc", "Sk", "So"]

/-- Characters that belong to the one before them. -/
def extending : CharSet := namedRuns propertyRuns "Grapheme_Extend"

/-- A number in lower-case hexadecimal digits. -/
def hex (n : Nat) : List Char := Nat.toDigits 16 n

def escapeChar (c : Char) : List Char :=
  if c = '\x00' then ['\\', '0']
  else if c = '\t' then ['\\', 't']
  else if c = '\n' then ['\\', 'n']
  else if c = '\r' then ['\\', 'r']
  else if c = '"' then ['\\', '"']
  else if c = '\\' then ['\\', '\\']
  else if c = ' ' then [c]
  else if c.toNat < 0x80 && 0x20 < c.toNat && c.toNat ≠ 0x7F then [c]
  else if visible.contains c && !extending.contains c then [c]
  else "\\u\x7b".toList ++ hex c.toNat ++ "\x7d".toList

/-- A text in double quotes. -/
def quoted (s : String) : String := "\"" ++ String.ofList (s.toList.flatMap escapeChar) ++ "\""

end MarkerSweep.Text
