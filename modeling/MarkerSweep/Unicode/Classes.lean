import MarkerSweep.Unicode.CharSet
import MarkerSweep.Unicode.Category
import MarkerSweep.Unicode.Property
/-!
# The character classes of everyday use

Blanks, digits and word characters. The blanks are the white space of the Unicode standard and are
written out, because nearly every statement about the built-in rules is about them.
-/

set_option autoImplicit false

namespace MarkerSweep.Unicode

/-- White space: the ASCII blanks and the separators of other scripts. -/
def blanks : CharSet :=
  ⟨[(0x09, 0x0D), (0x20, 0x20), (0x85, 0x85), (0xA0, 0xA0), (0x1680, 0x1680), (0x2000, 0x200A),
    (0x2028, 0x2029), (0x202F, 0x202F), (0x205F, 0x205F), (0x3000, 0x3000)]⟩

def isBlank (c : Char) : Bool := blanks.contains c

/-- Decimal digits of all scripts. -/
def digits : CharSet := namedRuns categoryRuns "Nd"

def alphabetic : CharSet := namedRuns propertyRuns "Alphabetic"

/-- The union of several general categories. -/
def categories (names : List String) : CharSet :=
  names.foldl (fun s n => (namedRuns categoryRuns n).union s) CharSet.empty

/-- Letters, marks, digits, connectors and joiners. -/
def wordChars : CharSet :=
  (alphabetic.union (categories ["Mn", "Mc", "Me", "Nd", "Pc"])).union
    (namedRuns propertyRuns "Join_Control")

/-- Letters and numbers of all kinds. -/
def alphanumeric : CharSet := alphabetic.union (categories ["Nd", "Nl", "No"])

/-- ASCII letters, digits and the underscore. -/
def asciiWord : CharSet := ⟨[(0x30, 0x39), (0x41, 0x5A), (0x5F, 0x5F), (0x61, 0x7A)]⟩

def asciiDigits : CharSet := ⟨[(0x30, 0x39)]⟩

def asciiBlanks : CharSet := ⟨[(0x09, 0x0D), (0x20, 0x20)]⟩

end MarkerSweep.Unicode
