import MarkerSweep.Unicode.Classes
/-!
# Lines

A line feed ends a line and belongs to it. The last line may lack one; a text that ends with a line feed
has no empty line after it.
-/

set_option autoImplicit false

namespace MarkerSweep.Text

/-- The lines of a text whose first line has been read up to some characters, the last one first. -/
def linesFrom (read : List Char) : List Char → List (List Char)
  | [] => if read.isEmpty then [] else [read.reverse]
  | c :: rest =>
    if c = '\n' then (c :: read).reverse :: linesFrom [] rest else linesFrom (c :: read) rest

/-- The lines of a text. -/
def lines (text : List Char) : List (List Char) := linesFrom [] text

/-- A line without its line feed. -/
def bare (line : List Char) : List Char :=
  if line.getLast? = some '\n' then line.dropLast else line

/-- A text without the blanks around it. -/
def trimmed (text : List Char) : List Char :=
  ((text.dropWhile Unicode.isBlank).reverse.dropWhile Unicode.isBlank).reverse

end MarkerSweep.Text
