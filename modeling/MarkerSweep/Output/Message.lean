import MarkerSweep.Sink
import MarkerSweep.Theme.Basic
/-!
# Writing in colours

A coloured text is written in three pieces: the sequence that sets the colour, the text, and the
sequence that sets the colour from before.
-/

set_option autoImplicit false

namespace MarkerSweep.Theme

/-- Writes a text as a part of the output, in its colour if colours are on. -/
def print (t : Theme) (colored : Bool) (e : Entry) (text : String) : Printing Unit :=
  match t.color? e with
  | some c =>
    if colored then do
      Printing.text (Color.sequence c.code)
      Printing.text text
      Printing.text (Color.sequence Color.resetCode)
    else Printing.text text
  | none => Printing.text text

/-- Writes a line of its own. -/
def printLine (t : Theme) (colored : Bool) (e : Entry) (text : String) : Printing Unit := do
  t.print colored e text
  Printing.text "\n"

end MarkerSweep.Theme
