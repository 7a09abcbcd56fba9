import MarkerSweep.Diff.Hunk
import MarkerSweep.Output.Message
/-!
# Showing a diff

Two header lines, then the hunks. Lines are shown without their line feeds. Kept lines are never
coloured. Nothing is shown of equal texts. `diff` is the text that `printDiff` writes.
-/

set_option autoImplicit false

namespace MarkerSweep.Output

open Diff

/-- A line of the text, after the sign that tells what became of it. -/
def signed (sign : Char) (line : List Char) : String := String.ofList (sign :: Text.bare line)

def hunkLine (t : Theme) (colored : Bool) : HunkLine (List Char) → String
  | .context line => signed ' ' line ++ "\n"
  | .delete line => t.line colored .diffRemoved (signed '-' line)
  | .insert line => t.line colored .diffAdded (signed '+' line)

def extent (e : Extent) : String := toString e.start ++ "," ++ toString e.length

/-- The line that tells which lines a hunk covers. -/
def hunkHeader (h : Hunk (List Char)) : String := "@@ -" ++ extent h.old ++ " +" ++ extent h.new ++ " @@"

def hunk (t : Theme) (colored : Bool) (h : Hunk (List Char)) : String :=
  t.line colored .diffHeader (hunkHeader h) ++ String.join (h.lines.map (hunkLine t colored))

/-- The diff between two texts under a label. -/
def diff (t : Theme) (colored : Bool) (label old new : String) : String :=
  match ofTexts old new with
  | [] => ""
  | hunks =>
    t.line colored .diffHeader ("--- " ++ label) ++ t.line colored .diffHeader ("+++ " ++ label) ++
      String.join (hunks.map (hunk t colored))

def printHunkLine (t : Theme) (colored : Bool) : HunkLine (List Char) → Printing Unit
  | .context line => do
    Printing.text " "
    Printing.text (String.ofList (Text.bare line))
    Printing.text "\n"
  | .delete line => t.printLine colored .diffRemoved (signed '-' line)
  | .insert line => t.printLine colored .diffAdded (signed '+' line)

def printHunk (t : Theme) (colored : Bool) (h : Hunk (List Char)) : Printing Unit := do
  t.printLine colored .diffHeader (hunkHeader h)
  h.lines.forM (printHunkLine t colored)

/-- Writes the diff between two texts under a label. -/
def printDiff (t : Theme) (colored : Bool) (label old new : String) : Printing Unit :=
  match ofTexts old new with
  | [] => pure ()
  | hunks => do
    t.printLine colored .diffHeader ("--- " ++ label)
    t.printLine colored .diffHeader ("+++ " ++ label)
    hunks.forM (printHunk t colored)

end MarkerSweep.Output
