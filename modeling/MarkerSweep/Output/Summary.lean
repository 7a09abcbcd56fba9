import MarkerSweep.Output.Message
import MarkerSweep.Rule.Basic
/-!
# Showing a summary

One line for each rule that matched, with the number of its matches. `summary` is the text that
`printSummary` writes.
-/

set_option autoImplicit false

namespace MarkerSweep.Output

def summaryLine (t : Theme) (colored : Bool) (h : Hit) : String :=
  "  " ++ t.paint colored .summaryRuleName h.rule ++ ": " ++
    t.paint colored .summaryOccurrences (toString h.count) ++ "\n"

def summary (t : Theme) (colored : Bool) (hits : Summary) : String :=
  match hits with
  | [] => "No markers found.\n"
  | hits => "Markers removed:\n" ++ String.join (hits.map (summaryLine t colored))

def printSummaryLine (t : Theme) (colored : Bool) (h : Hit) : Printing Unit := do
  Printing.text "  "
  t.print colored .summaryRuleName h.rule
  Printing.text ": "
  t.print colored .summaryOccurrences (toString h.count)
  Printing.text "\n"

/-- Writes the summary. -/
def printSummary (t : Theme) (colored : Bool) (hits : Summary) : Printing Unit :=
  match hits with
  | [] => Printing.text "No markers found.\n"
  | hits => do
    Printing.text "Markers removed:\n"
    hits.forM (printSummaryLine t colored)

end MarkerSweep.Output
