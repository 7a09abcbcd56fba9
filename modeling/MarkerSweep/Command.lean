import MarkerSweep.Output.Diff
import MarkerSweep.Output.Status
import MarkerSweep.Output.Summary
import MarkerSweep.Sink
/-!
# Cleaning a file and telling about it

The diff and the summary, if they are asked for, go to the error output; then the status line goes to
the standard output. Nothing is written if cleaning fails, and nothing more once a write has failed.
What was done to the file stands in any case.
-/

set_option autoImplicit false

namespace MarkerSweep

structure Options where
  path : Path
  mode : Mode := .write
  diff : Bool := false
  summary : Bool := false
  outColored : Bool := false
  errColored : Bool := false

/-- The two outputs of the program. -/
structure Console where
  out : Sink := {}
  err : Sink := {}

/-- What came of a run. -/
structure Run where
  result : Except Failure Report
  console : Console
  /-- Remarks made before the outputs were written. -/
  records : List Record
  /-- Remarks made after that. -/
  closing : List Record

namespace Command

def target : String := "mfclean::commands::clean"

def startRecord (path : Path) : Record :=
  ⟨.info, target, "Starting clean of " ++ path.display ++ "."⟩

def finishRecord (r : Report) : Record :=
  ⟨.debug, target,
    "Clean finished for " ++ r.path.display ++ ": changed=" ++ toString r.changed ++ ", written=" ++
      toString r.written⟩

def completeRecord : Record := ⟨.info, target, "Clean operation completed."⟩

/-- All that goes to the error output. -/
def errText (o : Options) (t : Theme) (r : Report) : String :=
  (if o.diff then Output.diff t o.errColored r.path.display r.before r.cleaned else "") ++
    (if o.summary then Output.summary t o.errColored r.summary else "")

/-- All that goes to the standard output. -/
def outText (o : Options) (t : Theme) (r : Report) : String :=
  (Output.Status.of r.changed o.mode).line t o.outColored r.path

/-- Writes to the error output. -/
def printErr (o : Options) (t : Theme) (r : Report) : Printing Unit := do
  if o.diff then
    Output.printDiff t o.errColored r.path.display r.before r.cleaned
  if o.summary then
    Output.printSummary t o.errColored r.summary

/-- Writes to the standard output. -/
def printOut (o : Options) (t : Theme) (r : Report) : Printing Unit :=
  let status := Output.Status.of r.changed o.mode
  t.printLine o.outColored status.entry (status.text r.path)

/-- Writes what there is to tell. -/
def tell (o : Options) (t : Theme) (c : Console) (r : Report) : Console × Except IoError Unit :=
  match (printErr o t r).on c.err with
  | (err, .error e) => ({ c with err := err }, .error e)
  | (err, .ok ()) =>
    let (out, written) := (printOut o t r).on c.out
    (⟨out, err⟩, written)

variable {m : Type → Type} [Monad m] [Store m]

def run (e : Engine) (o : Options) (t : Theme) (c : Console) : m Run := do
  let l ← Cleaner.clean e o.path o.mode
  let records := startRecord o.path :: l.records
  match l.value with
  | .error f =>
    return ⟨.error (f.within ("Failed to clean " ++ o.path.display)), c, records, []⟩
  | .ok r =>
    let records := records ++ [finishRecord r]
    match tell o t c r with
    | (c, .ok ()) => return ⟨.ok r, c, records, [completeRecord]⟩
    | (c, .error e) => return ⟨.error (Failure.ofCause (.io e)), c, records, []⟩

end Command

end MarkerSweep
