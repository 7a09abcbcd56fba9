import MarkerSweep.Engine
/-!
# Cleaning a file

A file is read, cleaned, and written back only if the text changed and writing is asked for. Where files
are kept does not matter; a store only has to read and write whole files.
-/

set_option autoImplicit false

namespace MarkerSweep

/-- Whether a changed text is written back. -/
inductive Mode
  | write
  | check
deriving DecidableEq

namespace Mode

def name : Mode → String
  | write => "Write"
  | check => "Check"

end Mode

/-- A place where files are kept. -/
class Store (m : Type → Type) where
  read : Path → m (Except IoError String)
  write : Path → String → m (Except IoError Unit)

/-- What was done to a file. -/
structure Report where
  path : Path
  changed : Bool
  written : Bool
  before : String
  cleaned : String
  summary : Summary
deriving DecidableEq

namespace Cleaner

def target : String := "mfclean_core::cleaner"

def readRecord (path : Path) : Record := ⟨.debug, target, "Reading " ++ path.display⟩

def writeRecord (path : Path) : Record :=
  ⟨.info, target, "Wrote cleaned content to " ++ path.display⟩

def keepRecord (path : Path) (changed : Bool) (mode : Mode) : Record :=
  ⟨.debug, target,
    "No write for " ++ path.display ++ " (changed: " ++ toString changed ++ ", mode: " ++ mode.name ++
      ")"⟩

def report (path : Path) (before : String) (o : Outcome) (written : Bool) : Report :=
  ⟨path, o.changed, written, before, o.text, o.summary⟩

variable {m : Type → Type} [Monad m] [Store m]

/-- Writes a cleaned text back, if it changed and the mode asks for it. -/
def save (path : Path) (mode : Mode) (before : String) (o : Outcome) :
    m (Logged (Except Failure Report)) :=
  if o.changed && mode = .write then do
    match ← Store.write path o.text with
    | .ok () => return ⟨.ok (report path before o true), [writeRecord path]⟩
    | .error e => return .quiet (.error (Failure.ofCause (.write path e)))
  else return ⟨.ok (report path before o false), [keepRecord path o.changed mode]⟩

/-- Cleans the file at a path. -/
def clean (e : Engine) (path : Path) (mode : Mode) : m (Logged (Except Failure Report)) := do
  match ← Store.read path with
  | .error error => return ⟨.error (Failure.ofCause (.read path error)), [readRecord path]⟩
  | .ok before =>
    let l := e.outcome before path.display
    let records := readRecord path :: l.records
    match l.value with
    | .error f => return ⟨.error f, records⟩
    | .ok o => return (← save path mode before o).after records

end Cleaner

end MarkerSweep
