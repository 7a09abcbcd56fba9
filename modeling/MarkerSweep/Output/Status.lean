import MarkerSweep.Cleaner
import MarkerSweep.Theme.Basic
/-!
# The status line

One line tells what became of the file.
-/

set_option autoImplicit false

namespace MarkerSweep.Output

/-- What became of a file. -/
inductive Status
  | cleaned
  | pending
  | unchanged
deriving DecidableEq

namespace Status

def of (changed : Bool) (mode : Mode) : Status :=
  if changed then
    match mode with
    | .write => cleaned
    | .check => pending
  else unchanged

def text (s : Status) (path : Path) : String :=
  match s with
  | cleaned => "✅ " ++ path.displayName ++ " cleaned"
  | pending => "🔎 " ++ path.displayName ++ " would be cleaned"
  | unchanged => "ℹ️ No changes applied to " ++ path.displayName

def entry : Status → Entry
  | cleaned => .success
  | pending => .warn
  | unchanged => .info

/-- The status line of a file. -/
def line (s : Status) (t : Theme) (colored : Bool) (path : Path) : String :=
  t.line colored s.entry (s.text path)

end Status

end MarkerSweep.Output
