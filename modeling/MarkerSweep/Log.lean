/-!
# Log records

What the program has to say about its own work is a list of records, produced beside its results and
never read by it. Printing them is a matter of the command line.
-/

set_option autoImplicit false

namespace MarkerSweep

inductive Level
  | debug
  | info
  | warn
deriving DecidableEq

namespace Level

def name : Level → String
  | debug => "DEBUG"
  | info => "INFO"
  | warn => "WARN"

end Level

/-- A remark, who makes it and how much it matters. -/
structure Record where
  level : Level
  target : String
  message : String
deriving DecidableEq

/-- A result and the remarks made on the way to it. -/
structure Logged (α : Type) where
  value : α
  records : List Record

namespace Logged

/-- A result without a remark. -/
def quiet {α : Type} (value : α) : Logged α := ⟨value, []⟩

/-- Puts remarks before those of a result. -/
def after {α : Type} (records : List Record) (l : Logged α) : Logged α :=
  ⟨l.value, records ++ l.records⟩

end Logged

end MarkerSweep
