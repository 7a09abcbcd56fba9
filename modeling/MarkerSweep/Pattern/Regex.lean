import MarkerSweep.Pattern.Parser
import MarkerSweep.Pattern.Meaning
import MarkerSweep.Pattern.Footprint
import MarkerSweep.Pattern.Search
/-!
# Compiled patterns

A pattern compiles if it parses, means something under its flags and stays within the memory limit.
Whether it does is for a `Builder` to say, and compiling is stated for any of them; running goes by
the footprint. A compiled pattern finds its successive matches in a text.
-/

set_option autoImplicit false

namespace MarkerSweep.Pattern

/-- Why a pattern does not compile. -/
inductive CompileError
  | malformed (pattern : String) (fault : Fault)
  | tooBig (limit : Nat)
deriving DecidableEq

namespace CompileError

def message : CompileError → String
  | malformed pattern fault => fault.message pattern.toList
  | tooBig limit => "Compiled regex exceeds size limit of " ++ toString limit ++ " bytes."

end CompileError

/-- The memory that a compiled pattern may take: ten mebibytes. -/
def memoryLimit : Nat := 10 * 1024 * 1024

/-- Whatever builds the automata of a pattern decides whether they stay within the memory limit. It knows
the pattern, whether its line anchors look at line breaks, and what it means under that. Nothing but the
verdict bears on compiling. -/
class Builder where
  fits (pattern : String) (multiLine : Bool) (meaning : Expr) : Bool

/-- The builder that goes by the memory that the states of the automata take. -/
instance Builder.byFootprint : Builder where
  fits _ _ e := e.footprint ≤ memoryLimit

/-- A compiled pattern. -/
structure Regex where
  pattern : String
  multiLine : Bool
  program : Program
deriving DecidableEq

namespace Regex

/-- The expression that a pattern means; with `multiLine`, line anchors look at line breaks. -/
def expr (pattern : String) (multiLine : Bool) : Except CompileError Expr :=
  match parse pattern.toList with
  | .error f => .error (.malformed pattern f)
  | .ok tree =>
    match tree.meaning { multiLine } with
    | .error f => .error (.malformed pattern f)
    | .ok (e, _) => .ok e

def compile [Builder] (pattern : String) (multiLine : Bool) : Except CompileError Regex := do
  let e ← expr pattern multiLine
  if Builder.fits pattern multiLine e then return ⟨pattern, multiLine, Program.ofExpr e⟩
  else throw (.tooBig memoryLimit)

/-- The successive matches in a text. -/
def findAll (r : Regex) (text : List Char) : List Match := r.program.findAll text.toArray

end Regex

end MarkerSweep.Pattern
