import MarkerSweep.Rule.Builtin
import MarkerSweep.Rule.Compiled
/-!
# Cleaning a text

An engine maps a text, and a name for it, to a cleaned text and a summary, or fails. The engine of a
rule table runs its enabled rules one after another, each on the text that the one before it left.
-/

set_option autoImplicit false

namespace MarkerSweep

open Pattern (Builder)

/-- Cleans a text; the second argument names it in remarks. -/
structure Engine where
  clean : String → String → Logged (Except Failure (String × Summary))

/-- What cleaning a text came to. -/
structure Outcome where
  text : String
  changed : Bool
  summary : Summary
deriving DecidableEq

namespace CompiledTable

/-- Runs the rules one after another. -/
def cleanFrom (text : String) : List CompiledRule → String × Summary
  | [] => (text, [])
  | r :: rest =>
    let (next, count) := r.applyCounted text
    let (final, hits) := cleanFrom next rest
    (final, if count = 0 then hits else ⟨r.name, count⟩ :: hits)

def clean (t : CompiledTable) (text : String) : String × Summary := cleanFrom text t.rules

end CompiledTable

/-- The remarks on cleaning a text of the given name, given the result. -/
def cleanRecords (text source cleaned : String) (hits : Summary) : List Record :=
  let target := "mfclean_core::engines::regex_engine"
  let hitRecord : Hit → Record := fun h =>
    ⟨.debug, target,
      "Rule '" ++ h.rule ++ "' matched " ++ toString h.count ++ " time(s) in " ++ source ++ "."⟩
  hits.map hitRecord ++
    [⟨.debug, target,
      "Cleaned " ++ source ++ ". Original length: " ++ toString text.utf8ByteSize ++
        ", cleaned length: " ++ toString cleaned.utf8ByteSize⟩]

/-- The engine that runs the rules of a table. -/
def CompiledTable.engine (t : CompiledTable) : Engine where
  clean text source :=
    let (cleaned, hits) := t.clean text
    ⟨.ok (cleaned, hits), cleanRecords text source cleaned hits⟩

/-- The compiled rules of a table, ready to clean. -/
def RuleTable.prepare [Builder] (t : RuleTable) : Logged (Except Failure CompiledTable) :=
  let l := t.compile
  ⟨l.value.mapError (·.within "Failed to compile cleaning rules for RegexEngine"), l.records⟩

/-- Cleans a text and compares the result with it. -/
def Engine.outcome (e : Engine) (text source : String) : Logged (Except Failure Outcome) :=
  let l := e.clean text source
  ⟨l.value.map fun (cleaned, summary) => ⟨cleaned, cleaned != text, summary⟩, l.records⟩

/-- The name of a text that comes from no file. -/
def memorySource : String := "<memory>"

/-- Cleans a text with the rules of a table. -/
def RuleTable.clean [Builder] (t : RuleTable) (text : String) : Except Failure Outcome := do
  let compiled ← t.prepare.value
  (compiled.engine.outcome text memorySource).value

/-- Cleans a text with the built-in rules. -/
def clean (text : String) : Except Failure Outcome := RuleTable.builtin.clean text

end MarkerSweep
