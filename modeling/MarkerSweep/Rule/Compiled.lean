import MarkerSweep.Log
import MarkerSweep.Rule.Basic
/-!
# Compiled rules

Compiling a table is all or nothing: either every enabled rule compiles, or the failure names every
enabled rule that does not, in order. Disabled rules are not looked at.
-/

set_option autoImplicit false

namespace MarkerSweep

open Pattern

variable [Builder]

/-- Puts a replacement in the place of each match; `place` is where the text starts. -/
def substituteFrom (replacement : List Char) (place : Nat) (text : List Char) :
    List Match → List Char
  | [] => text
  | m :: rest =>
    text.take (m.first - place) ++ replacement ++
      substituteFrom replacement m.last (text.drop (m.last - place)) rest

def substitute (replacement text : List Char) (found : List Match) : List Char :=
  substituteFrom replacement 0 text found

structure CompiledRule where
  name : String
  regex : Regex
  replaceWith : String
deriving DecidableEq

namespace CompiledRule

/-- Replaces every match in a text; answers the new text and the number of matches. -/
def applyCounted (r : CompiledRule) (text : String) : String × Nat :=
  let found := r.regex.findAll text.toList
  match found.length with
  | 0 => (text, 0)
  | n + 1 => (String.ofList (substitute r.replaceWith.toList text.toList found), n + 1)

def apply (r : CompiledRule) (text : String) : String := (r.applyCounted text).1

end CompiledRule

structure CompiledTable where
  rules : List CompiledRule
deriving DecidableEq

namespace CompiledTable

def rule? (t : CompiledTable) (name : String) : Option CompiledRule :=
  t.rules.find? (·.name = name)

end CompiledTable

namespace Rule

/-- Compiles a rule, enabled or not. -/
def compile (r : Rule) : Except RuleFault CompiledRule :=
  match r.pattern with
  | none => .error (.missingPattern r.name)
  | some pattern =>
    if maxPatternLength < pattern.utf8ByteSize then .error (.tooLong r.name pattern.utf8ByteSize)
    else match Regex.compile pattern r.multiline with
      | .ok regex => .ok ⟨r.name, regex, r.replaceWith⟩
      | .error e => .error (.pattern r.name e)

/-- The remark on compiling a rule, if there is one. -/
def compileRecord? (r : Rule) : Option Record :=
  if !r.isEnabled then
    some ⟨.debug, "mfclean_core::rules::compiler", "Rule '" ++ r.name ++ "' is disabled; skipping."⟩
  else match r.compile with
    | .ok _ =>
      some ⟨.debug, "mfclean_core::rules", "Rule '" ++ r.name ++ "' compiled successfully."⟩
    | .error (.missingPattern name) =>
      some ⟨.warn, "mfclean_core::rules::compiler", "Rule '" ++ name ++ "' has no pattern."⟩
    | .error _ => none

end Rule

/-- The values of some attempts and the faults of the others, both in order. -/
def partitionResults {ε α : Type} : List (Except ε α) → List ε × List α
  | [] => ([], [])
  | .ok a :: rest => ((partitionResults rest).1, a :: (partitionResults rest).2)
  | .error e :: rest => (e :: (partitionResults rest).1, (partitionResults rest).2)

/-- Compiles the enabled rules of a list. -/
def compileRules (rules : List Rule) : Except (List RuleFault) CompiledTable :=
  let (faults, compiled) := partitionResults ((rules.filter (·.isEnabled)).map Rule.compile)
  if faults.isEmpty then .ok ⟨compiled⟩ else .error faults

/-- The remarks on compiling a list of rules. -/
def compileRecords (rules : List Rule) : List Record :=
  let target := "mfclean_core::rules::compiler"
  let start : Record :=
    ⟨.debug, target, "Starting compilation of " ++ toString rules.length ++ " rules."⟩
  let finish : List Record := match compileRules rules with
    | .ok t =>
      [⟨.debug, target,
        "Finished compiling rules. Total compiled: " ++ toString t.rules.length ++ "."⟩]
    | .error _ => []
  start :: rules.filterMap Rule.compileRecord? ++ finish

/-- Compiles a table, with the remarks made on the way. -/
def RuleTable.compile (t : RuleTable) : Logged (Except Failure CompiledTable) where
  value := match compileRules t.rules with
    | .ok c => .ok c
    | .error faults => .error (Failure.ofCause (.rules faults))
  records := compileRecords t.rules

end MarkerSweep
