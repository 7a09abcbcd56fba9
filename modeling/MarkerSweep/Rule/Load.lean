import MarkerSweep.Rule.Compiled
import MarkerSweep.Yaml.Decode
/-!
# Rule tables from YAML

A table is written as a mapping with the field `rules`, a sequence of mappings. All fields of a rule may
be left out. A table is accepted if its names are distinct and not empty and if every rule, enabled or
not, has a pattern that compiles; all faults are reported together, in the order of the rules.
-/

set_option autoImplicit false

namespace MarkerSweep

open Yaml (Decode)
open Pattern (Builder)

variable [Builder]

namespace Rule

/-- The fields of a rule. -/
def fields : List (Decode.Field Rule) :=
  [{ name := "name"
     read := fun route n r => return { r with name := ← Decode.text "a string" route n } },
   { name := "description"
     read := fun route n r => do
       let d ← Decode.optional (Decode.text "a string" route) n
       return { r with description := d } },
   { name := "pattern"
     read := fun route n r => do
       let p ← Decode.optional (Decode.text "a string" route) n
       return { r with pattern := p } },
   { name := "replace_with"
     read := fun route n r => return { r with replaceWith := ← Decode.text "a string" route n } },
   { name := "multiline"
     read := fun route n r => return { r with multiline := ← Decode.bool route n } },
   { name := "enabled"
     read := fun route n r => do
       let e ← Decode.optional (Decode.bool route) n
       return { r with enabled := e } }]

def decode : Yaml.Route → Yaml.Node → Decode Rule := Decode.record "struct CleanRule" fields {}

end Rule

/-- Why a table is not accepted. -/
inductive TableFault
  | emptyName
  | duplicateName (name : String)
  | missingPattern (name : String)
  | emptyPattern (name : String)
  | tooLong (name : String) (length : Nat)
  | pattern (name : String) (error : Pattern.CompileError)
deriving DecidableEq

namespace TableFault

def message : TableFault → String
  | emptyName => "A rule has an empty `name` field."
  | duplicateName name => "Duplicate rule name found: '" ++ name ++ "'."
  | missingPattern name => "Rule '" ++ name ++ "' is missing the `pattern` field."
  | emptyPattern name => "Rule '" ++ name ++ "' has an empty `pattern` field."
  | tooLong name length =>
    "Rule '" ++ name ++ "': pattern length (" ++ toString length ++ ") exceeds maximum allowed (" ++
      toString maxPatternLength ++ ")."
  | pattern name error =>
    "Rule '" ++ name ++ "' has an invalid regex pattern: " ++ error.message

end TableFault

namespace Rule

/-- What is wrong with the name of a rule, given the names of the rules before it. -/
def nameFault? (earlier : List String) (r : Rule) : Option TableFault :=
  if r.name.isEmpty then some .emptyName
  else if earlier.contains r.name then some (.duplicateName r.name)
  else none

/-- What is wrong with the pattern of a rule. Line anchors make no difference to that. -/
def patternFault? (r : Rule) : Option TableFault :=
  match r.pattern with
  | none => some (.missingPattern r.name)
  | some pattern =>
    if pattern.isEmpty then some (.emptyPattern r.name)
    else if maxPatternLength < pattern.utf8ByteSize then
      some (.tooLong r.name pattern.utf8ByteSize)
    else match Pattern.Regex.compile pattern false with
      | .ok _ => none
      | .error e => some (.pattern r.name e)

end Rule

/-- The faults of a list of rules, given the names of the rules before it. -/
def tableFaultsFrom (earlier : List String) : List Rule → List TableFault
  | [] => []
  | r :: rest =>
    (r.nameFault? earlier).toList ++ r.patternFault?.toList ++
      tableFaultsFrom (r.name :: earlier) rest

namespace RuleTable

def faults (t : RuleTable) : List TableFault := tableFaultsFrom [] t.rules

/-- Accepts a table that has no fault. -/
def check (t : RuleTable) : Except Failure RuleTable :=
  if t.faults.isEmpty then .ok t
  else .error (Failure.other ("Rule validation failed:\n" ++
    String.intercalate "\n" (t.faults.map TableFault.message)))

def fields : List (Decode.Field RuleTable) :=
  [{ name := "rules"
     read := fun route n _ => return ⟨← Decode.list Rule.decode route n⟩
     required := true }]

/-- The table that a YAML text holds, accepted or not. -/
def parse (text : String) : Except Yaml.Error RuleTable :=
  Decode.ofText (Decode.record "struct CleanConfig" fields ⟨[]⟩) text

/-- The table that a YAML text holds. -/
def ofYaml (text : String) : Except Failure RuleTable := do
  match parse text with
  | .ok t => t.check
  | .error e => .error (Failure.other e.message)

end RuleTable

end MarkerSweep
