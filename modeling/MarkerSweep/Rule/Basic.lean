import MarkerSweep.Failure
/-!
# Rules and rule tables

A rule replaces every match of a pattern by a fixed text. A table holds rules in the order in which
they are applied.
-/

set_option autoImplicit false

namespace MarkerSweep

structure Rule where
  name : String := ""
  description : Option String := none
  pattern : Option String := none
  /-- Put in the place of every match as it stands; nothing in it is expanded. -/
  replaceWith : String := ""
  /-- Line anchors look at line breaks. -/
  multiline : Bool := true
  enabled : Option Bool := none
deriving DecidableEq

namespace Rule

/-- A rule is active unless it is turned off. -/
def isEnabled (r : Rule) : Bool := r.enabled.getD true

end Rule

structure RuleTable where
  rules : List Rule
deriving DecidableEq

namespace RuleTable

/-- The first rule of a name. -/
def rule? (t : RuleTable) (name : String) : Option Rule := t.rules.find? (·.name = name)

/-- The table that holds only the rule of a name. -/
def only (t : RuleTable) (name : String) : Except Failure RuleTable :=
  match t.rule? name with
  | some r => .ok ⟨[r]⟩
  | none => .error (Failure.other ("Rule '" ++ name ++ "' does not exist."))

/-- Turns every rule of a name on or off, or leaves it to its default; tells how many there are. -/
def setEnabled (t : RuleTable) (name : String) (value : Option Bool) : RuleTable × Nat :=
  (⟨t.rules.map fun r => if r.name = name then { r with enabled := value } else r⟩,
    t.rules.countP (·.name = name))

end RuleTable

/-- How often a rule matched. -/
structure Hit where
  rule : String
  count : Nat
deriving DecidableEq

/-- The rules that matched, in the order in which they were applied. -/
abbrev Summary := List Hit

end MarkerSweep
