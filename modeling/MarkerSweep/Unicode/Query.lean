import MarkerSweep.Unicode.Age
import MarkerSweep.Unicode.Break
import MarkerSweep.Unicode.CharSet
import MarkerSweep.Unicode.Classes
import MarkerSweep.Unicode.Names
import MarkerSweep.Unicode.Script
import MarkerSweep.Unicode.ScriptExtension
/-!
# Looking up a property by name

A query names a set of characters, either directly (a category, a script or a yes-or-no property) or
as the value of a named property. Names are matched loosely. The named properties that have sets are
the category, the script, the script extensions, the age and the three break properties; a value that
no character has is named but has no set, and neither has the category of surrogates.
-/

set_option autoImplicit false

namespace MarkerSweep.Unicode

/-- Why a query names no set. -/
inductive QueryFault
  | unknownProperty
  | unknownValue
deriving DecidableEq

/-- The loose form of a name: lower-case, without blanks, underscores, hyphens, anything outside
ASCII, or a leading "is". -/
def looseName (name : String) : String :=
  let lower := name.toList.map Char.toLower
  let body := if lower.take 2 = ['i', 's'] then lower.drop 2 else lower
  let kept := body.filter fun c => !(c = ' ' || c = '_' || c = '-') && c.toNat < 0x80
  -- "isc" is a name of its own, so the "is" in it is no prefix
  if lower.take 2 = ['i', 's'] && kept = ['c'] then "isc" else String.ofList kept

def canonical? (table : List Alias) (loose : String) : Option String :=
  (table.find? fun row => row.2.contains loose).map (·.1)

/-- The two-letter categories that a category name stands for. -/
def categoryParts (name : String) : List String :=
  match name with
  | "L" => ["Lu", "Ll", "Lt", "Lm", "Lo"]
  | "LC" => ["Lu", "Ll", "Lt"]
  | "M" => ["Mn", "Mc", "Me"]
  | "N" => ["Nd", "Nl", "No"]
  | "P" => ["Pc", "Pd", "Ps", "Pe", "Pi", "Pf", "Po"]
  | "S" => ["Sm", "Sc", "Sk", "So"]
  | "Z" => ["Zs", "Zl", "Zp"]
  | other => [other]

/-- All characters that have a category other than "unassigned". -/
def assigned : CharSet :=
  (categories (categoryRuns.map (·.1))).union ⟨[(0xD800, 0xDFFF)]⟩

/-- The set that a table stores under a name. -/
def stored (table : List (String × List String)) (name : String) : Except QueryFault CharSet :=
  if table.any (·.1 == name) then .ok (namedRuns table name) else .error .unknownValue

/-- The set of a general category, given by its short name. -/
def categorySet (name : String) : Except QueryFault CharSet :=
  match name with
  | "Cn" => .ok assigned.complement
  | "Cs" => .error .unknownValue
  | "C" => .ok ((categories ["Cc", "Cf", "Co"]).union assigned.complement)
  | other => .ok (categories (categoryParts other))

/-- The set of a category or of one of the three names that cover several. -/
def category? (loose : String) : Option (Except QueryFault CharSet) :=
  match loose with
  | "any" => some (.ok CharSet.all)
  | "assigned" => some (.ok assigned)
  | "ascii" => some (.ok ⟨[(0, 0x7F)]⟩)
  | _ => (canonical? categoryAliases loose).map categorySet

/-- The set that a table stores for the value that a loose name stands for. -/
def value? (aliases : List Alias) (table : List (String × List String)) (loose : String) :
    Option (Except QueryFault CharSet) :=
  (canonical? aliases loose).map (stored table)

/-- The rows of a table up to the one with a given name, that one included. -/
def rowsThrough (name : String) : List (String × List String) → List (String × List String)
  | [] => []
  | row :: rest => if row.1 = name then [row] else row :: rowsThrough name rest

/-- The characters that a version or an earlier one added. -/
def ageSet (version : String) : CharSet :=
  (rowsThrough version ageRuns).foldl (fun s row => s.union ⟨decodeRuns row.2⟩) CharSet.empty

/-- The set that a bare name stands for. A short name that both a category and a property bear means
the category. -/
def named (name : String) : Except QueryFault CharSet :=
  let loose := looseName name
  let property? :=
    if loose = "cf" || loose = "sc" || loose = "lc" then none
    else canonical? propertyAliases loose
  match property? with
  | some p => .ok (namedRuns propertyRuns p)
  | none =>
    if loose ≠ "cf" && loose ≠ "sc" && loose ≠ "lc" && valuedProperties.contains loose then
      .error .unknownProperty
    else
      ((category? loose).or (value? scriptAliases scriptRuns loose)).getD (.error .unknownProperty)

/-- The set of the characters whose named property has the named value. -/
def valued (property value : String) : Except QueryFault CharSet :=
  let kind := looseName property
  let loose := looseName value
  let found : Option (Except QueryFault CharSet) := match kind with
    | "gc" | "generalcategory" => category? loose
    | "sc" | "script" => value? scriptAliases scriptRuns loose
    | "scx" | "scriptextensions" => value? scriptAliases scriptExtensionRuns loose
    | "age" => (canonical? ageAliases loose).map fun version => .ok (ageSet version)
    | "gcb" | "graphemeclusterbreak" => value? clusterBreakAliases clusterBreakRuns loose
    | "wb" | "wordbreak" => value? wordBreakAliases wordBreakRuns loose
    | "sb" | "sentencebreak" => value? sentenceBreakAliases sentenceBreakRuns loose
    | _ => none
  found.getD <|
    if valuedProperties.contains kind || (canonical? propertyAliases kind).isSome then
      .error .unknownValue
    else .error .unknownProperty

end MarkerSweep.Unicode
