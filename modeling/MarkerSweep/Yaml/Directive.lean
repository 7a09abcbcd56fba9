import MarkerSweep.Yaml.Tag
/-!
# Directives

A line that starts with a percent sign tells the version of YAML or what a tag handle stands for.
-/

set_option autoImplicit false

namespace MarkerSweep.Yaml

inductive Directive
  | version (major minor : Nat)
  | tag (handle : String) (expansion : TagText)
deriving DecidableEq

/-- Reads a part of a version number, of nine digits at most. -/
def versionNumber (start : Mark) (c : Cursor) : Reading (Nat × Cursor) :=
  let (digits, after) := c.span Char.isDigit
  if 9 < digits.length then refuse .versionNumberTooLong (c.skip 9).mark .versionDirective start
  else if digits.isEmpty then refuse .versionNumberMissing c.mark .versionDirective start
  else .ok (digits.foldl (fun n d => 10 * n + (d.toNat - '0'.toNat)) 0, after)

def versionDirective (start : Mark) (c : Cursor) : Reading (Directive × Cursor) := do
  let (major, c) ← versionNumber start (c.skipWhile isBlank)
  if !c.looksAt '.' then refuse .versionDotMissing c.mark .versionDirective start
  else
    let (minor, c) ← versionNumber start c.next
    return (.version major minor, c)

def tagDirective (start : Mark) (c : Cursor) : Reading (Directive × Cursor) := do
  let (handle, c) ← tagHandle .directive start (c.skipWhile isBlank)
  if !(c.peek?.any isBlank) then refuse .blankMissing c.mark .tagDirective start
  else
    let (expansion, c) ← uri true .directive start [] (c.skipWhile isBlank)
    if !c.endsWord 0 then refuse .blankOrBreakMissing c.mark .tagDirective start
    else return (.tag (String.ofList handle) expansion, c)

/-- Reads a directive and the rest of its line. -/
def directive (c : Cursor) : Reading (Directive × Cursor) := do
  let start := c.mark
  let (name, c) := c.next.span isNameChar
  if name.isEmpty then refuse .directiveNameMissing c.mark .directive start
  else if !c.endsWord 0 then refuse .directiveNameMalformed c.mark .directive start
  else
    let (d, c) ←
      if name = "YAML".toList then versionDirective start c
      else if name = "TAG".toList then tagDirective start c
      else refuse .directiveUnknown c.mark .directive start
    let c := (c.skipWhile isBlank).skipComment
    if !c.atLineEnd then refuse .lineEndMissing c.mark .directive start
    else return (d, c.skipBreak)

end MarkerSweep.Yaml
