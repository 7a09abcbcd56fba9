import MarkerSweep.Yaml.Scalar.Basic
/-!
# Plain scalars

A plain scalar ends at a comment, at a colon before a blank, at a line that is not indented far enough
or that parts documents, and inside brackets also at a bracket or a comma.
-/

set_option autoImplicit false

namespace MarkerSweep.Yaml

def isFlowIndicator (c : Char) : Bool :=
  c = ',' || c = '[' || c = ']' || c = '\x7b' || c = '\x7d'

/-- Reads a word of a plain scalar; `read` is what has been read of the scalar, last character first. -/
def plainWord (flow : Bool) (start : Mark) (read : List Char) (m : Mark) :
    List Char → Reading (List Char × Cursor)
  | [] => .ok (read, ⟨m, []⟩)
  | c :: rest =>
    let here : Cursor := ⟨m, c :: rest⟩
    let followed := rest.head?.any fun d => isFlowIndicator d || d = '?'
    if isBlankOrBreak c then .ok (read, here)
    else if flow && c = ':' && followed then refuse .colonInFlow m .plainScalar start
    else if c = ':' && here.endsWord 1 then .ok (read, here)
    else if flow && isFlowIndicator c then .ok (read, here)
    else plainWord flow start (c :: read) (m.right 1) rest

/-- A plain scalar and what comes after it. -/
structure Plain where
  text : List Char
  after : Cursor
  /-- A line break comes between the text and what is left. -/
  atNewLine : Bool

/-- Reads words and the gaps between them. A gap belongs to the scalar only if a word follows; `gap` is
the one that has been read last. -/
def plainFrom (flow : Bool) (indent : Nat) (start : Mark) :
    Nat → List Char → List Char → Bool → Cursor → Reading Plain
  | 0, read, _, broken, c => .ok ⟨read.reverse, c, broken⟩
  | n + 1, read, gap, broken, c => do
    if c.atDocumentMark || c.looksAt '#' then return ⟨read.reverse, c, broken⟩
    let (word, after) ← plainWord flow start [] c.mark c.rest
    let read := if word.isEmpty then read else word ++ (gap.reverseAux read)
    let broken := broken && word.isEmpty
    if !(after.peek?.any isBlankOrBreak) then return ⟨read.reverse, after, broken⟩
    match gapAt indent after with
    | .error m => refuse .tabBeforePlain m .plainScalar start
    | .ok g =>
      let broken := !g.breaks.isEmpty
      if !flow && g.after.mark.column < indent then return ⟨read.reverse, g.after, broken⟩
      plainFrom flow indent start n read g.text broken g.after

/-- Reads a plain scalar; `indent` is the least column of its continuation lines. -/
def plainScalar (flow : Bool) (indent : Nat) (c : Cursor) : Reading Plain :=
  plainFrom flow indent c.mark (c.rest.length + 1) [] [] false c

end MarkerSweep.Yaml
