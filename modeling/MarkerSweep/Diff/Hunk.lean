import MarkerSweep.Diff.Compact
import MarkerSweep.Diff.Compare
import MarkerSweep.Text.Lines
/-!
# Hunks

Deletions and insertions without a kept line between them are one block; its deletions are shown first.
A hunk shows a block, or several with few lines between them, with three kept lines around it, and the
ranges of lines that it covers on both sides.
-/

set_option autoImplicit false

namespace MarkerSweep.Diff

/-- The kept lines before a change, and the change. -/
structure Block (α : Type) where
  before : List α
  deleted : List α
  inserted : List α
deriving DecidableEq

/-- The changes of a script and the kept lines after the last one. -/
structure Blocks (α : Type) where
  blocks : List (Block α)
  rest : List α

variable {α : Type}

/-- Groups a script into blocks, given the block that has been read last. -/
def blocksFrom (b : Block α) : List (Edit α) → Blocks α
  | [] =>
    if b.deleted.isEmpty && b.inserted.isEmpty then ⟨[], b.before⟩ else ⟨[b], []⟩
  | .keep items :: script =>
    if b.deleted.isEmpty && b.inserted.isEmpty then
      blocksFrom { b with before := b.before ++ items } script
    else
      let more := blocksFrom ⟨items, [], []⟩ script
      ⟨b :: more.blocks, more.rest⟩
  | .delete items :: script => blocksFrom { b with deleted := b.deleted ++ items } script
  | .insert items :: script => blocksFrom { b with inserted := b.inserted ++ items } script

def Blocks.ofScript (script : List (Edit α)) : Blocks α := blocksFrom ⟨[], [], []⟩ script

/-- A line of a hunk. -/
inductive HunkLine (α : Type)
  | context (line : α)
  | delete (line : α)
  | insert (line : α)
deriving DecidableEq

/-- Lines of a text: how many come before them, and how many they are. -/
structure Extent where
  before : Nat
  length : Nat
deriving DecidableEq

namespace Extent

/-- The number that stands for the start: lines count from one, but an empty range is named by the
line before it. -/
def start (e : Extent) : Nat := if e.length = 0 then e.before else e.before + 1

end Extent

structure Hunk (α : Type) where
  old : Extent
  new : Extent
  lines : List (HunkLine α)
deriving DecidableEq

/-- How many kept lines are shown around a change. -/
def contextLength : Nat := 3

namespace Block

/-- The lines that show a change, without what is around it. -/
def change (b : Block α) : List (HunkLine α) := b.deleted.map .delete ++ b.inserted.map .insert

/-- Whether a block follows so closely on the one before it that both share a hunk. A block without
deletions at the end of the old text, where nothing is kept after it, counts as one line earlier. -/
def isClose (b : Block α) (last : Bool) : Bool :=
  let allowed := if last && b.deleted.isEmpty then 2 * contextLength + 1 else 2 * contextLength
  b.before.length < allowed

end Block

/-- A hunk that is being put together: what has been read of it, and how far it reaches without the
context after it. -/
structure OpenHunk (α : Type) where
  old : Extent
  new : Extent
  lines : List (HunkLine α)

namespace OpenHunk

/-- Starts a hunk with a block, given how many lines come before what is kept before the block. -/
def start (oldBefore newBefore : Nat) (b : Block α) : OpenHunk α :=
  let context := b.before.drop (b.before.length - contextLength)
  let skipped := b.before.length - context.length
  ⟨⟨oldBefore + skipped, context.length + b.deleted.length⟩,
    ⟨newBefore + skipped, context.length + b.inserted.length⟩,
    context.map .context ++ b.change⟩

/-- Adds a block that follows closely. -/
def add (h : OpenHunk α) (b : Block α) : OpenHunk α :=
  ⟨⟨h.old.before, h.old.length + b.before.length + b.deleted.length⟩,
    ⟨h.new.before, h.new.length + b.before.length + b.inserted.length⟩,
    h.lines ++ b.before.map .context ++ b.change⟩

/-- Ends a hunk with some of the kept lines after it. -/
def close (h : OpenHunk α) (after : List α) : Hunk α :=
  let context := after.take contextLength
  ⟨⟨h.old.before, h.old.length + context.length⟩, ⟨h.new.before, h.new.length + context.length⟩,
    h.lines ++ context.map .context⟩

def oldEnd (h : OpenHunk α) : Nat := h.old.before + h.old.length

def newEnd (h : OpenHunk α) : Nat := h.new.before + h.new.length

end OpenHunk

/-- Makes hunks of the blocks after an open one. -/
def hunksFrom (h : OpenHunk α) (rest : List α) : List (Block α) → List (Hunk α)
  | [] => [h.close rest]
  | b :: more =>
    if b.isClose (more.isEmpty && rest.isEmpty) then hunksFrom (h.add b) rest more
    else h.close b.before :: hunksFrom (OpenHunk.start h.oldEnd h.newEnd b) rest more

def Blocks.hunks (s : Blocks α) : List (Hunk α) :=
  match s.blocks with
  | [] => []
  | b :: more => hunksFrom (OpenHunk.start 0 0 b) s.rest more

/-- The hunks that lead from one list of lines to another. -/
def hunks [DecidableEq α] (old new : List α) : List (Hunk α) :=
  (Blocks.ofScript (compact (compare old new))).hunks

/-- The hunks that lead from one text to another. -/
def ofTexts (old new : String) : List (Hunk (List Char)) :=
  hunks (Text.lines old.toList) (Text.lines new.toList)

end MarkerSweep.Diff
