import MarkerSweep.Diff.Hunk
import MarkerSweep.Proofs.Diff.Script
/-!
# Hunks lead from one list to another

A list of hunks says how to get from one list to another if the stretches between the hunks are the
same on both sides. `Leads` says this with the positions that the hunks name, and it is what every
later statement about a diff is read off. The hunks of two lists lead from the one to the other
(`leads_hunks`): the lines of a script are neither lost nor doubled when they are grouped into blocks
(`sides_blocksFrom`), and when blocks are put into hunks, what is left out between two hunks is kept on
both sides (`leads_hunksFrom`).
-/

set_option autoImplicit false

namespace MarkerSweep.Diff

variable {α : Type}

/-! ## Both sides of a block and of a hunk -/

/-- The part of the old list that a block covers. -/
def Block.old (b : Block α) : List α := b.before ++ b.deleted

/-- The part of the new list that a block covers. -/
def Block.new (b : Block α) : List α := b.before ++ b.inserted

namespace Blocks

def old (s : Blocks α) : List α := s.blocks.flatMap Block.old ++ s.rest

def new (s : Blocks α) : List α := s.blocks.flatMap Block.new ++ s.rest

@[simp] theorem old_nil (rest : List α) : old ⟨[], rest⟩ = rest := rfl

@[simp] theorem new_nil (rest : List α) : new ⟨[], rest⟩ = rest := rfl

@[simp] theorem old_cons (b : Block α) (more : List (Block α)) (rest : List α) :
    old ⟨b :: more, rest⟩ = b.before ++ (b.deleted ++ old ⟨more, rest⟩) := by
  simp [old, Block.old]

@[simp] theorem new_cons (b : Block α) (more : List (Block α)) (rest : List α) :
    new ⟨b :: more, rest⟩ = b.before ++ (b.inserted ++ new ⟨more, rest⟩) := by
  simp [new, Block.new]

end Blocks

namespace HunkLine

def old? : HunkLine α → Option α
  | context line | delete line => some line
  | insert _ => none

def new? : HunkLine α → Option α
  | context line | insert line => some line
  | delete _ => none

end HunkLine

/-- The lines that are in the old list. -/
def oldLines (lines : List (HunkLine α)) : List α := lines.filterMap HunkLine.old?

/-- The lines that are in the new list. -/
def newLines (lines : List (HunkLine α)) : List α := lines.filterMap HunkLine.new?

@[simp] theorem oldLines_append (ls ls' : List (HunkLine α)) :
    oldLines (ls ++ ls') = oldLines ls ++ oldLines ls' := List.filterMap_append

@[simp] theorem newLines_append (ls ls' : List (HunkLine α)) :
    newLines (ls ++ ls') = newLines ls ++ newLines ls' := List.filterMap_append

@[simp] theorem oldLines_context (l : List α) : oldLines (l.map .context) = l := by
  simp [oldLines, HunkLine.old?, List.filterMap_map, Function.comp_def]

@[simp] theorem newLines_context (l : List α) : newLines (l.map .context) = l := by
  simp [newLines, HunkLine.new?, List.filterMap_map, Function.comp_def]

@[simp] theorem oldLines_change (b : Block α) : oldLines b.change = b.deleted := by
  simp [oldLines, Block.change, HunkLine.old?, List.filterMap_map, Function.comp_def]

@[simp] theorem newLines_change (b : Block α) : newLines b.change = b.inserted := by
  simp [newLines, Block.change, HunkLine.new?, List.filterMap_map, Function.comp_def]

/-! ## From a script to blocks -/

/-- Grouping a script into blocks keeps both of its sides. -/
theorem sides_blocksFrom (s : List (Edit α)) (b : Block α) :
    (blocksFrom b s).old = b.old ++ oldSide s ∧ (blocksFrom b s).new = b.new ++ newSide s := by
  fun_induction blocksFrom b s with
  | case1 b hempty | case2 b hempty => simp_all [Blocks.old, Blocks.new, Block.old, Block.new]
  | case3 b items s hempty ih => simp_all [Block.old, Block.new]
  | case4 b items s hchanged more ih => simp_all [more, Blocks.old, Blocks.new, Block.old, Block.new]
  | case5 b items s ih | case6 b items s ih => simp_all [Block.old, Block.new]

/-! ## From blocks to hunks -/

/-- The hunks lead from the old list to the new one. The lists are what is left of two longer ones
after `i` and after `j` items, from which the hunks count. -/
inductive Leads : Nat → Nat → List (Hunk α) → List α → List α → Prop
  | done {i j : Nat} {rest : List α} : Leads i j [] rest rest
  | hunk {i j : Nat} {h : Hunk α} {hs : List (Hunk α)} {kept old new : List α} :
      h.old = ⟨i + kept.length, (oldLines h.lines).length⟩ →
      h.new = ⟨j + kept.length, (newLines h.lines).length⟩ →
      (hs ≠ [] → contextLength ≤ h.old.length ∧ contextLength ≤ h.new.length) →
      Leads (h.old.before + h.old.length) (h.new.before + h.new.length) hs old new →
      Leads i j (h :: hs) (kept ++ (oldLines h.lines ++ old)) (kept ++ (newLines h.lines ++ new))

/-- The hunk counts its lines as they are. -/
structure OpenHunk.Counted (h : OpenHunk α) : Prop where
  old : h.old.length = (oldLines h.lines).length
  new : h.new.length = (newLines h.lines).length

namespace OpenHunk

variable {h : OpenHunk α} {b : Block α}

theorem Counted.add (hc : h.Counted) (b : Block α) : (h.add b).Counted := by
  constructor
  · simp [OpenHunk.add, hc.old, Nat.add_assoc]
  · simp [OpenHunk.add, hc.new, Nat.add_assoc]

theorem counted_start (i j : Nat) (b : Block α) : (start i j b).Counted := by
  constructor <;> simp only [start, oldLines_append, newLines_append, oldLines_context,
    newLines_context, oldLines_change, newLines_change, List.length_append]

theorem counted_close (hc : h.Counted) (after : List α) :
    (h.close after).old.length = (oldLines (h.close after).lines).length ∧
      (h.close after).new.length = (newLines (h.close after).lines).length := by
  constructor <;> simp only [close, oldLines_append, newLines_append, oldLines_context,
    newLines_context, List.length_append, hc.old, hc.new]

end OpenHunk

/-- A hunk is ended: its context leads on, and the kept lines behind the context are left out. -/
theorem Leads.close {h : OpenHunk α} (hc : h.Counted) {hs : List (Hunk α)} {i j : Nat}
    {kept after old new : List α} (hi : h.old.before = i + kept.length)
    (hj : h.new.before = j + kept.length) (hnext : hs ≠ [] → contextLength ≤ after.length)
    (hleads : Leads (h.oldEnd + (after.take contextLength).length)
      (h.newEnd + (after.take contextLength).length) hs (after.drop contextLength ++ old)
      (after.drop contextLength ++ new)) :
    Leads i j (h.close after :: hs) (kept ++ (oldLines h.lines ++ (after ++ old)))
      (kept ++ (newLines h.lines ++ (after ++ new))) := by
  obtain ⟨hold, hnew⟩ := OpenHunk.counted_close hc after
  have hlines : (h.close after).lines = h.lines ++ (after.take contextLength).map .context := rfl
  have hhunk : Leads i j (h.close after :: hs)
      (kept ++ (oldLines (h.close after).lines ++ (after.drop contextLength ++ old)))
      (kept ++ (newLines (h.close after).lines ++ (after.drop contextLength ++ new))) := by
    refine .hunk (by rw [← hi, ← hold]; rfl) (by rw [← hj, ← hnew]; rfl) (fun hne => ?_) ?_
    · have hlong := hnext hne
      simp [OpenHunk.close, List.length_take, hlong]
    · simpa only [OpenHunk.close, OpenHunk.oldEnd, OpenHunk.newEnd, Nat.add_assoc] using hleads
  have hafter : ∀ l : List α, after ++ l =
      after.take contextLength ++ (after.drop contextLength ++ l) := fun l => by
    rw [← List.append_assoc, List.take_append_drop]
  rw [hafter, hafter]
  simpa only [hlines, oldLines_append, newLines_append, oldLines_context, newLines_context,
    List.append_assoc] using hhunk

theorem leads_hunksFrom (rest : List α) (more : List (Block α)) (h : OpenHunk α)
    (hc : h.Counted) {i j : Nat} {kept : List α} (hi : h.old.before = i + kept.length)
    (hj : h.new.before = j + kept.length) :
    Leads i j (hunksFrom h rest more)
      (kept ++ (oldLines h.lines ++ Blocks.old ⟨more, rest⟩))
      (kept ++ (newLines h.lines ++ Blocks.new ⟨more, rest⟩)) := by
  fun_induction hunksFrom h rest more generalizing i j kept with
  | case1 h =>
    have hleads : Leads i j [h.close rest] (kept ++ (oldLines h.lines ++ (rest ++ [])))
        (kept ++ (newLines h.lines ++ (rest ++ []))) :=
      .close hc hi hj (fun hne => absurd rfl hne) .done
    simpa using hleads
  | case2 h b more hclose ih =>
    have hleads := ih (hc.add b) hi hj
    simpa [OpenHunk.add] using hleads
  | case3 h b more hfar ih =>
    rw [Blocks.old_cons, Blocks.new_cons]
    -- the next hunk has its own context before it, so what is left out lies in the middle
    have hlong : 2 * contextLength ≤ b.before.length := by
      rw [Block.isClose, decide_eq_true_eq] at hfar
      split at hfar <;> omega
    refine Leads.close hc hi hj (fun _ => by omega) ?_
    have hmiddle : b.before.drop contextLength =
        (b.before.drop contextLength).take (b.before.length - 2 * contextLength) ++
          b.before.drop (b.before.length - contextLength) := by
      have hplace : b.before.length - contextLength =
          contextLength + (b.before.length - 2 * contextLength) := by omega
      rw [hplace, ← List.drop_drop, List.take_append_drop]
    generalize hskipped : (b.before.drop contextLength).take
      (b.before.length - 2 * contextLength) = skipped at hmiddle
    have hlength : skipped.length = b.before.length - 2 * contextLength := by
      rw [← hskipped, List.length_take, List.length_drop]
      omega
    have hold : (OpenHunk.start h.oldEnd h.newEnd b).old.before =
        h.oldEnd + (b.before.take contextLength).length + skipped.length := by
      simp [OpenHunk.start]
      omega
    have hnew : (OpenHunk.start h.oldEnd h.newEnd b).new.before =
        h.newEnd + (b.before.take contextLength).length + skipped.length := by
      simp [OpenHunk.start]
      omega
    have hleads := ih (OpenHunk.counted_start _ _ b) hold hnew
    rw [hmiddle]
    simpa [OpenHunk.start, ← List.map_drop] using hleads

/-- The hunks of some blocks lead from one of their sides to the other. -/
theorem leads_blocks : ∀ s : Blocks α, Leads 0 0 s.hunks s.old s.new
  | ⟨[], rest⟩ => .done
  | ⟨b :: more, rest⟩ => by
    have hbefore : ∀ l : List α, b.before ++ l =
        b.before.take (b.before.length - contextLength) ++
          (b.before.drop (b.before.length - contextLength) ++ l) := fun l => by
      rw [← List.append_assoc, List.take_append_drop]
    have hold : (OpenHunk.start 0 0 b).old.before =
        0 + (b.before.take (b.before.length - contextLength)).length := by
      simp [OpenHunk.start]
      omega
    have hnew : (OpenHunk.start 0 0 b).new.before =
        0 + (b.before.take (b.before.length - contextLength)).length := by
      simp [OpenHunk.start]
      omega
    have hleads := leads_hunksFrom rest more _ (OpenHunk.counted_start 0 0 b) hold hnew
    rw [Blocks.old_cons, Blocks.new_cons, hbefore, hbefore, Blocks.hunks]
    simpa [OpenHunk.start, ← List.map_drop] using hleads

namespace Leads

variable {i j : Nat} {hs : List (Hunk α)} {old new : List α}

/-- A hunk stands on both sides where it says. -/
theorem parts (hleads : Leads i j hs old new) {h : Hunk α} (hmem : h ∈ hs) :
    (∃ x y, old = x ++ (oldLines h.lines ++ y) ∧
      h.old = ⟨i + x.length, (oldLines h.lines).length⟩) ∧
    (∃ x y, new = x ++ (newLines h.lines ++ y) ∧
      h.new = ⟨j + x.length, (newLines h.lines).length⟩) := by
  induction hleads with
  | done => cases hmem
  | @hunk i j first hs kept old new hold hnew _ _ ih =>
    rcases List.mem_cons.mp hmem with rfl | hmem
    · exact ⟨⟨kept, old, rfl, hold⟩, ⟨kept, new, rfl, hnew⟩⟩
    · obtain ⟨⟨x, y, rfl, hx⟩, ⟨x', y', rfl, hx'⟩⟩ := ih hmem
      refine ⟨⟨kept ++ (oldLines first.lines ++ x), y, by simp, ?_⟩,
        ⟨kept ++ (newLines first.lines ++ x'), y', by simp, ?_⟩⟩
      · rw [hx, hold]
        simp [Nat.add_assoc]
      · rw [hx', hnew]
        simp [Nat.add_assoc]

/-- Hunks do not overlap, and all but the last one end with context. -/
theorem pairwise (hleads : Leads i j hs old new) : hs.Pairwise fun h h' =>
    (h.old.before + h.old.length ≤ h'.old.before ∧ h.new.before + h.new.length ≤ h'.new.before) ∧
      contextLength ≤ h.old.length ∧ contextLength ≤ h.new.length := by
  induction hleads with
  | done => exact .nil
  | @hunk i j first hs kept old new hold hnew hnext hrest ih =>
    refine .cons (fun h hmem => ?_) ih
    obtain ⟨⟨x, _, _, hx⟩, ⟨x', _, _, hx'⟩⟩ := hrest.parts hmem
    refine ⟨?_, hnext (List.ne_nil_of_mem hmem)⟩
    rw [hx, hx']
    exact ⟨Nat.le_add_right _ _, Nat.le_add_right _ _⟩

end Leads

theorem Leads.eq_of_nil {i j : Nat} {old new : List α} (h : Leads i j [] old new) : old = new := by
  cases h
  rfl

section Compare

variable [DecidableEq α]

/-- The hunks of two lists lead from the one to the other. -/
theorem leads_hunks (old new : List α) : Leads 0 0 (hunks old new) old new := by
  obtain ⟨hold, hnew⟩ := sides_blocksFrom (compact (compare old new)) ⟨[], [], []⟩
  have hcompact := sides_compact (compare old new)
  have hcompare := sides_compare old new
  rw [hcompact.1, hcompare.1] at hold
  rw [hcompact.2, hcompare.2] at hnew
  have hleads := leads_blocks (Blocks.ofScript (compact (compare old new)))
  rwa [Blocks.ofScript, hold, hnew] at hleads

/-- There is no hunk exactly if there is no difference. -/
theorem hunks_eq_nil_iff {old new : List α} : hunks old new = [] ↔ old = new := by
  constructor
  · intro h
    have hleads := leads_hunks old new
    rw [h] at hleads
    exact hleads.eq_of_nil
  · rintro rfl
    rw [hunks, compare_self, compact_keep?]
    cases old <;> rfl

end Compare

end MarkerSweep.Diff
