import MarkerSweep.Output.Diff
import MarkerSweep.Proofs.Diff.Hunks
import MarkerSweep.Proofs.Text.Lines
/-!
# A diff that is shown is a patch

What a reader of a diff has is lines: a header with four numbers, and below it lines with a sign in
front. `PatchHunk` is just that, and `applyPatch` does with it what the format says, without a look at
how it was made: it keeps lines up to the place that the header names, compares what is there with the
lines signed by a blank or a minus, and puts those signed by a blank or a plus in their place. A diff
that is shown without colours is such a patch from the one text to the other (`isPatch_diff`).

Lines lose their line feeds when they are shown, so the patch is one of lines without line feeds.
-/

set_option autoImplicit false

namespace MarkerSweep.Diff

/-! ## Patches -/

/-- A hunk as it is written: the numbers of its header, and the lines below it, their signs in front. -/
structure PatchHunk where
  oldStart : Nat
  oldLength : Nat
  newStart : Nat
  newLength : Nat
  body : List (List Char)
deriving DecidableEq

/-- How many lines come before a range. An empty range is named by the line before it, and any other
one by its first line. -/
def linesBefore (start length : Nat) : Nat := if length = 0 then start else start - 1

/-- What stands behind the sign in the lines that have one of some signs. -/
def signedBy (signs : List Char) (body : List (List Char)) : List (List Char) :=
  body.filterMap fun
    | sign :: line => if sign ∈ signs then some line else none
    | [] => none

namespace PatchHunk

def header (h : PatchHunk) : List Char :=
  ("@@ -" ++ toString h.oldStart ++ "," ++ toString h.oldLength ++ " +" ++ toString h.newStart ++ "," ++
    toString h.newLength ++ " @@").toList

/-- The hunk, line by line. -/
def lines (h : PatchHunk) : List (List Char) := h.header :: h.body

/-- The lines that the hunk takes out. -/
def preimage (h : PatchHunk) : List (List Char) := signedBy [' ', '-'] h.body

/-- The lines that the hunk puts in their place. -/
def postimage (h : PatchHunk) : List (List Char) := signedBy [' ', '+'] h.body

def oldBefore (h : PatchHunk) : Nat := linesBefore h.oldStart h.oldLength

def newBefore (h : PatchHunk) : Nat := linesBefore h.newStart h.newLength

/-- Every line has a sign, and the header counts them right. -/
structure WellFormed (h : PatchHunk) : Prop where
  signed : ∀ line ∈ h.body, ∃ sign text, line = sign :: text ∧ sign ∈ [' ', '-', '+']
  oldLength : h.preimage.length = h.oldLength
  newLength : h.postimage.length = h.newLength
  oldStart : h.oldLength ≠ 0 → h.oldStart ≠ 0
  newStart : h.newLength ≠ 0 → h.newStart ≠ 0

/-- The hunk ends before the other one starts, on both sides. -/
structure Precedes (h h' : PatchHunk) : Prop where
  oldStart : h.oldStart < h'.oldStart
  newStart : h.newStart < h'.newStart
  old : h.oldBefore + h.oldLength ≤ h'.oldBefore
  new : h.newBefore + h.newLength ≤ h'.newBefore

end PatchHunk

/-- Applies hunks to what is left of a text after some lines. A hunk applies only to the lines that it
takes out, and only behind the hunk before it. -/
def applyFrom (seen : Nat) : List PatchHunk → List (List Char) → Option (List (List Char))
  | [], rest => some rest
  | h :: hs, rest =>
    let kept := h.oldBefore - seen
    if seen ≤ h.oldBefore ∧ kept ≤ rest.length ∧ (rest.drop kept).take h.oldLength = h.preimage then
      (applyFrom (h.oldBefore + h.oldLength) hs (rest.drop (kept + h.oldLength))).map
        fun more => rest.take kept ++ (h.postimage ++ more)
    else none

/-- A hunk applies where its lines stand. -/
theorem applyFrom_cons {seen : Nat} {h : PatchHunk} {kept : List (List Char)}
    (hbefore : h.oldBefore = seen + kept.length) (hlength : h.oldLength = h.preimage.length)
    (hs : List PatchHunk) (rest : List (List Char)) :
    applyFrom seen (h :: hs) (kept ++ (h.preimage ++ rest)) =
      (applyFrom (h.oldBefore + h.oldLength) hs rest).map
        fun more => kept ++ (h.postimage ++ more) := by
  have hkept : h.oldBefore - seen = kept.length := by omega
  have hrest : (kept ++ (h.preimage ++ rest)).drop (kept.length + h.oldLength) = rest := by
    rw [← List.drop_drop, List.drop_left, hlength, List.drop_left]
  rw [applyFrom]
  simp only [hkept, hrest, List.drop_left, List.take_left]
  rw [if_pos]
  refine ⟨by omega, by simp, by rw [hlength, List.take_left]⟩

def applyPatch (hs : List PatchHunk) (lines : List (List Char)) : Option (List (List Char)) :=
  applyFrom 0 hs lines

/-- A hunk that is empty on its old side stands behind the line that names it. -/
example : applyPatch [⟨1, 0, 2, 1, ["+b".toList]⟩] ["a".toList, "c".toList] =
    some ["a".toList, "b".toList, "c".toList] := by
  decide

/-- The hunks are a patch from some lines to others. -/
structure IsPatch (hs : List PatchHunk) (old new : List (List Char)) : Prop where
  wellFormed : ∀ h ∈ hs, h.WellFormed
  ordered : hs.Pairwise PatchHunk.Precedes
  applies : applyPatch hs old = some new
  /-- What a hunk puts in is found where it says. -/
  placed : ∀ h ∈ hs, (new.drop h.newBefore).take h.newLength = h.postimage

/-- The lines of a text without their line feeds. -/
def bareLines (text : String) : List (List Char) := (Text.lines text.toList).map Text.bare

/-! ## Hunks as they are shown -/

namespace HunkLine

def sign : HunkLine (List Char) → Char
  | context _ => ' '
  | delete _ => '-'
  | insert _ => '+'

def text : HunkLine (List Char) → List Char
  | context line | delete line | insert line => line

/-- The line as it is shown. -/
def shown (l : HunkLine (List Char)) : List Char := l.sign :: Text.bare l.text

end HunkLine

namespace Hunk

/-- The hunk as it is shown. -/
def shown (h : Hunk (List Char)) : PatchHunk :=
  ⟨h.old.start, h.old.length, h.new.start, h.new.length, h.lines.map HunkLine.shown⟩

end Hunk

theorem linesBefore_start (e : Extent) : linesBefore e.start e.length = e.before := by
  unfold linesBefore Extent.start
  split <;> simp

theorem start_ne_zero {e : Extent} (h : e.length ≠ 0) : e.start ≠ 0 := by
  simp [Extent.start, h]

/-- Ranges in order have starts in order, if they are long enough. -/
theorem start_lt_start {e e' : Extent} (hlong : contextLength ≤ e.length)
    (h : e.before + e.length ≤ e'.before) : e.start < e'.start := by
  unfold Extent.start
  unfold contextLength at hlong
  split <;> split <;> omega

theorem oldBefore_shown (h : Hunk (List Char)) : h.shown.oldBefore = h.old.before :=
  linesBefore_start h.old

theorem newBefore_shown (h : Hunk (List Char)) : h.shown.newBefore = h.new.before :=
  linesBefore_start h.new

theorem preimage_shown (h : Hunk (List Char)) :
    h.shown.preimage = (oldLines h.lines).map Text.bare := by
  simp only [PatchHunk.preimage, Hunk.shown, signedBy, oldLines, List.filterMap_map,
    List.map_filterMap]
  congr 1
  funext l
  cases l <;> rfl

theorem postimage_shown (h : Hunk (List Char)) :
    h.shown.postimage = (newLines h.lines).map Text.bare := by
  simp only [PatchHunk.postimage, Hunk.shown, signedBy, newLines, List.filterMap_map,
    List.map_filterMap]
  congr 1
  funext l
  cases l <;> rfl

namespace Leads

variable {i j : Nat} {hs : List (Hunk (List Char))} {old new : List (List Char)}

theorem wellFormed_shown (hleads : Leads i j hs old new) {h : Hunk (List Char)} (hmem : h ∈ hs) :
    h.shown.WellFormed := by
  obtain ⟨⟨x, y, -, hold⟩, ⟨x', y', -, hnew⟩⟩ := hleads.parts hmem
  constructor
  · intro line hline
    obtain ⟨l, -, rfl⟩ := List.mem_map.mp hline
    exact ⟨l.sign, Text.bare l.text, rfl, by cases l <;> simp [HunkLine.sign]⟩
  · rw [preimage_shown, List.length_map, Hunk.shown, hold]
  · rw [postimage_shown, List.length_map, Hunk.shown, hnew]
  · exact start_ne_zero
  · exact start_ne_zero

theorem ordered_shown (hleads : Leads i j hs old new) :
    (hs.map Hunk.shown).Pairwise PatchHunk.Precedes := by
  rw [List.pairwise_map]
  refine hleads.pairwise.imp fun {h h'} hprecedes => ?_
  obtain ⟨⟨hold, hnew⟩, hlongOld, hlongNew⟩ := hprecedes
  refine ⟨start_lt_start hlongOld hold, start_lt_start hlongNew hnew, ?_, ?_⟩
  · rwa [oldBefore_shown, oldBefore_shown]
  · rwa [newBefore_shown, newBefore_shown]

theorem applyFrom_shown (hleads : Leads i j hs old new) :
    applyFrom i (hs.map Hunk.shown) (old.map Text.bare) = some (new.map Text.bare) := by
  induction hleads with
  | done => rfl
  | @hunk i j h hs kept old new hold hnew _ _ ih =>
    have hbefore : h.shown.oldBefore = i + (kept.map Text.bare).length := by
      rw [oldBefore_shown, hold, List.length_map]
    have hlength : h.shown.oldLength = h.shown.preimage.length := by
      rw [preimage_shown, List.length_map, Hunk.shown, hold]
    have hend : h.shown.oldBefore + h.shown.oldLength = h.old.before + h.old.length := by
      rw [oldBefore_shown, Hunk.shown]
    simp only [List.map_cons, List.map_append, ← preimage_shown, ← postimage_shown]
    rw [applyFrom_cons hbefore hlength, hend, ih, Option.map_some]

theorem placed_shown (hleads : Leads i j hs old new) {h : Hunk (List Char)} (hmem : h ∈ hs) :
    ((new.map Text.bare).drop (h.shown.newBefore - j)).take h.shown.newLength =
      h.shown.postimage := by
  obtain ⟨-, x, y, rfl, hnew⟩ := hleads.parts hmem
  have hbefore : h.shown.newBefore - j = (x.map Text.bare).length := by
    rw [newBefore_shown, hnew, List.length_map, Nat.add_sub_cancel_left]
  have hlength : h.shown.newLength = h.shown.postimage.length := by
    rw [postimage_shown, List.length_map, Hunk.shown, hnew]
  rw [hbefore, hlength, List.map_append, List.map_append, List.drop_left, ← postimage_shown,
    List.take_left]

/-- Hunks that lead from some lines to others are shown as a patch of these lines without their line
feeds. -/
theorem isPatch (hleads : Leads 0 0 hs old new) :
    IsPatch (hs.map Hunk.shown) (old.map Text.bare) (new.map Text.bare) where
  wellFormed := List.forall_mem_map.mpr fun _ hmem => hleads.wellFormed_shown hmem
  ordered := hleads.ordered_shown
  applies := hleads.applyFrom_shown
  placed := List.forall_mem_map.mpr fun _ hmem => hleads.placed_shown hmem

/-- Lines of hunks are lines of one of the two sides. -/
theorem mem_of_mem_lines (hleads : Leads i j hs old new) {h : Hunk (List Char)} (hmem : h ∈ hs)
    {l : HunkLine (List Char)} (hl : l ∈ h.lines) : l.text ∈ old ∨ l.text ∈ new := by
  obtain ⟨⟨x, y, rfl, -⟩, ⟨x', y', rfl, -⟩⟩ := hleads.parts hmem
  cases l with
  | context text | delete text =>
    have htext : text ∈ oldLines h.lines := List.mem_filterMap.mpr ⟨_, hl, rfl⟩
    simp [HunkLine.text, htext]
  | insert text =>
    have htext : text ∈ newLines h.lines := List.mem_filterMap.mpr ⟨_, hl, rfl⟩
    simp [HunkLine.text, htext]

end Leads

/-! ## The text that is shown -/

/-- Lines that are written one after another are read as they were. -/
theorem lines_flatMap_append_lineFeed {ls : List (List Char)} (h : ∀ l ∈ ls, '\n' ∉ l) :
    Text.lines (ls.flatMap (· ++ ['\n'])) = ls.map (· ++ ['\n']) := by
  induction ls with
  | nil => rfl
  | cons l ls ih =>
    obtain ⟨hl, hls⟩ := List.forall_mem_cons.mp h
    rw [List.flatMap_cons, List.append_assoc, List.singleton_append, Text.lines_append_lineFeed hl,
      ih hls, List.map_cons]

theorem not_mem_toDigits {c : Char} (hc : c.isDigit = false) (n : Nat) : c ∉ Nat.toDigits 10 n := by
  intro h
  have hdigit : c.isDigit = true := Nat.isDigit_of_mem_toDigits (by decide) (by decide) h
  simp [hc] at hdigit

theorem lineFeed_not_mem_header (h : PatchHunk) : '\n' ∉ h.header := by
  have hdigits : ∀ n, '\n' ∉ Nat.toDigits 10 n := not_mem_toDigits rfl
  simp [PatchHunk.header, hdigits]

theorem hunkLine_uncolored (t : Theme) (l : HunkLine (List Char)) :
    (Output.hunkLine t false l).toList = l.shown ++ ['\n'] := by
  cases l <;> simp [Output.hunkLine, Output.signed, Theme.line_uncolored, HunkLine.shown, HunkLine.sign,
    HunkLine.text]

theorem hunk_uncolored (t : Theme) (h : Hunk (List Char)) :
    (Output.hunk t false h).toList = h.shown.lines.flatMap (· ++ ['\n']) := by
  have hheader : (Output.hunkHeader h).toList = h.shown.header := by
    simp [Output.hunkHeader, Output.extent, PatchHunk.header, Hunk.shown]
  rw [Output.hunk, Theme.line_uncolored, String.toList_append, String.toList_append, hheader,
    String.toList_join, List.flatMap_map, PatchHunk.lines, List.flatMap_cons, Hunk.shown,
    List.flatMap_map]
  simp only [hunkLine_uncolored]
  rfl

/-- The lines of a diff, the two at its head included. -/
def diffLines (label : String) (hs : List PatchHunk) : List (List Char) :=
  ("--- " ++ label).toList :: ("+++ " ++ label).toList :: hs.flatMap PatchHunk.lines

theorem diff_uncolored (t : Theme) (label old new : String) (hne : ofTexts old new ≠ []) :
    (Output.diff t false label old new).toList =
      (diffLines label ((ofTexts old new).map Hunk.shown)).flatMap (· ++ ['\n']) := by
  have hhunks : (String.join ((ofTexts old new).map (Output.hunk t false))).toList =
      ((ofTexts old new).map Hunk.shown).flatMap fun h => h.lines.flatMap (· ++ ['\n']) := by
    rw [String.toList_join, List.flatMap_map, List.flatMap_map]
    simp only [hunk_uncolored]
  rw [Output.diff]
  split
  · rename_i h
    exact absurd h hne
  · simp only [Theme.line_uncolored, String.toList_append, hhunks, diffLines, List.flatMap_cons,
      List.flatMap_assoc, List.append_assoc]
    rfl

theorem lineFeed_not_mem_diffLines {label : String} (hlabel : '\n' ∉ label.toList)
    {old new : String} {line : List Char}
    (hline : line ∈ diffLines label ((ofTexts old new).map Hunk.shown)) : '\n' ∉ line := by
  simp only [diffLines, List.mem_cons, List.mem_flatMap, List.mem_map, exists_exists_and_eq_and] at hline
  rcases hline with rfl | rfl | ⟨h, hmem, hline⟩
  · simpa using hlabel
  · simpa using hlabel
  rw [PatchHunk.lines, List.mem_cons] at hline
  rcases hline with rfl | hline
  · exact lineFeed_not_mem_header _
  · obtain ⟨l, hl, rfl⟩ := List.mem_map.mp hline
    have htext := (leads_hunks (Text.lines old.toList) (Text.lines new.toList)).mem_of_mem_lines hmem hl
    have hbare : '\n' ∉ Text.bare l.text := by
      rcases htext with htext | htext
      · exact (Text.line_eq_bare htext).1
      · exact (Text.line_eq_bare htext).1
    have hsign : '\n' ≠ l.sign := by cases l <;> simp [HunkLine.sign]
    simpa [HunkLine.shown, hsign] using hbare

theorem ofTexts_eq_nil_iff {old new : String} : ofTexts old new = [] ↔ old = new := by
  rw [ofTexts, hunks_eq_nil_iff]
  constructor
  · intro h
    rw [← String.toList_inj, ← Text.flatten_lines old.toList, h, Text.flatten_lines]
  · rintro rfl
    rfl

theorem diff_eq_empty_iff (t : Theme) (label old new : String) :
    Output.diff t false label old new = "" ↔ old = new := by
  have hnil : ofTexts old new = [] ↔ old = new := ofTexts_eq_nil_iff
  rw [← hnil]
  constructor
  · intro h
    by_contra hne
    have htext := diff_uncolored t label old new hne
    rw [h, diffLines] at htext
    simp at htext
  · intro h
    rw [Output.diff, h]

/-- Without colours, nothing is shown of equal texts, and what is shown of others is, below the two
lines at its head, a patch from the lines of the old text to those of the new one. -/
theorem isPatch_diff (t : Theme) (label old new : String) (hlabel : '\n' ∉ label.toList) :
    (Output.diff t false label old new = "" ↔ old = new) ∧
      (old ≠ new → ∃ hs, hs ≠ [] ∧
        Text.lines (Output.diff t false label old new).toList =
          (diffLines label hs).map (· ++ ['\n']) ∧
        IsPatch hs (bareLines old) (bareLines new)) := by
  refine ⟨diff_eq_empty_iff t label old new, fun hdiffer => ?_⟩
  have hne : ofTexts old new ≠ [] := mt ofTexts_eq_nil_iff.mp hdiffer
  refine ⟨(ofTexts old new).map Hunk.shown, by simpa using hne, ?_, ?_⟩
  · rw [diff_uncolored t label old new hne, lines_flatMap_append_lineFeed]
    exact fun line hline => lineFeed_not_mem_diffLines hlabel hline
  · exact (leads_hunks (Text.lines old.toList) (Text.lines new.toList)).isPatch

/-- A line that only loses its line feed is taken out and put in again. -/
theorem isPatch_diff_lost_lineFeed : '\n' ∉ "Report.tsx".toList ∧ "a\nb\n" ≠ "a\nb" ∧
    (Output.diff .builtin false "Report.tsx" "a\nb\n" "a\nb" = "" ↔ "a\nb\n" = "a\nb") ∧
    ∃ hs, hs ≠ [] ∧
      Text.lines (Output.diff .builtin false "Report.tsx" "a\nb\n" "a\nb").toList =
        (diffLines "Report.tsx" hs).map (· ++ ['\n']) ∧
      IsPatch hs (bareLines "a\nb\n") (bareLines "a\nb") := by
  have hlabel : '\n' ∉ "Report.tsx".toList := by decide
  have hdiffer : "a\nb\n" ≠ "a\nb" := by decide
  obtain ⟨hempty, hpatch⟩ := isPatch_diff .builtin "Report.tsx" "a\nb\n" "a\nb" hlabel
  exact ⟨hlabel, hdiffer, hempty, hpatch hdiffer⟩

example : Output.diff .builtin false "Report.tsx" "a\nb\n" "a\nb" =
    "--- Report.tsx\n+++ Report.tsx\n@@ -1,2 +1,2 @@\n a\n-b\n+b\n" := by
  decide +kernel

end MarkerSweep.Diff
