import MarkerSweep.Proofs.Clean.MarkerLines
/-!
# Cleaning twice

Cleaning a cleaned text again may change it. Blank lines and the pieces of other markers keep the
pieces of a broken marker apart only as long as they are there: when a rule has run, a later rule
may take away the line that stood between a `//` and a report below it, and then the two make a
marker that the second cleaning removes. `BrokenMarker` describes such a rest, and `clean_twice_iff`
says that nothing else lets the second cleaning do anything: it is idle exactly if the first one
leaves no broken marker.
-/

set_option autoImplicit false

namespace MarkerSweep

open Pattern Text

/-- The pieces of a marker, spread over two or more lines with nothing but blank
lines between them. -/
def BrokenMarker (k : Marker) (text : List Char) : Prop :=
  ∃ block, 2 ≤ block.length ∧ block <:+: nonblankLines text ∧ SpreadOver k.pieces block

/-- In a cleaned text, every marker is a broken one. -/
theorem brokenMarker_iff {k : Marker} {text : List Char}
    (h : ∀ line ∈ text.splitOn '\n', ¬ Spaced k.pieces line) :
    BrokenMarker k text ↔ ∃ block, block <:+: nonblankLines text ∧ SpreadOver k.pieces block := by
  refine ⟨fun ⟨block, _, hblock, hspread⟩ => ⟨block, hblock, hspread⟩,
    fun ⟨block, hblock, hspread⟩ => ?_⟩
  refine ⟨block, ?_, hblock, hspread⟩
  match block with
  | [] => exact absurd (spreadOver_nil_iff.mp hspread) k.pieces_ne_nil
  | [line] =>
    have hline : line ∈ nonblankLines text := hblock.subset (List.mem_singleton_self line)
    exact absurd (spreadOver_singleton_iff.mp hspread).2 (h line (List.mem_of_mem_filter hline))
  | _ :: _ :: _ => simp

/-- Of no built-in marker a broken one is left. -/
def Settled (text : List Char) : Prop := ∀ k ∈ MarkerRule.builtin, ¬ BrokenMarker k.marker text

/-- On a text without three line feeds in a row the stages leave the text as it is exactly if the
first of them have nothing to remove, and then there is nothing to report. -/
theorem stages_idle {t u v : List Char} {hits : Summary} {count : Nat}
    (h : Cleared MarkerRule.builtin t u hits) (h' : Collapses u v count)
    (ht : ¬ threeBreaks <:+: t) :
    (v = t ↔ hits = []) ∧ (hits = [] → count = 0) := by
  have hcount : hits = [] → count = 0 := fun hhits => h'.idle (by rwa [h.unchanged hhits])
  refine ⟨⟨fun hsame => ?_, fun hhits => ?_⟩, hcount⟩
  · -- whatever is removed makes the text shorter
    have hu := h.shortens
    have hv := h'.shortens
    rw [hsame] at hv
    exact List.length_eq_zero_iff.mp (by omega)
  · rw [h'.unchanged (hcount hhits), h.unchanged hhits]

/-- Cleaning a cleaned text does nothing and reports nothing exactly if no broken marker is left in
it. -/
theorem clean_twice_iff (text : String) : ∃ first second,
    clean text = .ok first ∧ clean first.text = .ok second ∧
      (second.text = first.text ↔ Settled first.text.toList) ∧
      (second.changed = false ↔ Settled first.text.toList) ∧
      (second.summary = [] ↔ Settled first.text.toList) := by
  obtain ⟨u, out, hits, count, hcleared, hcollapses, hclean⟩ := exists_stages text
  obtain ⟨u', out', hits', count', hcleared', hcollapses', hclean'⟩ := exists_stages out
  refine ⟨_, _, hclean, hclean', ?_⟩
  have hsettled : Settled out.toList ↔ hits' = [] := by
    rw [hcleared'.idle_iff]
    refine forall₂_congr fun k hk => ?_
    rw [brokenMarker_iff fun line => not_spaced_of_cleared hcleared hcollapses hk]
    simp only [not_exists, not_and]
  obtain ⟨hsame, hcount⟩ := stages_idle hcleared' hcollapses' hcollapses.not_threeBreaks
  rw [String.toList_inj] at hsame
  simp only [hsettled]
  refine ⟨hsame, ?_, ?_⟩
  · rw [bne_eq_false_iff_eq, hsame]
  · refine ⟨fun hsummary => (List.append_eq_nil_iff.mp hsummary).1, fun hhits => ?_⟩
    simp [hhits, hcount hhits]

/-- The first cleaning leaves a `//` and a report that belonged to two markers, and the second takes
them for one. -/
example : (builtinCompiled.clean "//\n//\nMF_REPORT_A\nMF_REPORT_B").1 = "//\nMF_REPORT_B" ∧
    (builtinCompiled.clean "//\nMF_REPORT_B").1 = "" := by
  decide +kernel

end MarkerSweep
