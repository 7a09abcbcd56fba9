import MarkerSweep.Proofs.Clean.Stages
/-!
# No marker line is left

A line that is a whole marker does not survive, wherever it stands. The rule that covers it takes it
away, or an earlier rule does; and no later rule can bring such a line about, since they only drop
lines.
-/

set_option autoImplicit false

namespace MarkerSweep

open Pattern Text

namespace RuleTable

/-- The built-in rules that remove markers. -/
def markerRules : List Rule :=
  [lineCommentMarker, blockCommentMarker, dunderMarker, debugWarnStatement, eslintNoConsole]

theorem mem_markerRules {r : Rule} (h : r ∈ markerRules) : ∃ k ∈ MarkerRule.builtin, k.rule = r :=
  List.mem_map.mp h

end RuleTable

/-- Collapsing blank lines brings no marker back. -/
theorem not_spaced_of_cleared {ks : List MarkerRule} {t u v line : List Char} {hits : Summary}
    {count : Nat} (h : Cleared ks t u hits) (h' : Collapses u v count) {k : MarkerRule}
    (hk : k ∈ ks) (hline : line ∈ v.splitOn '\n') : ¬ Spaced k.marker.pieces line := by
  intro hspaced
  have hne := hspaced.ne_nil k.marker.pieces_ne_nil
  refine h.gone k hk line ?_ hspaced
  rw [nonemptyLines, ← h'.keeps _ rfl]
  exact List.mem_filter.mpr ⟨hline, by simpa using hne⟩

/-- No line of a cleaned text is covered by the pattern of a marker rule. -/
theorem clean_leaves_no_marker_line (text : String) : ∃ o, clean text = .ok o ∧
    ∀ r ∈ RuleTable.markerRules, ∀ line ∈ o.text.toList.splitOn '\n',
      ¬ r.withoutBreak.Covers line := by
  obtain ⟨u, out, hits, count, hcleared, hcollapses, hclean⟩ := exists_stages text
  refine ⟨_, hclean, fun r hr line hline => ?_⟩
  obtain ⟨k, hk, rfl⟩ := RuleTable.mem_markerRules hr
  rw [k.covers_withoutBreak_iff (exists_of_mem_splitOn hline).1]
  exact not_spaced_of_cleared hcleared hcollapses hk hline

end MarkerSweep
