import MarkerSweep.Proofs.Marker.Removal
import MarkerSweep.Proofs.Marker.Words
import MarkerSweep.Proofs.Rule.Seam
/-!
# Lines that no marker reaches over

A match fills its lines, so a line that no part of the marker fills is foreign to it: every match
lies before the line or behind it (`Marker.Foreign.one_side`). That is all it takes. A match cannot
get past a foreign line from above and cannot start with one below, so between two of them there is
a seam (`Marker.Foreign.seam`), and removing the matches leaves both lines where they are.

A code line is foreign to all the built-in markers, since every part of a marker begins with one of
a few words. The test looks only at how the line begins; that is more than is needed, because a line
such as `// a` is foreign as well.
-/

set_option autoImplicit false

namespace MarkerSweep

open Pattern Text

/-- A cut that is made where a line starts or ends is not inside of a line. -/
theorem cut_outside_line {b : Option Char} {line x v g t : List Char} (hline : '\n' ∉ line)
    (hsplit : x ++ (line ++ v) = g ++ t) (hcut : Boundary (lastOr b g) t) :
    (∃ u, x = g ++ u ∧ t = u ++ (line ++ v)) ∨ ∃ w, g = x ++ (line ++ w) ∧ v = w ++ t := by
  rcases List.append_eq_append_iff.mp hsplit with ⟨u, rfl, hu⟩ | ⟨u, hx, ht⟩
  · rcases List.append_eq_append_iff.mp hu with ⟨w, rfl, hv⟩ | ⟨w, rfl, rfl⟩
    · exact .inr ⟨w, rfl, hv⟩
    · cases u with
      | nil => exact .inl ⟨[], by simp, by simp⟩
      | cons c u =>
        cases w with
        | nil => exact .inr ⟨[], by simp, by simp⟩
        | cons d w =>
          -- the cut is between two characters of the line, and neither is a line feed
          exfalso
          rcases hcut with hstart | hend
          · rw [lastOr_append] at hstart
            obtain ⟨u', hu'⟩ := exists_concat_of_atLineStart (List.cons_ne_nil c u) hstart
            rw [hu'] at hline
            simp at hline
          · rw [List.cons_append, atLineEnd_cons] at hend
            simp [hend] at hline
  · exact .inl ⟨u, hx, ht⟩

namespace Marker

/-- No part of the marker, and no blanks alone, make up the line. -/
structure Foreign (k : Marker) (line : List Char) : Prop where
  oneLine : '\n' ∉ line
  not_spaced : ∀ Qs, Qs <:+: k.pieces → ¬ Spaced Qs line

namespace Foreign

variable {k : Marker} {b : Option Char} {line x v g m r s last : List Char} {cuts : List Cut}

theorem ne_nil (hf : k.Foreign line) : line ≠ [] := by
  rintro rfl
  exact hf.not_spaced [] List.nil_infix (.blank blank_nil)

theorem not_atLineStart (hf : k.Foreign line) : ¬ AtLineStart (lastOr b line) := by
  intro h
  obtain ⟨l, rfl⟩ := exists_concat_of_atLineStart hf.ne_nil h
  have := hf.oneLine
  simp at this

/-- The marker is not spread over lines with a foreign one among them. -/
theorem not_spaced_around (hf : k.Foreign line) {u w : List Char} (hu : AtLineStart (lastOr b u))
    (hw : AtLineEnd w) : ¬ Spaced k.pieces (u ++ (line ++ w)) := by
  intro h
  have hmem : line ∈ nonemptyLines (u ++ (line ++ w)) := by
    have hafter : Boundary (lastOr none line) w := .inr hw
    rw [nonemptyLines_append (.inl hu), nonemptyLines_append hafter, nonemptyLines,
      linesWhere_line hf.oneLine]
    simp [hf.ne_nil]
  obtain ⟨Qs, hQs, hl⟩ := exists_spaced_of_mem_splitOn h (List.mem_filter.mp hmem).1
  exact hf.not_spaced Qs hQs hl

/-- A match lies on one side of a foreign line. -/
theorem one_side (hf : k.Foreign line) (hx : AtLineStart (lastOr b x)) (hv : AtLineEnd v)
    (hsplit : x ++ (line ++ v) = g ++ (m ++ r)) (ht : k.expr.Takes (lastOr b g) m r) :
    (∃ x', x = g ++ (m ++ x') ∧ r = x' ++ (line ++ v)) ∨
      ∃ v', v' ≠ [] ∧ g = x ++ (line ++ v') ∧ v = v' ++ (m ++ r) := by
  obtain ⟨hstart, hm, hend⟩ := spaced_of_takes ht
  rcases cut_outside_line hf.oneLine hsplit (.inl hstart) with ⟨u, rfl, hmr⟩ | ⟨w, rfl, hvw⟩
  · left
    rw [lastOr_append] at hx
    rcases cut_outside_line hf.oneLine hmr.symm hend with ⟨u', rfl, hr⟩ | ⟨w, rfl, rfl⟩
    · exact ⟨u', rfl, hr⟩
    · -- the match would hold the line
      refine absurd hm (hf.not_spaced_around hx ?_)
      cases w with
      | nil => exact atLineEnd_nil
      | cons c w => exact hv
  · refine .inr ⟨w, ?_, rfl, hvw⟩
    rintro rfl
    rw [List.append_nil, lastOr_append] at hstart
    exact hf.not_atLineStart hstart

/-- No match gets past the line feed after a foreign line. -/
theorem fenced (hf : k.Foreign line) (hx : AtLineStart (lastOr b x)) (y : List Char) :
    Fenced k.expr b (x ++ line) '\n' y := by
  intro x₁ x₂ hsplit q hq
  obtain ⟨m, r, hrest, rfl, ht⟩ := Expr.takes_of_mem_ends hq
  have htext : x ++ (line ++ '\n' :: y) = x₁ ++ (m ++ r) := by
    rw [← hrest, ← List.append_assoc, ← List.append_assoc, hsplit]
  rcases hf.one_side hx (by simp) htext ht with ⟨x', -, rfl⟩ | ⟨v', hne, rfl, -⟩
  · simp only [List.length_append, List.length_cons]
    omega
  · -- the match would start behind the line, but it starts before the line feed there
    have hlen := congrArg List.length hsplit
    have hpos := List.length_pos_iff.mpr hne
    simp only [List.length_append] at hlen
    omega

/-- Of a text that starts with a foreign line, every match lies behind it. -/
theorem behind (hf : k.Foreign line) (hb : AtLineStart b) (hv : AtLineEnd v)
    (hsplit : line ++ v = g ++ (m ++ r)) (ht : k.expr.Takes (lastOr b g) m r) :
    ∃ v', v' ≠ [] ∧ g = line ++ v' ∧ v = v' ++ (m ++ r) := by
  have hx : AtLineStart (lastOr b []) := hb
  rcases hf.one_side hx hv hsplit ht with ⟨x', hnil, -⟩ | hright
  · -- before the line there is no room for a match
    obtain ⟨-, hnil⟩ := List.append_eq_nil_iff.mp hnil.symm
    exact absurd (List.append_eq_nil_iff.mp hnil).1 (ne_nil_of_takes ht)
  · exact hright

/-- No match starts with a foreign line. -/
theorem ends_eq_nil (hf : k.Foreign line) (hv : AtLineEnd v) : k.expr.ends ⟨b, line ++ v⟩ = [] := by
  refine List.eq_nil_iff_forall_not_mem.mpr fun q hq => ?_
  obtain ⟨m, r, hrest, -, ht⟩ := Expr.takes_of_mem_ends hq
  obtain ⟨v', -, hnil, -⟩ := hf.behind (g := []) (spaced_of_takes ht).1 hv hrest ht
  have := congrArg List.length hnil
  have hpos := List.length_pos_iff.mpr hf.ne_nil
  simp only [List.length_nil, List.length_append] at this
  omega

/-- Between two foreign lines there is a seam. -/
theorem seam {line' : List Char} (hf : k.Foreign line) (hf' : k.Foreign line')
    (hx : AtLineStart (lastOr none x)) (hv : AtLineEnd v) :
    Seam k.expr (x ++ line) '\n' (line' ++ v) where
  alone := hf.fenced hx []
  together := hf.fenced hx _
  fresh := hf'.ends_eq_nil hv
  resumed := hf'.ends_eq_nil hv

/-! ## Foreign lines stay at the ends of a text -/

theorem exists_weave_append (hf : k.Foreign line) (h : Sweep k.expr b s cuts last) :
    ∀ x, s = x ++ (line ++ ['\n']) → AtLineStart (lastOr b x) →
      ∃ x', weave [] cuts last = x' ++ (line ++ ['\n']) ∧ AtLineStart (lastOr b x') := by
  induction h with
  | stop => exact fun x hs hx => ⟨x, hs, hx⟩
  | @hit b g m r last cuts _ hh _ ih =>
    intro x hs hx
    have ht := takes_of_hit hh
    have hstart := (spaced_of_takes ht).1
    rcases hf.one_side hx (by simp) hs.symm ht with ⟨x₁, rfl, rfl⟩ | ⟨v', hne, -, hv'⟩
    · rw [← List.append_assoc, lastOr_append] at hx
      obtain ⟨x', hweave, hx'⟩ := ih x₁ rfl hx
      refine ⟨g ++ x', by rw [weave, hweave, List.append_nil, List.append_assoc], ?_⟩
      rw [lastOr_append]
      cases x' with
      | nil => exact hstart
      | cons c x' => exact hx'
    · -- there is only the line feed behind the line
      have hlen := congrArg List.length hv'
      have hpos := List.length_pos_iff.mpr hne
      have hpos' := List.length_pos_iff.mpr (ne_nil_of_takes ht)
      simp only [List.length_append, List.length_singleton] at hlen
      omega

theorem exists_append_weave (hf : k.Foreign line) (h : Sweep k.expr b s cuts last)
    (hs : s = line ++ v) (hb : AtLineStart b) (hv : AtLineEnd v) :
    ∃ v', weave [] cuts last = line ++ v' ∧ AtLineEnd v' := by
  cases h with
  | stop => exact ⟨v, hs, hv⟩
  | @hit _ g m r last cuts _ hh _ =>
    obtain ⟨v', hne, rfl, rfl⟩ := hf.behind hb hv hs.symm (takes_of_hit hh)
    refine ⟨v' ++ weave [] cuts last, by simp [weave], ?_⟩
    obtain ⟨c, v', rfl⟩ := List.exists_cons_of_ne_nil hne
    exact hv

end Foreign

end Marker

/-! ## Code lines -/

/-- The words that parts of the built-in markers begin with. -/
def markerHeads : List String :=
  ["//", "\x7b", "\x7d", "/*", "console.warn(", "MF_REPORT_", "__MF_REPORT_", "\"MF_REPORT_DEBUG:",
    "'MF_REPORT_DEBUG:", "eslint-disable-next-line", "no-console"]

/-- A line that is not blank and does not begin like a part of a marker. -/
structure CodeLine (line : List Char) : Prop where
  oneLine : '\n' ∉ line
  not_blank : trimmed line ≠ []
  not_head : ∀ w ∈ markerHeads, ¬ w.toList <+: trimmed line

instance : DecidablePred CodeLine := fun line =>
  decidable_of_iff
    ('\n' ∉ line ∧ trimmed line ≠ [] ∧ ∀ w ∈ markerHeads, ¬ w.toList <+: trimmed line)
    ⟨fun ⟨h, h', h''⟩ => ⟨h, h', h''⟩, fun ⟨h, h', h''⟩ => ⟨h, h', h''⟩⟩

example : CodeLine "  report(x); // MF_REPORT_A".toList ∧ ¬ CodeLine "  // report".toList ∧
    ¬ CodeLine " ".toList := by
  decide

/-- Every piece of a built-in marker begins with one of the words. -/
theorem Piece.exists_head {k : MarkerRule} (hk : k ∈ MarkerRule.builtin) {P : Piece}
    (hP : P ∈ k.marker.pieces) {s : List Char} (hs : P.Fits s) :
    ∃ w ∈ markerHeads, w.toList <+: s := by
  have hopens : ∀ {P : Piece} {w : String}, P.Opens w → w ∈ markerHeads → P.Fits s →
      ∃ w ∈ markerHeads, w.toList <+: s := fun h hw hs => ⟨_, hw, h s hs⟩
  simp only [MarkerRule.builtin, List.mem_cons, List.not_mem_nil, or_false] at hk
  rcases hk with rfl | rfl | rfl | rfl | rfl
  · obtain rfl | rfl : P = slashes ∨ P = report := by simpa [MarkerRule.lineComment] using hP
    · exact hopens slashes_is.opens (by decide) hs
    · exact hopens report_opens (by decide) hs
  · obtain rfl | rfl | rfl | rfl :
        P = openBrace ∨ P = openComment ∨ P = reportComment ∨ P = closeBrace := by
      simpa [MarkerRule.blockComment] using hP
    · exact hopens openBrace_is.opens (by decide) hs
    · exact hopens openComment_is.opens (by decide) hs
    · exact hopens reportComment_opens (by decide) hs
    · exact hopens closeBrace_is.opens (by decide) hs
  · obtain rfl | rfl : P = slashes ∨ P = dunderReport := by simpa [MarkerRule.dunder] using hP
    · exact hopens slashes_is.opens (by decide) hs
    · exact hopens dunderReport_opens (by decide) hs
  · obtain rfl | rfl : P = warnCall ∨ P = debugText := by simpa [MarkerRule.debugWarn] using hP
    · exact hopens warnCall_is.opens (by decide) hs
    · have hheads : ∀ w ∈ ["\"MF_REPORT_DEBUG:", "'MF_REPORT_DEBUG:"], w ∈ markerHeads := by
        decide
      obtain ⟨w, hw, hpre⟩ := debugText_opens_quoted hs
      exact ⟨w, hheads w hw, hpre⟩
  · obtain rfl | rfl | rfl : P = slashes ∨ P = disableNextLine ∨ P = noConsole := by
      simpa [MarkerRule.noConsole] using hP
    · exact hopens slashes_is.opens (by decide) hs
    · exact hopens disableNextLine_is.opens (by decide) hs
    · exact hopens noConsole_is.opens (by decide) hs

/-- A code line is foreign to every built-in marker. -/
theorem CodeLine.foreign {line : List Char} (h : CodeLine line) {k : MarkerRule}
    (hk : k ∈ MarkerRule.builtin) : k.marker.Foreign line where
  oneLine := h.oneLine
  not_spaced Qs hQs hl := by
    cases Qs with
    | nil => exact h.not_blank hl.trimmed_eq_nil
    | cons P Qs =>
      obtain ⟨w, hw, hpre⟩ := hl.exists_prefix_trimmed
        (fun _ => Piece.exists_head hk (hQs.subset List.mem_cons_self)) (by decide)
      exact h.not_head w hw hpre

end MarkerSweep
