import Mathlib.Data.List.Flatten
import MarkerSweep.Proofs.Marker.Basic
import MarkerSweep.Proofs.Marker.Lines
import MarkerSweep.Proofs.Rule.Sweep
/-!
# Removing a marker

Every match of a marker fills its lines, so removing the matches removes lines and leaves the other
lines as they are. `Removes` collects what that comes to; it is proved once for all markers, by
induction on the cuts, and what is known of the built-in rules rests on it.

No marker that fills one line is left (`Removes.gone`), although the matches are leftmost and may
start lines above: a stretch between two matches ends where the next match starts, which is at the
start of a line, so a line in that stretch is whole and would have been a match itself.
-/

set_option autoImplicit false

namespace MarkerSweep

open Pattern Text

variable {k : Marker} {b : Option Char} {s last : List Char} {cuts : List Cut}

/-- What removing a marker makes of a text, and how often it was there. -/
structure Removes (k : Marker) (t t' : List Char) (count : Nat) : Prop where
  sublist : (nonemptyLines t').Sublist (nonemptyLines t)
  /-- Lines that hold no piece of the marker alone stay. -/
  keeps : ∀ p : List Char → Bool, (∀ Qs l, Qs <:+: k.pieces → Spaced Qs l → p l = false) →
    linesWhere p t' = linesWhere p t
  gone : ∀ l ∈ nonemptyLines t', ¬ Spaced k.pieces l
  unchanged : count = 0 → t' = t
  shortens : t'.length + count ≤ t.length
  idle_iff : count = 0 ↔ ∀ block, block <:+: nonblankLines t → ¬ SpreadOver k.pieces block

/-! ## The lines of the cuts -/

theorem linesWhere_sweep {p : List Char → Bool} (hp : p [] = false)
    (h : Sweep k.expr b s cuts last) :
    linesWhere p s =
      cuts.flatMap (fun c => linesWhere p c.kept ++ linesWhere p c.taken) ++ linesWhere p last := by
  induction h with
  | stop => simp
  | hit _ hh _ ih =>
    obtain ⟨hb, -, hr⟩ := Marker.spaced_of_takes (takes_of_hit hh)
    rw [linesWhere_append hp (.inl hb), linesWhere_append hp hr, ih]
    simp

theorem linesWhere_weave {p : List Char → Bool} (hp : p [] = false)
    (h : Sweep k.expr b s cuts last) :
    linesWhere p (weave [] cuts last) =
      cuts.flatMap (fun c => linesWhere p c.kept) ++ linesWhere p last := by
  induction h with
  | stop => simp [weave]
  | hit _ hh _ ih =>
    obtain ⟨hb, -, -⟩ := Marker.spaced_of_takes (takes_of_hit hh)
    rw [weave, List.append_nil, linesWhere_append hp (.inl hb), ih]
    simp

theorem spaced_taken (h : Sweep k.expr b s cuts last) : ∀ c ∈ cuts, Spaced k.pieces c.taken := by
  induction h with
  | stop => simp
  | hit _ hh _ ih =>
    obtain ⟨-, hm, -⟩ := Marker.spaced_of_takes (takes_of_hit hh)
    exact List.forall_mem_cons.mpr ⟨hm, ih⟩

/-! ## No marker is passed over -/

/-- Where no match starts, no text of the pieces fills its lines. -/
theorem Pattern.Quiet.not_spaced {g r x m y : List Char} (hq : Quiet k.expr b g r)
    (hg : g = x ++ (m ++ y)) (hx : AtLineStart (lastOr b x)) (hy : AtLineEnd (y ++ r)) : ¬ Spaced k.pieces m := by
  intro hm
  obtain ⟨m', v, rfl, -, ht⟩ := Marker.exists_takes hx hm hy
  have hne : (m' ++ v) ++ y ≠ [] := List.append_ne_nil_of_left_ne_nil (hm.ne_nil k.pieces_ne_nil) y
  have hends := hq x ((m' ++ v) ++ y) hg hne
  rw [Expr.Takes, ← List.append_assoc, ← List.append_assoc, hends] at ht
  exact List.not_mem_nil ht

theorem not_spaced_of_quiet {g r l : List Char} (hq : Quiet k.expr b g r) (hb : Boundary b (g ++ r))
    (hr : Boundary (lastOr b g) r) (hl : l ∈ nonemptyLines g) : ¬ Spaced k.pieces l := by
  obtain ⟨hl, hne⟩ := List.mem_filter.mp hl
  obtain ⟨hfeed, x, y, rfl, hx, hy⟩ := exists_of_mem_splitOn hl
  have hne : l ≠ [] := by simpa using hne
  refine hq.not_spaced rfl ?_ ?_
  · -- before the first line of `g` it is the boundary before `g` that counts
    cases x with
    | nil =>
      refine hb.resolve_right fun hend => ?_
      obtain ⟨c, l, rfl⟩ := List.exists_cons_of_ne_nil hne
      simp at hend hfeed
      exact hfeed.1 hend.symm
    | cons c x => exact hx
  · cases y with
    | nil =>
      rw [List.nil_append]
      refine hr.resolve_left fun hstart => ?_
      rw [List.append_nil, lastOr_append] at hstart
      obtain ⟨l', rfl⟩ := exists_concat_of_atLineStart hne hstart
      simp at hfeed
    | cons c y => simpa using hy

theorem not_spaced_weave (h : Sweep k.expr b s cuts last) (hb : Boundary b s) :
    ∀ l ∈ nonemptyLines (weave [] cuts last), ¬ Spaced k.pieces l := by
  induction h with
  | stop hq _ =>
    intro l hl
    exact not_spaced_of_quiet hq (by simpa using hb) (.inr (by simp)) hl
  | hit hq hh _ ih =>
    obtain ⟨hg, -, hr⟩ := Marker.spaced_of_takes (takes_of_hit hh)
    intro l hl
    rw [weave, List.append_nil, nonemptyLines_append (.inl hg), List.mem_append] at hl
    rcases hl with hl | hl
    · exact not_spaced_of_quiet hq hb (.inl hg) hl
    · rw [← lastOr_append] at hr
      exact ih hr l hl

/-! ## When nothing is removed -/

/-- Nothing is removed exactly if the pieces spread over no lines that stand one after another. -/
theorem cuts_eq_nil_iff (h : Sweep k.expr none s cuts last) :
    cuts = [] ↔ ∀ block, block <:+: nonblankLines s → ¬ SpreadOver k.pieces block := by
  constructor
  · -- pieces that spread over lines in a row fill them, and would be matched there
    rintro rfl block hblock hspread
    have hne : block ≠ [] := by
      rintro rfl
      exact k.pieces_ne_nil (spreadOver_nil_iff.mp hspread)
    obtain ⟨x, m, r, rfl, hx, hr, rfl⟩ := exists_of_infix_linesWhere hne hblock
    rw [← nonblankLines, ← spaced_iff_spreadOver] at hspread
    exact h.quiet_of_nil.not_spaced rfl hx (by simpa using hr) hspread
  · -- the first match lies on such lines
    intro hall
    by_contra hne
    obtain ⟨c, cuts, rfl⟩ := List.exists_cons_of_ne_nil hne
    refine hall (nonblankLines c.taken) ⟨nonblankLines c.kept, ?_, ?_⟩
      (spaced_iff_spreadOver.mp (spaced_taken h c List.mem_cons_self))
    · exact cuts.flatMap (fun c => nonblankLines c.kept ++ nonblankLines c.taken) ++
        nonblankLines last
    · rw [nonblankLines, linesWhere_sweep rfl h]
      simp

theorem removes_of_sweep (h : Sweep k.expr none s cuts last) :
    Removes k s (weave [] cuts last) cuts.length where
  sublist := by
    rw [nonemptyLines, linesWhere_weave rfl h, linesWhere_sweep rfl h]
    refine (List.Sublist.flatMap_right cuts fun c _ => ?_).append_right _
    exact List.sublist_append_left _ _
  keeps p hp := by
    have hnil : p [] = false := hp [] [] (List.nil_infix) (.blank blank_nil)
    have htaken : ∀ c ∈ cuts, linesWhere p c.taken = [] := by
      intro c hc
      refine List.filter_eq_nil_iff.mpr fun l hl => ?_
      obtain ⟨Qs, hQs, hl⟩ := exists_spaced_of_mem_splitOn (spaced_taken h c hc) hl
      simp [hp Qs l hQs hl]
    rw [linesWhere_weave hnil h, linesWhere_sweep hnil h]
    congr 1
    refine List.flatMap_congr fun c hc => ?_
    rw [htaken c hc, List.append_nil]
  gone := not_spaced_weave h (.inl (by simp))
  unchanged hn := by
    obtain rfl := List.length_eq_zero_iff.mp hn
    exact h.eq_of_nil
  shortens := h.length_weave fun _ _ _ ht => List.length_pos_iff.mpr (Marker.ne_nil_of_takes ht)
  idle_iff := by rw [List.length_eq_zero_iff, cuts_eq_nil_iff h]

end MarkerSweep
