import Mathlib.Data.List.TakeWhile
import MarkerSweep.Proofs.Marker.Spaced
import MarkerSweep.Proofs.Text.Lines
import MarkerSweep.Rule.Builtin
import MarkerSweep.Rule.Compiled
/-!
# Markers and their expressions

The patterns of the marker rules are of one build: a line start, some pieces with blanks before
them, blanks up to the end of a line, and mostly the line feed after that. A `Marker` says which
pieces, and `Marker.expr` is the expression. Two statements sum up what it takes. A match is a text
of the pieces that stands at the start of a line and runs to the end of one
(`Marker.spaced_of_takes`); and wherever a text of the pieces stands that fills its lines, there is
a match (`Marker.exists_takes`). The second needs care: if the last piece takes the rest of its
line, the match stops there and leaves the blank lines after it.
-/

set_option autoImplicit false

namespace MarkerSweep

open Unicode Pattern

theorem holds_lineStart {b a : Option Char} : Look.lineStart.holds b a = true ↔ AtLineStart b := by
  cases b <;> simp [Look.holds, AtLineStart]

theorem holds_lineFinish {b : Option Char} {r : List Char} :
    Look.lineFinish.holds b r.head? = true ↔ AtLineEnd r := by
  cases h : r.head? <;> simp [Look.holds, AtLineEnd, h]

/-! ## Pieces as segments -/

theorem fits_blanks {n : Nat} {g : Bool} {w : List Char} :
    (Segment.run n g blanks).Fits w ↔ n ≤ w.length ∧ Blank w := Iff.rfl

/-- The segments of some pieces, followed by segments that take blanks only, take a text of the
pieces. -/
theorem spaced_of_segmentsFit {tail : List Segment} (htail : ∀ w, SegmentsFit tail w → Blank w) :
    ∀ {Ps : List Piece} {m : List Char}, SegmentsFit (Ps.flatMap Piece.spacedSegments ++ tail) m →
      Spaced Ps m ∧ Leads Ps m
  | [], m, h => ⟨.blank (htail m h), leads_nil m⟩
  | P :: Ps, m, h => by
    rw [List.flatMap_cons, List.append_assoc] at h
    obtain ⟨w, x, rfl, hw, h⟩ := h
    obtain ⟨s, n, rfl, hs, h⟩ := segmentsFit_append.mp h
    obtain ⟨hlen, hw⟩ := fits_blanks.mp hw
    obtain ⟨hn, hl⟩ := spaced_of_segmentsFit htail h
    refine ⟨.piece hw hs hn hl, fun Q hQ ha => ?_⟩
    rw [List.head?_cons, Option.mem_some_iff] at hQ
    subst hQ
    rw [ha, if_pos rfl] at hlen
    match w, hlen with
    | c :: w, _ => exact ⟨c, w ++ (s ++ n), rfl, (blank_cons.mp hw).1⟩

/-- The blanks before a first piece fit. -/
theorem fits_leading {P : Piece} {Ps : List Piece} {w s m : List Char} (hw : Blank w)
    (hs : P.Fits s) (hl : Leads (P :: Ps) (w ++ (s ++ m))) :
    (Segment.run (if P.apart then 1 else 0) true blanks).Fits w := by
  refine fits_blanks.mpr ⟨?_, hw⟩
  cases ha : P.apart with
  | false => exact Nat.zero_le _
  | true =>
    obtain ⟨c, t, hc, hblank⟩ := hl P rfl ha
    obtain ⟨d, u, rfl, hd⟩ := (P.solid s hs).head
    match w with
    | [] =>
      rw [List.nil_append, List.cons_append, List.cons.injEq] at hc
      rw [hc.1, hblank] at hd
      cases hd
    | _ :: _ => exact Nat.succ_le_succ (Nat.zero_le _)

/-- A text of some pieces is taken by their segments and a run of blanks. -/
theorem segmentsFit_of_spaced {Ps : List Piece} {m : List Char} (h : Spaced Ps m)
    (hl : Leads Ps m) :
    SegmentsFit (Ps.flatMap Piece.spacedSegments ++ [.run 0 true blanks]) m := by
  induction h with
  | @blank w hw => exact ⟨w, [], (List.append_nil w).symm, ⟨Nat.zero_le _, hw⟩, rfl⟩
  | @piece w s m P Ps hw hs _ hlead ih =>
    rw [List.flatMap_cons, List.append_assoc]
    exact ⟨w, s ++ m, rfl, fits_leading hw hs hl, segmentsFit_append.mpr ⟨s, m, rfl, hs, ih hlead⟩⟩

/-- If the last piece takes whatever follows it on its line, a text of the pieces is taken by their
segments up to the end of the line of the last piece. -/
theorem segmentsFit_toLineEnd {Ps : List Piece} {m : List Char} (h : Spaced Ps m) (hl : Leads Ps m)
    (hne : Ps ≠ []) (hlast : ∀ P ∈ Ps.getLast?, ∀ s u, P.Fits s → '\n' ∉ u → P.Fits (s ++ u)) :
    ∃ m' v, m = m' ++ v ∧ SegmentsFit (Ps.flatMap Piece.spacedSegments) m' ∧ AtLineEnd v := by
  induction h with
  | blank => exact absurd rfl hne
  | @piece w s m P Ps hw hs hm hlead ih =>
    cases Ps with
    | nil =>
      -- the last piece takes what follows it on its line, and leaves the blank lines below
      obtain ⟨u, v, rfl, hu, hv⟩ : ∃ u v, m = u ++ v ∧ '\n' ∉ u ∧ AtLineEnd v := by
        refine ⟨m.takeWhile (· ≠ '\n'), m.dropWhile (· ≠ '\n'),
          (List.takeWhile_append_dropWhile).symm,
          fun hn => by simpa using List.mem_takeWhile_imp hn, fun c hc => ?_⟩
        have := List.head?_dropWhile_not (· ≠ '\n') m
        rw [hc] at this
        simpa using this
      have hfit : P.Fits (s ++ u) := hlast P rfl s u hs hu
      refine ⟨w ++ (s ++ u), v, by simp, ?_, hv⟩
      rw [List.flatMap_cons]
      exact ⟨w, s ++ u, rfl, fits_leading hw hs hl,
        segmentsFit_append.mpr ⟨s ++ u, [], (List.append_nil _).symm, hfit, rfl⟩⟩
    | cons Q Ps =>
      obtain ⟨m', v, rfl, hfit, hv⟩ := ih hlead (List.cons_ne_nil _ _) (by simpa using hlast)
      refine ⟨w ++ (s ++ m'), v, by simp, ?_, hv⟩
      rw [List.flatMap_cons]
      exact ⟨w, s ++ m', rfl, fits_leading hw hs hl, segmentsFit_append.mpr ⟨s, m', rfl, hs, hfit⟩⟩

/-! ## Markers -/

/-- The pieces of a marker, and how its expression ends. -/
structure Marker where
  pieces : List Piece
  /-- The last piece takes the rest of its line, so no blanks are looked for after it. -/
  toLineEnd : Bool := false
  /-- The line feed after the marker goes with it. -/
  takesBreak : Bool := true
  pieces_ne_nil : pieces ≠ []
  attached : ∀ P ∈ pieces.head?, P.apart = false
  extends_last : toLineEnd = true →
    ∀ P ∈ pieces.getLast?, ∀ s u, P.Fits s → '\n' ∉ u → P.Fits (s ++ u)

namespace Marker

def segments (k : Marker) : List Segment :=
  k.pieces.flatMap Piece.spacedSegments ++ if k.toLineEnd then [] else [Segment.run 0 true blanks]

/-- A line feed if there is one. -/
def optionalBreak : Expr := .rep 0 (some 1) true (.set (.singleton '\n'))

def expr (k : Marker) : Expr :=
  .ofParts (.look .lineStart :: (k.segments.map Segment.expr ++
    .look .lineFinish :: if k.takesBreak then [optionalBreak] else []))

theorem takes_optionalBreak {b : Option Char} {m r : List Char} :
    optionalBreak.Takes b m r ↔ m = [] ∨ m = ['\n'] := by
  rw [optionalBreak, Expr.takes_optional]
  constructor
  · rintro ⟨hlen, h⟩
    match m with
    | [] => exact .inl rfl
    | [c] => exact .inr (by rw [CharSet.contains_singleton.mp (h c List.mem_cons_self)])
  · rintro (rfl | rfl)
    · simp
    · simp [CharSet.contains_singleton]

/-- What a marker ends with: the end of a line, and perhaps the line feed there. -/
theorem takes_close {takesBreak : Bool} {b : Option Char} {n r : List Char} :
    (Expr.ofParts (.look .lineFinish :: if takesBreak then [optionalBreak] else [])).Takes b n r ↔
      AtLineEnd (n ++ r) ∧ (n = [] ∨ takesBreak = true ∧ n = ['\n']) := by
  rw [Expr.takes_ofParts_cons]
  constructor
  · rintro ⟨m₁, m₂, rfl, hlook, h⟩
    rw [Expr.takes_look, holds_lineFinish] at hlook
    obtain ⟨rfl, hend⟩ := hlook
    refine ⟨hend, ?_⟩
    cases takesBreak with
    | true =>
      rw [if_pos rfl, Expr.ofParts, takes_optionalBreak] at h
      exact h.imp_right fun h => ⟨rfl, h⟩
    | false =>
      simp only [Bool.false_eq_true, if_false, Expr.takes_ofParts_nil] at h
      exact .inl h
  · rintro ⟨hend, h⟩
    refine ⟨[], n, rfl, Expr.takes_look.mpr ⟨rfl, holds_lineFinish.mpr hend⟩, ?_⟩
    cases takesBreak with
    | true =>
      rw [if_pos rfl, Expr.ofParts, takes_optionalBreak]
      exact h.imp_right And.right
    | false =>
      simp only [Bool.false_eq_true, if_false, Expr.takes_ofParts_nil]
      exact h.elim id fun h => by simp at h

theorem takes_expr {k : Marker} {b : Option Char} {m r : List Char} :
    k.expr.Takes b m r ↔ AtLineStart b ∧ ∃ m₀ n, m = m₀ ++ n ∧ SegmentsFit k.segments m₀ ∧
      AtLineEnd (n ++ r) ∧ (n = [] ∨ k.takesBreak = true ∧ n = ['\n']) := by
  rw [expr, Expr.takes_ofParts_cons]
  constructor
  · rintro ⟨m₁, m₂, rfl, hlook, h⟩
    rw [Expr.takes_look, holds_lineStart] at hlook
    obtain ⟨rfl, hstart⟩ := hlook
    obtain ⟨m₀, n, rfl, hfit, h⟩ := takes_segments_append.mp h
    exact ⟨hstart, m₀, n, rfl, hfit, takes_close.mp h⟩
  · rintro ⟨hstart, m₀, n, rfl, hfit, h⟩
    refine ⟨[], m₀ ++ n, rfl, Expr.takes_look.mpr ⟨rfl, holds_lineStart.mpr hstart⟩, ?_⟩
    exact takes_segments_append.mpr ⟨m₀, n, rfl, hfit, takes_close.mpr h⟩

variable {k : Marker} {b : Option Char} {m r : List Char}

theorem leads_pieces (k : Marker) (m : List Char) : Leads k.pieces m := by
  intro P hP ha
  rw [k.attached P hP] at ha
  cases ha

/-- A match is a text of the pieces that fills its lines. -/
theorem spaced_of_takes (h : k.expr.Takes b m r) :
    AtLineStart b ∧ Spaced k.pieces m ∧ Boundary (lastOr b m) r := by
  obtain ⟨hb, m₀, n, rfl, hfit, hend, hn⟩ := takes_expr.mp h
  have hm₀ : Spaced k.pieces m₀ := by
    refine (spaced_of_segmentsFit (fun w hw => ?_) hfit).1
    cases hk : k.toLineEnd with
    | true =>
      rw [hk, if_pos rfl] at hw
      rw [show w = [] from hw]
      exact blank_nil
    | false =>
      simp only [hk, Bool.false_eq_true, if_false] at hw
      obtain ⟨w, _, rfl, hw, rfl⟩ := hw
      rw [List.append_nil]
      exact hw.2
  rcases hn with rfl | ⟨-, rfl⟩
  · rw [List.append_nil]
    exact ⟨hb, hm₀, .inr hend⟩
  · refine ⟨hb, hm₀.blank_right blank_lineFeed, .inl ?_⟩
    rw [lastOr_append]
    simp

/-- A match holds all the pieces, so it is not empty. -/
theorem ne_nil_of_takes (h : k.expr.Takes b m r) : m ≠ [] :=
  (spaced_of_takes h).2.1.ne_nil k.pieces_ne_nil

/-- A text of the pieces that fills its lines holds a match, which starts with it and ends with one
of its lines. -/
theorem exists_takes (hb : AtLineStart b) (h : Spaced k.pieces m) (hr : AtLineEnd r) :
    ∃ m' v, m = m' ++ v ∧ AtLineEnd v ∧ k.expr.Takes b m' (v ++ r) := by
  obtain ⟨m', v, rfl, hfit, hv⟩ :
      ∃ m' v, m = m' ++ v ∧ SegmentsFit k.segments m' ∧ AtLineEnd v := by
    cases hk : k.toLineEnd with
    | true =>
      obtain ⟨m', v, hm, hfit, hv⟩ :=
        segmentsFit_toLineEnd h (k.leads_pieces m) k.pieces_ne_nil (k.extends_last hk)
      exact ⟨m', v, hm, by simpa [segments, hk] using hfit, hv⟩
    | false =>
      refine ⟨m, [], (List.append_nil m).symm, ?_, atLineEnd_nil⟩
      simpa [segments, hk] using segmentsFit_of_spaced h (k.leads_pieces m)
  refine ⟨m', v, rfl, hv, takes_expr.mpr ?_⟩
  exact ⟨hb, m', [], (List.append_nil m').symm, hfit, hv.append hr, .inl rfl⟩

/-- A text of one line is taken whole if it is a text of the pieces. -/
theorem takes_line_iff (hm : '\n' ∉ m) : k.expr.Takes none m [] ↔ Spaced k.pieces m := by
  constructor
  · exact fun h => (spaced_of_takes h).2.1
  · intro h
    obtain ⟨m', v, rfl, hv, ht⟩ := exists_takes atLineStart_none h atLineEnd_nil
    match v with
    | [] => exact (List.append_nil m').symm ▸ ht
    | c :: v =>
      rw [hv c rfl] at hm
      simp at hm

/-- A line is taken with its line feed, either by the blanks after the pieces or behind them. -/
theorem takes_line_lineFeed_iff (hk : k.takesBreak = true ∨ k.toLineEnd = false) (hm : '\n' ∉ m) :
    k.expr.Takes none (m ++ ['\n']) [] ↔ Spaced k.pieces m := by
  refine ⟨fun h => spaced_concat_lineFeed_iff.mp (spaced_of_takes h).2.1, fun h => ?_⟩
  rcases hk with hk | hk
  · -- the line without its line feed is taken, and the optional line feed stands behind it
    obtain ⟨hb, m₀, n, rfl, hfit, -, hn⟩ := takes_expr.mp ((takes_line_iff hm).mpr h)
    rcases hn with rfl | ⟨-, rfl⟩
    · rw [List.append_nil]
      exact takes_expr.mpr ⟨hb, m₀, _, rfl, hfit, by simp, .inr ⟨hk, rfl⟩⟩
    · simp at hm
  · -- the blanks behind the last piece take the line feed with them
    have hfit := segmentsFit_of_spaced (spaced_concat_lineFeed_iff.mpr h) (k.leads_pieces _)
    refine takes_expr.mpr ⟨by simp, _, [], (List.append_nil _).symm, ?_, by simp, .inl rfl⟩
    simpa [segments, hk] using hfit

/-- The preferred match takes the line feed after the marker. -/
theorem break_of_head?_ends (hk : k.takesBreak = true) {p q : Place}
    (h : (k.expr.ends p).head? = some q) : q.before = some '\n' ∨ q.rest = [] := by
  have hexpr : k.expr = .ofParts ((.look .lineStart :: k.segments.map Segment.expr) ++
      [.look .lineFinish, optionalBreak]) := by
    rw [expr, hk, if_pos rfl, List.cons_append]
  rw [hexpr, Expr.ends_ofParts_append, List.head?_flatMap] at h
  obtain ⟨a, -, ha⟩ := List.exists_of_findSome?_eq_some h
  rw [Expr.ends_ofParts_cons, Expr.ofParts, Expr.ends] at ha
  split at ha
  · rename_i hlook
    rw [List.flatMap_singleton] at ha
    have hend := holds_lineFinish.mp hlook
    obtain ⟨b, r⟩ := a
    cases r with
    | nil =>
      obtain rfl : q = ⟨b, []⟩ := by
        simpa [optionalBreak, Expr.ends, roundsEnds, loopEnds] using ha.symm
      exact .inr rfl
    | cons c r =>
      -- what ends the line is a line feed, and a greedy option takes it
      obtain rfl := hend c rfl
      have hc : (CharSet.singleton '\n').contains '\n' = true := CharSet.contains_singleton.mpr rfl
      obtain rfl : q = ⟨some '\n', r⟩ := by
        simpa [optionalBreak, Expr.ends, roundsEnds, loopEnds, hc] using ha.symm
      exact .inl rfl
  · simp at ha

end Marker

end MarkerSweep
