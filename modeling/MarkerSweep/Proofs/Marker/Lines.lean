import MarkerSweep.Proofs.Marker.Spaced
import MarkerSweep.Proofs.Text.Lines
/-!
# Markers over several lines

The blanks of a marker may hold line feeds, so a marker may spread over lines, with blank lines
anywhere between. `SpreadOver Ps block` says that of the lines themselves: the pieces `Ps` are dealt
out in order, at least one to each line of `block`. A text is one of the pieces exactly if they
spread over its lines that are not blank (`spaced_iff_spreadOver`).
-/

set_option autoImplicit false

namespace MarkerSweep

open Unicode Pattern Text

theorem isBlankLine_iff {l : List Char} : isBlankLine l = true ↔ Blank l := by
  simp [isBlankLine, Blank]

/-- Some pieces, dealt out in order to some lines, at least one piece to each. -/
inductive SpreadOver : List Piece → List (List Char) → Prop
  | nil : SpreadOver [] []
  | cons {Qs Rs : List Piece} {l : List Char} {ls : List (List Char)} : Qs ≠ [] → Spaced Qs l →
      SpreadOver Rs ls → SpreadOver (Qs ++ Rs) (l :: ls)

theorem spreadOver_nil_iff {Ps : List Piece} : SpreadOver Ps [] ↔ Ps = [] := by
  constructor
  · intro h
    cases h
    rfl
  · rintro rfl
    exact .nil

/-- No pieces spread over no lines. -/
theorem SpreadOver.eq_nil {ls : List (List Char)} (h : SpreadOver [] ls) : ls = [] := by
  generalize hPs : ([] : List Piece) = Ps at h
  cases h with
  | nil => rfl
  | cons hne _ _ => exact absurd (List.append_eq_nil_iff.mp hPs.symm).1 hne

theorem spreadOver_cons_iff {Ps : List Piece} {l : List Char} {ls : List (List Char)} :
    SpreadOver Ps (l :: ls) ↔
      ∃ Qs Rs, Ps = Qs ++ Rs ∧ Qs ≠ [] ∧ Spaced Qs l ∧ SpreadOver Rs ls := by
  constructor
  · intro h
    cases h with
    | cons hne hl hls => exact ⟨_, _, rfl, hne, hl, hls⟩
  · rintro ⟨Qs, Rs, rfl, hne, hl, hls⟩
    exact .cons hne hl hls

theorem spreadOver_singleton_iff {Ps : List Piece} {l : List Char} :
    SpreadOver Ps [l] ↔ Ps ≠ [] ∧ Spaced Ps l := by
  constructor
  · intro h
    obtain ⟨Qs, Rs, rfl, hne, hl, hR⟩ := spreadOver_cons_iff.mp h
    rw [spreadOver_nil_iff] at hR
    subst hR
    simpa using ⟨hne, hl⟩
  · rintro ⟨hne, hl⟩
    exact spreadOver_cons_iff.mpr ⟨Ps, [], by simp, hne, hl, .nil⟩

/-- The line that holds a piece, with the pieces before and after it that are on the same line. -/
theorem SpreadOver.exists_line {Ps Xs Ys : List Piece} {K : Piece} {block : List (List Char)}
    (h : SpreadOver Ps block) (hPs : Ps = Xs ++ K :: Ys) :
    ∃ Xs' Ys' l, Xs' <:+ Xs ∧ Ys' <+: Ys ∧ l ∈ block ∧ Spaced (Xs' ++ K :: Ys') l ∧
      (Xs' = Xs → Ys' = Ys → block = [l]) := by
  induction h generalizing Xs with
  | nil => simp at hPs
  | @cons Qs Rs l ls hne hl hls ih =>
    -- what stands on later lines is shorter than what stands before the piece
    have hlater : ∀ Zs, Xs = Qs ++ Zs → Rs = Zs ++ K :: Ys → ∃ Xs' Ys' l', Xs' <:+ Xs ∧ Ys' <+: Ys ∧
        l' ∈ l :: ls ∧ Spaced (Xs' ++ K :: Ys') l' ∧ (Xs' = Xs → Ys' = Ys → l :: ls = [l']) := by
      intro Zs hXs hRs
      obtain ⟨Xs', Ys', l', hX, hY, hmem, hl', -⟩ := ih hRs
      have hlen := hX.length_le
      have hpos := List.length_pos_iff.mpr hne
      subst hXs
      refine ⟨Xs', Ys', l', hX.trans (List.suffix_append Qs Zs), hY, List.mem_cons_of_mem _ hmem,
        hl', ?_⟩
      rintro rfl
      rw [List.length_append] at hlen
      omega
    rcases List.append_eq_append_iff.mp hPs with ⟨Zs, hXs, hRs⟩ | ⟨Zs, hQs, hRs⟩
    · exact hlater Zs hXs hRs
    · match Zs, hRs with
      | [], hRs => exact hlater [] (by simpa using hQs.symm) hRs.symm
      | _ :: Zs, hRs =>
        rw [List.cons_append, List.cons.injEq] at hRs
        obtain ⟨rfl, rfl⟩ := hRs
        refine ⟨Xs, Zs, l, List.suffix_rfl, List.prefix_append .., List.mem_cons_self, hQs ▸ hl, ?_⟩
        intro _ hZs
        obtain rfl := List.self_eq_append_right.mp hZs
        rw [hls.eq_nil]

theorem spaced_iff_spreadOver {Ps : List Piece} {m : List Char} :
    Spaced Ps m ↔ SpreadOver Ps (nonblankLines m) := by
  induction m using lines_induction generalizing Ps with
  | line l hl =>
    rw [nonblankLines, linesWhere_line hl]
    by_cases hb : isBlankLine l = true
    · simp only [hb, Bool.not_true, Bool.false_eq_true, if_false, spreadOver_nil_iff]
      rw [isBlankLine_iff] at hb
      constructor
      · exact fun h => h.eq_nil_of_blank hb
      · rintro rfl
        exact .blank hb
    · simp only [hb, Bool.not_false, if_true, spreadOver_singleton_iff]
      rw [isBlankLine_iff] at hb
      refine ⟨fun h => ⟨?_, h⟩, And.right⟩
      rintro rfl
      exact hb (spaced_nil_iff.mp h)
  | step l s hl ih =>
    rw [spaced_append_lineFeed_iff, nonblankLines, linesWhere_append_lineFeed, linesWhere_line hl]
    -- a blank line holds no piece, and any other line at least one
    by_cases hb : isBlankLine l = true
    · simp only [hb, Bool.not_true, Bool.false_eq_true, if_false, List.nil_append]
      rw [isBlankLine_iff] at hb
      constructor
      · rintro ⟨Qs, Rs, rfl, hQ, hR⟩
        rw [hQ.eq_nil_of_blank hb, List.nil_append]
        exact ih.mp hR
      · exact fun h => ⟨[], Ps, rfl, .blank hb, ih.mpr h⟩
    · simp only [hb, Bool.not_false, if_true, List.singleton_append, spreadOver_cons_iff]
      rw [isBlankLine_iff] at hb
      constructor
      · rintro ⟨Qs, Rs, rfl, hQ, hR⟩
        refine ⟨Qs, Rs, rfl, ?_, hQ, ih.mp hR⟩
        rintro rfl
        exact hb (spaced_nil_iff.mp hQ)
      · rintro ⟨Qs, Rs, rfl, -, hQ, hR⟩
        exact ⟨Qs, Rs, rfl, hQ, ih.mpr hR⟩

/-- Every line of a text of some pieces is a text of some of them. -/
theorem exists_spaced_of_mem_splitOn {Ps : List Piece} {m l : List Char} (h : Spaced Ps m)
    (hl : l ∈ m.splitOn '\n') : ∃ Qs, Qs <:+: Ps ∧ Spaced Qs l := by
  induction m using lines_induction generalizing Ps with
  | line m hm =>
    rw [List.splitOn_eq_singleton hm, List.mem_singleton] at hl
    exact ⟨Ps, List.infix_rfl, hl ▸ h⟩
  | step l' s hl' ih =>
    obtain ⟨Qs, Rs, rfl, hQ, hR⟩ := spaced_append_lineFeed_iff.mp h
    rw [List.splitOn_append_cons_self, List.splitOn_eq_singleton hl', List.mem_append,
      List.mem_singleton] at hl
    rcases hl with rfl | hl
    · exact ⟨Qs, (List.prefix_append Qs Rs).isInfix, hQ⟩
    · obtain ⟨Qs', hQs', hl⟩ := ih hR hl
      exact ⟨Qs', hQs'.trans (List.suffix_append Qs Rs).isInfix, hl⟩

end MarkerSweep
