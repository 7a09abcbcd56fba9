import MarkerSweep.Proofs.Pattern.Segment
import MarkerSweep.Proofs.Unicode.CharSet
/-!
# Markers as pieces with blanks between them

Every built-in marker is a handful of solid pieces, such as `//` and `MF_REPORT_X`, with blanks
before, between and after them. A piece holds no line feed and does not start with a blank, so a
line feed in a marker always lies in the blanks. That is all the proofs about lines need:
`spaced_append_lineFeed_iff` says that cutting a marker at a line feed divides its pieces among the
two sides, and everything said about markers that spread over several lines follows from it.
-/

set_option autoImplicit false

namespace MarkerSweep

open Unicode Pattern

/-- A text of blanks only. -/
def Blank (w : List Char) : Prop := ∀ c ∈ w, isBlank c = true

instance : DecidablePred Blank := List.decidableBAll _

theorem blank_nil : Blank [] := by simp [Blank]

theorem blank_append {v w : List Char} : Blank (v ++ w) ↔ Blank v ∧ Blank w := by
  simp only [Blank, List.mem_append]
  exact ⟨fun h => ⟨fun c hc => h c (.inl hc), fun c hc => h c (.inr hc)⟩,
    fun h c hc => hc.elim (h.1 c) (h.2 c)⟩

theorem blank_cons {c : Char} {w : List Char} : Blank (c :: w) ↔ isBlank c = true ∧ Blank w := by
  simp [Blank]

theorem Blank.reverse {w : List Char} (h : Blank w) : Blank w.reverse :=
  fun c hc => h c (List.mem_reverse.mp hc)

theorem blank_lineFeed : Blank ['\n'] := by simp [Blank, isBlank_lineFeed]

/-- The first character is there and is a blank. -/
def StartsBlank (m : List Char) : Prop := ∃ c s, m = c :: s ∧ isBlank c = true

/-- A text without a line feed that starts with something other than a blank. -/
structure Solid (s : List Char) : Prop where
  head : ∃ c t, s = c :: t ∧ isBlank c = false
  oneLine : '\n' ∉ s

theorem Solid.not_blank {s : List Char} (h : Solid s) : ¬ Blank s := by
  obtain ⟨c, t, rfl, hc⟩ := h.head
  intro hb
  rw [(blank_cons.mp hb).1] at hc
  cases hc

/-- The first segment takes one of a few characters that are not blanks, and no segment takes a line
feed. -/
def segmentsSolid : List Segment → Bool
  | .one s :: rest =>
    s.ranges.all (fun r => r.1 == r.2 && !isBlank (Char.ofNat r.1)) && !s.contains '\n' &&
      rest.all fun a => !a.chars.contains '\n'
  | _ => false

theorem oneLine_of_segmentsFit : ∀ {as : List Segment} {s : List Char},
    (as.all fun a => !a.chars.contains '\n') = true → SegmentsFit as s → '\n' ∉ s
  | [], _, _, h => by
    rw [show _ = [] from h]
    exact List.not_mem_nil
  | a :: as, _, hall, ⟨m₁, m₂, hm, ha, h⟩ => by
    rw [List.all_cons, Bool.and_eq_true, Bool.not_eq_true'] at hall
    rw [hm, List.mem_append, not_or]
    refine ⟨fun hn => ?_, oneLine_of_segmentsFit hall.2 h⟩
    rw [ha.contains _ hn] at hall
    exact absurd hall.1 (by simp)

theorem solid_of_segmentsSolid {as : List Segment} (h : segmentsSolid as = true) {s : List Char}
    (hs : SegmentsFit as s) : Solid s := by
  match as, h with
  | .one cs :: rest, h =>
    simp only [segmentsSolid, Bool.and_eq_true, List.all_eq_true, beq_iff_eq,
      Bool.not_eq_true'] at h
    obtain ⟨⟨hranges, hfeed⟩, hrest⟩ := h
    obtain ⟨m₁, m₂, rfl, ⟨c, rfl, hc⟩, hm₂⟩ := hs
    constructor
    · refine ⟨c, m₂, rfl, ?_⟩
      -- the range of `c` is `c` alone, and it is checked not to be a blank
      obtain ⟨r, hr, h₁, h₂⟩ := CharSet.exists_of_within hc
      obtain ⟨heq, hblank⟩ := hranges r hr
      have hcr : c = Char.ofNat r.1 := by
        rw [← Char.ofNat_toNat c, show c.toNat = r.1 by omega]
      rw [hcr, hblank]
    · rw [List.singleton_append, List.mem_cons, not_or]
      refine ⟨?_, oneLine_of_segmentsFit (by simpa using hrest) hm₂⟩
      rintro rfl
      rw [hc] at hfeed
      cases hfeed

/-- A stretch of a marker between two runs of blanks. -/
structure Piece where
  segments : List Segment
  /-- At least one blank stands before the piece. -/
  apart : Bool := false
  solid : ∀ s, SegmentsFit segments s → Solid s

namespace Piece

def Fits (P : Piece) (s : List Char) : Prop := SegmentsFit P.segments s

/-- The blanks before a piece, and the piece. -/
def spacedSegments (P : Piece) : List Segment :=
  .run (if P.apart then 1 else 0) true blanks :: P.segments

end Piece

/-- If a blank is needed before the first of some pieces, there is one. -/
def Leads (Ps : List Piece) (m : List Char) : Prop :=
  ∀ P ∈ Ps.head?, P.apart = true → StartsBlank m

/-- A text of some pieces in order, with blanks around and between them. The blank that a piece may
need before it is not asked for at the start of the text. -/
inductive Spaced : List Piece → List Char → Prop
  | blank {w : List Char} : Blank w → Spaced [] w
  | piece {w s m : List Char} {P : Piece} {Ps : List Piece} : Blank w → P.Fits s → Spaced Ps m →
      Leads Ps m → Spaced (P :: Ps) (w ++ (s ++ m))

theorem spaced_nil_iff {m : List Char} : Spaced [] m ↔ Blank m :=
  ⟨fun h => by cases h; assumption, .blank⟩

theorem leads_nil (m : List Char) : Leads [] m := by simp [Leads]

theorem Leads.append {Ps : List Piece} {m n : List Char} (h : Leads Ps m) : Leads Ps (m ++ n) := by
  intro P hP ha
  obtain ⟨c, s, rfl, hc⟩ := h P hP ha
  exact ⟨c, s ++ n, rfl, hc⟩

theorem Leads.blank_append {Ps : List Piece} {w m : List Char} (hw : Blank w) (h : Leads Ps m) :
    Leads Ps (w ++ m) := by
  match w with
  | [] => exact h
  | c :: w => exact fun _ _ _ => ⟨c, w ++ m, rfl, (blank_cons.mp hw).1⟩

namespace Spaced

variable {Ps Qs : List Piece} {m n w : List Char}

theorem not_blank (h : Spaced Ps m) (hne : Ps ≠ []) : ¬ Blank m := by
  cases h with
  | blank => exact absurd rfl hne
  | piece _ hs _ _ =>
    intro hb
    exact (Piece.solid _ _ hs).not_blank (blank_append.mp (blank_append.mp hb).2).1

theorem ne_nil (h : Spaced Ps m) (hne : Ps ≠ []) : m ≠ [] := by
  rintro rfl
  exact h.not_blank hne blank_nil

/-- On a blank line there is room for no piece. -/
theorem eq_nil_of_blank (h : Spaced Ps m) (hm : Blank m) : Ps = [] := by
  by_contra hne
  exact h.not_blank hne hm

theorem blank_left (hw : Blank w) (h : Spaced Ps m) : Spaced Ps (w ++ m) := by
  cases h with
  | blank hm => exact .blank (blank_append.mpr ⟨hw, hm⟩)
  | piece hv hs hm hl =>
    rw [← List.append_assoc]
    exact .piece (blank_append.mpr ⟨hw, hv⟩) hs hm hl

theorem blank_right (h : Spaced Ps m) (hw : Blank w) : Spaced Ps (m ++ w) := by
  induction h with
  | blank hm => exact .blank (blank_append.mpr ⟨hm, hw⟩)
  | piece hv hs _ hl ih =>
    rw [List.append_assoc, List.append_assoc]
    exact .piece hv hs ih hl.append

/-- Two stretches of pieces, one after the other. -/
theorem append (h : Spaced Ps m) (h' : Spaced Qs n) (hl : Leads Qs n) :
    Spaced (Ps ++ Qs) (m ++ n) := by
  induction h with
  | blank hm => exact h'.blank_left hm
  | @piece w s m P Ps hv hs _ hlead ih =>
    rw [List.append_assoc, List.append_assoc]
    refine .piece hv hs ih ?_
    cases Ps with
    | nil =>
      rename_i hm
      exact hl.blank_append (spaced_nil_iff.mp hm)
    | cons => exact hlead.append

end Spaced

/-- The blank before the first piece is not after the last character of a text that
holds the piece. -/
theorem Leads.of_append {Qs Rs : List Piece} {x y : List Char} (h : Leads (Qs ++ Rs) (x ++ y))
    (hx : Spaced Qs x) : Leads Qs x := by
  intro P hP ha
  have hne : Qs ≠ [] := by
    rintro rfl
    simp at hP
  cases x with
  | nil => exact absurd rfl (hx.ne_nil hne)
  | cons c x =>
    obtain ⟨d, s, hd, hblank⟩ := h P (by rw [List.head?_append_of_ne_nil _ hne]; exact hP) ha
    rw [List.cons_append, List.cons.injEq] at hd
    exact ⟨c, x, rfl, hd.1 ▸ hblank⟩

/-- A text that holds no line feed lies on one side of the first line feed after it. -/
theorem exists_append_of_append_lineFeed {s m x y : List Char} (hs : '\n' ∉ s)
    (h : s ++ m = x ++ '\n' :: y) : ∃ v, x = s ++ v ∧ m = v ++ '\n' :: y := by
  rcases List.append_eq_append_iff.mp h with h | ⟨v, rfl, hv⟩
  · exact h
  · match v with
    | [] => exact ⟨[], by simp, hv.symm⟩
    | c :: v =>
      rw [List.cons_append, List.cons.injEq] at hv
      exact absurd (hv.1 ▸ List.mem_append_right x List.mem_cons_self) hs

/-- A line feed in a text of pieces lies between two of them, or before or after all of them. -/
theorem spaced_append_lineFeed_iff {Ps : List Piece} {x y : List Char} :
    Spaced Ps (x ++ '\n' :: y) ↔ ∃ Qs Rs, Ps = Qs ++ Rs ∧ Spaced Qs x ∧ Spaced Rs y := by
  constructor
  · intro h
    generalize hm : x ++ '\n' :: y = m at h
    induction h generalizing x with
    | blank hw =>
      subst hm
      rw [blank_append, blank_cons] at hw
      exact ⟨[], [], rfl, .blank hw.1, .blank hw.2.2⟩
    | @piece w s m P Ps hw hs hrest hl ih =>
      rcases List.append_eq_append_iff.mp hm with ⟨u, rfl, hu⟩ | ⟨u, rfl, hu⟩
      · -- the line feed stands before the piece, and the piece does not start with it
        match u with
        | [] =>
          obtain ⟨c, t, rfl, hc⟩ := (P.solid s hs).head
          rw [List.nil_append, List.cons_append, List.cons.injEq] at hu
          rw [← hu.1, isBlank_lineFeed] at hc
          cases hc
        | c :: u =>
          rw [List.cons_append, List.cons.injEq] at hu
          obtain ⟨rfl, rfl⟩ := hu
          rw [blank_append, blank_cons] at hw
          exact ⟨[], P :: Ps, rfl, .blank hw.1, .piece hw.2.2 hs hrest hl⟩
      · -- the line feed stands behind the piece, which holds none
        obtain ⟨v, rfl, rfl⟩ := exists_append_of_append_lineFeed (P.solid s hs).oneLine hu
        obtain ⟨Qs, Rs, rfl, hQ, hR⟩ := ih rfl
        exact ⟨P :: Qs, Rs, rfl, .piece hw hs hQ (hl.of_append hQ), hR⟩
  · rintro ⟨Qs, Rs, rfl, hQ, hR⟩
    have hl : Leads Rs ('\n' :: y) := fun _ _ _ => ⟨'\n', y, rfl, isBlank_lineFeed⟩
    exact hQ.append (hR.blank_left blank_lineFeed) hl

/-- A line feed at the end of a line is a blank behind the pieces. -/
theorem spaced_concat_lineFeed_iff {Ps : List Piece} {m : List Char} :
    Spaced Ps (m ++ ['\n']) ↔ Spaced Ps m := by
  refine ⟨fun h => ?_, fun h => h.blank_right blank_lineFeed⟩
  obtain ⟨Qs, Rs, rfl, hQ, hR⟩ := spaced_append_lineFeed_iff.mp h
  rw [hR.eq_nil_of_blank blank_nil, List.append_nil]
  exact hQ

end MarkerSweep
