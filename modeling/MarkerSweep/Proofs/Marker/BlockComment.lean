import MarkerSweep.Proofs.Marker.Words
/-!
# Where a block comment ends

The pattern for block comments goes on lazily up to the end of a comment, but what it looks for there is
more than `*/`: blanks, a closing brace and blanks up to the end of a line have to follow. So a match
passes over every `*/` that something else follows, and takes the code behind it along
(`MarkerRule.blockComment_stops`). It holds one `*/` more than it has passed over, and there are lines
with code between two comments that are removed as a whole
(`MarkerRule.blockComment_stops_codeBetween`).
-/

set_option autoImplicit false

namespace MarkerSweep

open Unicode Pattern Text

/-! ## A lazy run before the rest of a pattern -/

namespace Pattern

variable {cs : CharSet} {q : Place}

/-- A lazy run is no longer than it has to be for the rest to match. -/
theorem head?_lazyLoop {f : Place → List Place} : ∀ {n : Nat} {p : Place},
    ((loopEnds false (Expr.set cs).ends n p).flatMap f).head? = some q →
      ∃ m r, p.rest = m ++ r ∧ (∀ c ∈ m, cs.contains c = true) ∧ q ∈ f ⟨lastOr p.before m, r⟩ ∧
        ∀ x y, m = x ++ y → y ≠ [] → f ⟨lastOr p.before x, y ++ r⟩ = []
  | n, p, h => by
    cases hp : f p with
    | cons q' ends =>
      -- the rest matches right here, so the run is empty
      have hq : q' = q := by
        cases n with
        | zero => simpa [loopEnds, hp] using h
        | succ n => simpa [loopEnds, hp] using h
      refine ⟨[], p.rest, rfl, by simp, ?_, ?_⟩
      · change q ∈ f p
        rw [hp, hq]
        exact List.mem_cons_self
      · intro x y hxy hy
        exact absurd (List.append_eq_nil_iff.mp hxy.symm).2 hy
    | nil =>
      cases n with
      | zero => simp [loopEnds, hp] at h
      | succ n =>
        -- one more round is needed
        rw [loopEnds, if_neg Bool.false_ne_true, List.flatMap_cons, hp, List.nil_append] at h
        obtain ⟨b, _ | ⟨c, s⟩⟩ := p
        · simp [Expr.ends] at h
        · by_cases hc : cs.contains c = true
          · have hstep : (Expr.set cs).ends ⟨b, c :: s⟩ = [⟨some c, s⟩] := by simp [Expr.ends, hc]
            rw [hstep, List.flatMap_singleton] at h
            obtain ⟨m, r, hm, hall, hq, hlazy⟩ := head?_lazyLoop h
            obtain rfl : s = m ++ r := hm
            refine ⟨c :: m, r, rfl, List.forall_mem_cons.mpr ⟨hc, hall⟩, hq, ?_⟩
            rintro (_ | ⟨d, x⟩) y hxy hy
            · rw [← show c :: m = y from hxy]
              exact hp
            · obtain ⟨hcd, hm⟩ := List.cons.inj hxy
              subst hcd
              exact hlazy x y hm hy
          · have hstep : (Expr.set cs).ends ⟨b, c :: s⟩ = [] := by simp [Expr.ends, hc]
            rw [hstep] at h
            cases h

/-- The preferred match of a sequence with a lazy run in it. -/
theorem head?_ends_lazy {as bs : List Expr} {p : Place}
    (h : ((Expr.ofParts (as ++ .rep 0 none false (.set cs) :: bs)).ends p).head? = some q) :
    ∃ p' m r, p' ∈ (Expr.ofParts as).ends p ∧ p'.rest = m ++ r ∧ (∀ c ∈ m, cs.contains c = true) ∧
      q ∈ (Expr.ofParts bs).ends ⟨lastOr p'.before m, r⟩ ∧
      ∀ x y, m = x ++ y → y ≠ [] → (Expr.ofParts bs).ends ⟨lastOr p'.before x, y ++ r⟩ = [] := by
  rw [Expr.ends_ofParts_append, List.head?_flatMap] at h
  obtain ⟨p', hp', h⟩ := List.exists_of_findSome?_eq_some h
  rw [Expr.ends_ofParts_cons, Expr.ends, roundsEnds, List.flatMap_singleton] at h
  obtain ⟨m, r, hm⟩ := head?_lazyLoop h
  exact ⟨p', m, r, hp', hm⟩

end Pattern

/-! ## The parts of the pattern -/

/-- What closes a comment. -/
def closing : List Char := "*/".toList

/-- After the `*/` of a marker: blanks, a brace, and blanks up to the end of a line. -/
def EndsLine (z : List Char) : Prop :=
  ∃ w v r, z = w ++ ("\x7d".toList ++ (v ++ r)) ∧ Blank w ∧ Blank v ∧ AtLineEnd r

/-- A text that opens a block comment with a marker. -/
def IsOpening (m : List Char) : Prop :=
  ∃ w₁ w₂ w₃ name, m = w₁ ++ ("\x7b".toList ++ (w₂ ++ ("/*".toList ++ (w₃ ++
      ("MF_REPORT_".toList ++ name))))) ∧ Blank w₁ ∧ Blank w₂ ∧ Blank w₃ ∧ 1 ≤ name.length ∧
    ∀ c ∈ name, nameChars.contains c = true

/-- The blanks that a pattern allows between its pieces. -/
def spaces : List Segment := [.run 0 true blanks]

def openingSegments : List Segment :=
  spaces ++ (literal "\x7b" ++ (spaces ++ (literal "/*" ++ (spaces ++
    (literal "MF_REPORT_" ++ [.run 1 true nameChars])))))

def closingSegments : List Segment := literal "*/" ++ (spaces ++ (literal "\x7d" ++ spaces))

/-- What has to follow the lazy part of the pattern. -/
def closingParts : List Expr :=
  closingSegments.map Segment.expr ++ [.look .lineFinish, Marker.optionalBreak]

theorem blockComment_expr : MarkerRule.blockComment.marker.expr =
    .ofParts ((.look .lineStart :: openingSegments.map Segment.expr) ++
      .rep 0 none false (.set CharSet.notLineFeed) :: closingParts) := rfl

theorem segmentsFit_spaces {w : List Char} : SegmentsFit spaces w ↔ Blank w := by
  constructor
  · rintro ⟨w, _, rfl, hw, rfl⟩
    rw [List.append_nil]
    exact (fits_blanks.mp hw).2
  · exact fun hw => ⟨w, [], (List.append_nil w).symm, fits_blanks.mpr ⟨Nat.zero_le _, hw⟩, rfl⟩

theorem isOpening_of_takes {b : Option Char} {m r : List Char}
    (h : (Expr.ofParts (.look .lineStart :: openingSegments.map Segment.expr)).Takes b m r) :
    IsOpening m := by
  obtain ⟨_, m, rfl, hlook, h⟩ := Expr.takes_ofParts_cons.mp h
  obtain rfl := (Expr.takes_look.mp hlook).1
  rw [List.nil_append]
  replace h : SegmentsFit openingSegments m := takes_segments.mp h
  obtain ⟨w₁, _, rfl, h₁, h⟩ := segmentsFit_append.mp h
  obtain ⟨_, _, rfl, hbrace, h⟩ := segmentsFit_append.mp h
  obtain ⟨w₂, _, rfl, h₂, h⟩ := segmentsFit_append.mp h
  obtain ⟨_, _, rfl, hcomment, h⟩ := segmentsFit_append.mp h
  obtain ⟨w₃, _, rfl, h₃, h⟩ := segmentsFit_append.mp h
  obtain ⟨_, _, rfl, hword, h⟩ := segmentsFit_append.mp h
  obtain ⟨name, _, rfl, ⟨hlen, hname⟩, rfl⟩ := h
  obtain rfl := segmentsFit_literal.mp hbrace
  obtain rfl := segmentsFit_literal.mp hcomment
  obtain rfl := segmentsFit_literal.mp hword
  rw [List.append_nil]
  exact ⟨w₁, w₂, w₃, name, rfl, segmentsFit_spaces.mp h₁, segmentsFit_spaces.mp h₂,
    segmentsFit_spaces.mp h₃, hlen, hname⟩

/-- The rest of the pattern matches right where a comment is closed at the end of its line. -/
theorem takes_closingParts {b : Option Char} {m r : List Char} :
    (Expr.ofParts closingParts).Takes b m r ↔
      ∃ w v, m = closing ++ (w ++ ("\x7d".toList ++ v)) ∧ Blank w ∧
        ∃ v₀ n, v = v₀ ++ n ∧ Blank v₀ ∧ AtLineEnd (n ++ r) ∧ (n = [] ∨ n = ['\n']) := by
  have hclose : ∀ {b : Option Char} {n r : List Char},
      (Expr.ofParts [.look .lineFinish, Marker.optionalBreak]).Takes b n r ↔
        AtLineEnd (n ++ r) ∧ (n = [] ∨ n = ['\n']) := by
    intro b n r
    simpa using @Marker.takes_close true b n r
  rw [closingParts, takes_segments_append]
  constructor
  · rintro ⟨_, n, rfl, h, hlast⟩
    obtain ⟨hend, hn⟩ := hclose.mp hlast
    obtain ⟨_, _, rfl, hcomment, h⟩ := segmentsFit_append.mp h
    obtain ⟨w, _, rfl, hw, h⟩ := segmentsFit_append.mp h
    obtain ⟨_, v, rfl, hbrace, hv⟩ := segmentsFit_append.mp h
    obtain rfl := segmentsFit_literal.mp hcomment
    obtain rfl := segmentsFit_literal.mp hbrace
    exact ⟨w, v ++ n, by simp [closing], segmentsFit_spaces.mp hw, v, n, rfl,
      segmentsFit_spaces.mp hv, hend, hn⟩
  · rintro ⟨w, _, rfl, hw, v, n, rfl, hv, hend, hn⟩
    refine ⟨closing ++ (w ++ ("\x7d".toList ++ v)), n, by simp, ?_, hclose.mpr ⟨hend, hn⟩⟩
    refine segmentsFit_append.mpr ⟨_, _, rfl, segmentsFit_literal.mpr rfl, ?_⟩
    refine segmentsFit_append.mpr ⟨w, _, rfl, segmentsFit_spaces.mpr hw, ?_⟩
    exact segmentsFit_append.mpr ⟨_, v, rfl, segmentsFit_literal.mpr rfl, segmentsFit_spaces.mpr hv⟩

/-- Where a comment is closed at the end of its line, the rest of the pattern does match. -/
theorem EndsLine.ends_ne_nil {z : List Char} (h : EndsLine z) (b : Option Char) :
    (Expr.ofParts closingParts).ends ⟨b, closing ++ z⟩ ≠ [] := by
  obtain ⟨w, v, r, rfl, hw, hv, hend⟩ := h
  have htakes : (Expr.ofParts closingParts).Takes b (closing ++ (w ++ ("\x7d".toList ++ v))) r :=
    takes_closingParts.mpr ⟨w, v, rfl, hw, v, [], (List.append_nil v).symm, hv, hend, .inl rfl⟩
  rw [Expr.Takes] at htakes
  simp only [List.append_assoc] at htakes
  exact List.ne_nil_of_mem htakes

/-! ## Counting -/

/-- How often comments are closed in a text. -/
def closings : List Char → Nat
  | '*' :: '/' :: s => closings s + 1
  | _ :: s => closings s
  | [] => 0

theorem closings_cons {c : Char} (hc : c ≠ '*') (s : List Char) : closings (c :: s) = closings s := by
  rw [closings]
  intro s' h
  exact absurd h hc

theorem closings_append_left {w : List Char} (hw : '*' ∉ w) (s : List Char) :
    closings (w ++ s) = closings s := by
  induction w with
  | nil => rfl
  | cons c w ih =>
    rw [List.cons_append, closings_cons fun h => hw (h ▸ List.mem_cons_self),
      ih fun h => hw (List.mem_cons_of_mem c h)]

/-- What opens a comment closes none, unless a slash follows. -/
theorem closings_openComment {s : List Char} (hs : ∀ c ∈ s.head?, c ≠ '/') :
    closings ("/*".toList ++ s) = closings s := by
  change closings ('/' :: '*' :: s) = closings s
  rw [closings_cons (by decide), closings]
  rintro s' - rfl
  exact hs '/' rfl rfl

theorem closings_append_closing (s t : List Char) :
    closings (s ++ (closing ++ t)) = closings s + 1 + closings t := by
  fun_induction closings s with
  | case1 s ih =>
    change closings ('*' :: '/' :: (s ++ (closing ++ t))) = _
    rw [closings, ih]
    omega
  | case2 c s h ih =>
    rw [List.cons_append, closings, ih]
    -- a star at the end of the text is not followed by a slash either
    rintro s' rfl hs
    cases s with
    | nil => simp [closing] at hs
    | cons d s => exact h s rfl (by rw [(List.cons.inj hs).1])
  | case3 =>
    change closings ('*' :: '/' :: t) = _
    rw [closings, Nat.zero_add, Nat.add_comm]

theorem closings_eq_zero_iff {s : List Char} : closings s = 0 ↔ ¬ closing <:+: s := by
  constructor
  · rintro h ⟨x, y, rfl⟩
    rw [List.append_assoc, closings_append_closing] at h
    omega
  · intro h
    fun_induction closings s with
    | case1 s => exact absurd ⟨[], s, rfl⟩ h
    | case2 c s _ ih => exact ih fun hs => h (hs.trans (List.suffix_cons c s).isInfix)
    | case3 => rfl

theorem not_star_of_blank {w : List Char} (hw : Blank w) : '*' ∉ w := by
  intro h
  exact absurd (hw _ h) (by decide +kernel)

/-- Opening a comment closes none. -/
theorem closings_append_opening {m : List Char} (h : IsOpening m) (s : List Char) :
    closings (m ++ s) = closings s := by
  obtain ⟨w₁, w₂, w₃, name, rfl, h₁, h₂, h₃, -, hname⟩ := h
  have hslash : ∀ c ∈ (w₃ ++ ("MF_REPORT_".toList ++ (name ++ s))).head?, c ≠ '/' := by
    cases w₃ with
    | nil => simp
    | cons d w =>
      rintro c hc rfl
      obtain rfl : d = '/' := by simpa using hc
      exact absurd (h₃ '/' List.mem_cons_self) (by decide +kernel)
  have hstar : '*' ∉ name := fun hc => absurd (hname _ hc) (by decide +kernel)
  simp only [List.append_assoc]
  rw [closings_append_left (not_star_of_blank h₁), closings_append_left (by decide),
    closings_append_left (not_star_of_blank h₂), closings_openComment hslash,
    closings_append_left (not_star_of_blank h₃), closings_append_left (by decide),
    closings_append_left hstar]

/-! ## The matches -/

/-- The parts of a match, and what follows it: the comment is opened with a marker, it goes on on the
same line, and it is closed there. -/
structure ClosesLine (front inner back after : List Char) : Prop where
  opens : IsOpening front
  oneLine : '\n' ∉ inner
  closes : ∃ w v, back = w ++ ("\x7d".toList ++ v) ∧ Blank w ∧ Blank v
  endsLine : EndsLine (back ++ after)
  /-- No `*/` before that has the end of a line behind it. -/
  first : ∀ x y z, inner = x ++ y → y ≠ [] → y ++ (closing ++ (back ++ after)) = closing ++ z →
    ¬ EndsLine z

namespace ClosesLine

variable {front inner back after : List Char}

/-- Of all that closes a comment the match holds what it has passed over and the one it ends with. -/
theorem closings_eq (h : ClosesLine front inner back after) :
    closings (front ++ (inner ++ (closing ++ back))) = closings inner + 1 := by
  obtain ⟨w, v, rfl, hw, hv⟩ := h.closes
  have hback : closings (w ++ ("\x7d".toList ++ v)) = 0 := by
    rw [closings_append_left (not_star_of_blank hw), closings_append_left (by decide),
      ← List.append_nil v, closings_append_left (not_star_of_blank hv), closings]
  rw [closings_append_opening h.opens, closings_append_closing, hback]

end ClosesLine

theorem closesLine_of_head? {b : Option Char} {m r : List Char}
    (h : (MarkerRule.blockComment.marker.expr.ends ⟨b, m ++ r⟩).head? = some ⟨lastOr b m, r⟩) :
    ∃ front inner back, m = front ++ (inner ++ (closing ++ back)) ∧
      ClosesLine front inner back r := by
  rw [blockComment_expr] at h
  obtain ⟨p, inner, s, hp, hinner, hline, hq, hlazy⟩ := head?_ends_lazy h
  obtain ⟨front, rest, hfront, rfl, htakes⟩ := Expr.takes_of_mem_ends hp
  obtain rfl : rest = inner ++ s := hinner
  obtain ⟨t, r', rfl, hr, hclose⟩ := Expr.takes_of_mem_ends hq
  obtain ⟨-, rfl⟩ := Place.mk.inj hr
  obtain ⟨w, v, rfl, hw, v₀, n, rfl, hv, hend, hn⟩ := takes_closingParts.mp hclose
  refine ⟨front, inner, w ++ ("\x7d".toList ++ (v₀ ++ n)), ?_, isOpening_of_takes htakes, ?_,
    ⟨w, v₀ ++ n, rfl, hw, ?_⟩, ⟨w, v₀, n ++ r, by simp, hw, hv, hend⟩, ?_⟩
  · have hm : m ++ r =
        (front ++ (inner ++ (closing ++ (w ++ ("\x7d".toList ++ (v₀ ++ n)))))) ++ r := by
      rw [hfront]
      simp
    exact List.append_cancel_right hm
  · intro hfeed
    exact absurd (hline _ hfeed) (by decide +kernel)
  · refine blank_append.mpr ⟨hv, ?_⟩
    rcases hn with rfl | rfl
    · exact blank_nil
    · exact blank_lineFeed
  · intro x y z hxy hy hz hends
    refine hends.ends_ne_nil (lastOr (lastOr b front) x) ?_
    rw [← hz]
    simpa using hlazy x y hxy hy

/-- Every match of the rule in a text ends with the first `*/` that is followed by blanks, a closing
brace and blanks up to the end of a line. It holds every `*/` before that, too. -/
theorem MarkerRule.blockComment_stops (text : String) :
    ∀ m ∈ blockComment.compiled.regex.findAll text.toList, ∃ before taken after,
      text.toList = before ++ (taken ++ after) ∧
      m = ⟨before.length, before.length + taken.length⟩ ∧
      ∃ front inner back, taken = front ++ (inner ++ (closing ++ back)) ∧
        ClosesLine front inner back after ∧ closings taken = closings inner + 1 ∧
        (closings taken = 1 ↔ ¬ closing <:+: inner) := by
  intro m hm
  obtain ⟨cuts, last, hsweep, hfind⟩ := CompiledRule.findAll_sweep (r := blockComment.compiled) rfl
    blockComment.loopsConsume blockComment.consumes text.toList
  rw [hfind] at hm
  obtain ⟨before, taken, after, htext, hplace, hends⟩ := hsweep.exists_of_mem_spans hm
  rw [lastOr_append] at hends
  obtain ⟨front, inner, back, rfl, hcloses⟩ := closesLine_of_head? hends
  refine ⟨before, _, after, htext, by simpa using hplace, front, inner, back, rfl, hcloses,
    hcloses.closings_eq, ?_⟩
  rw [hcloses.closings_eq, ← closings_eq_zero_iff]
  omega

/-- A line with a call between two comments. -/
def codeBetween : String := "\x7b /* MF_REPORT_A */ keep(); /* b */ \x7d\n"

theorem sweep_codeBetween :
    Sweep MarkerRule.blockComment.marker.expr none codeBetween.toList [⟨[], codeBetween.toList⟩] [] :=
  .single (by decide +kernel) (by decide +kernel)

/-- The whole line is a match, call and both comments. -/
theorem MarkerRule.blockComment_stops_codeBetween :
    ⟨0, 38⟩ ∈ blockComment.compiled.regex.findAll codeBetween.toList ∧
      (∃ front inner back, codeBetween.toList = front ++ (inner ++ (closing ++ back)) ∧
        ClosesLine front inner back [] ∧ closing <:+: inner) ∧
      closings codeBetween.toList = 2 := by
  have hmem : ⟨0, 38⟩ ∈ blockComment.compiled.regex.findAll codeBetween.toList := by
    obtain ⟨cuts, last, hsweep, hfind⟩ := CompiledRule.findAll_sweep (r := blockComment.compiled) rfl
      blockComment.loopsConsume blockComment.consumes codeBetween.toList
    rw [hfind, (hsweep.unique sweep_codeBetween).1]
    exact List.mem_singleton.mpr (by decide +kernel)
  have htwo : closings codeBetween.toList = 2 := by decide +kernel
  obtain ⟨before, taken, after, htext, hplace, front, inner, back, rfl, hcloses, hcount, hone⟩ :=
    blockComment_stops codeBetween _ hmem
  -- the match is as long as the text, so nothing stands around it
  obtain ⟨hbefore, htaken⟩ := Match.mk.inj hplace
  obtain rfl := List.length_eq_zero_iff.mp hbefore.symm
  rw [List.nil_append] at htext
  obtain rfl : after = [] := by
    have hlength := congrArg List.length htext
    rw [List.length_append, show codeBetween.toList.length = 38 by decide +kernel] at hlength
    rw [List.length_nil, Nat.zero_add] at htaken
    exact List.length_eq_zero_iff.mp (by omega)
  rw [List.append_nil] at htext
  refine ⟨hmem, ⟨front, inner, back, htext, hcloses, ?_⟩, htwo⟩
  by_contra hnone
  rw [← hone, ← htext, htwo] at hnone
  exact absurd hnone (by decide)

end MarkerSweep
