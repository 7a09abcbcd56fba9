import MarkerSweep.Proofs.Marker.Builtin
/-!
# Words in the pieces

What a line looks like that holds pieces of a built-in marker: how its trimmed text begins, what it
contains and how it ends. A piece is followed or preceded by blanks only where it is the last or the
first of the line, so the words that pieces begin and end with can be read off the trimmed line.
-/

set_option autoImplicit false

namespace MarkerSweep

open Unicode Pattern Text

theorem segmentsFit_map_one {w s : List Char} :
    SegmentsFit (w.map fun c => .one (.singleton c)) s ↔ s = w := by
  induction w generalizing s with
  | nil => simp [SegmentsFit]
  | cons c w ih =>
    rw [List.map_cons]
    constructor
    · rintro ⟨_, s₂, rfl, ⟨d, rfl, hd⟩, h⟩
      rw [CharSet.contains_singleton.mp hd, ih.mp h, List.singleton_append]
    · rintro rfl
      exact ⟨[c], w, rfl, ⟨c, rfl, CharSet.contains_singleton.mpr rfl⟩, ih.mpr rfl⟩

theorem segmentsFit_literal {w : String} {s : List Char} :
    SegmentsFit (literal w) s ↔ s = w.toList := segmentsFit_map_one

theorem segmentsFit_literal_self (w : String) : SegmentsFit (literal w) w.toList :=
  segmentsFit_literal.mpr rfl

namespace Piece

/-- Every text of the piece is a given word. -/
def Is (P : Piece) (w : String) : Prop := ∀ s, P.Fits s → s = w.toList

/-- Every text of the piece begins with a given word. -/
def Opens (P : Piece) (w : String) : Prop := ∀ s, P.Fits s → w.toList <+: s

/-- Every text of the piece contains a given word. -/
def Holds (P : Piece) (w : String) : Prop := ∀ s, P.Fits s → w.toList <:+: s

/-- Every text of the piece ends with a given word. -/
def Closes (P : Piece) (w : String) : Prop := ∀ s, P.Fits s → w.toList <:+ s

variable {P : Piece} {w : String}

theorem is_of_segments (h : P.segments = literal w) : P.Is w := by
  intro s hs
  rw [Fits, h] at hs
  exact segmentsFit_literal.mp hs

theorem Is.opens (h : P.Is w) : P.Opens w := fun s hs => h s hs ▸ List.prefix_rfl

theorem Is.closes (h : P.Is w) : P.Closes w := fun s hs => h s hs ▸ List.suffix_rfl

theorem Opens.holds (h : P.Opens w) : P.Holds w := fun s hs => (h s hs).isInfix

theorem Opens.exists_word {ws : List String} (h : P.Opens w) (hw : w ∈ ws) :
    ∀ s, P.Fits s → ∃ w ∈ ws, w.toList <+: s := fun s hs => ⟨w, hw, h s hs⟩

theorem opens_of_segments {as : List Segment} (h : P.segments = literal w ++ as) : P.Opens w := by
  intro s hs
  rw [Fits, h] at hs
  obtain ⟨s₁, s₂, rfl, h₁, -⟩ := segmentsFit_append.mp hs
  rw [segmentsFit_literal.mp h₁]
  exact List.prefix_append ..

theorem closes_of_segments {as : List Segment} (h : P.segments = as ++ literal w) : P.Closes w := by
  intro s hs
  rw [Fits, h] at hs
  obtain ⟨s₁, s₂, rfl, -, h₂⟩ := segmentsFit_append.mp hs
  rw [segmentsFit_literal.mp h₂]
  exact List.suffix_append ..

theorem holds_of_segments {as bs : List Segment} (h : P.segments = as ++ (literal w ++ bs)) :
    P.Holds w := by
  intro s hs
  rw [Fits, h] at hs
  obtain ⟨s₁, s₂, rfl, -, h₂⟩ := segmentsFit_append.mp hs
  obtain ⟨s₃, s₄, rfl, h₃, -⟩ := segmentsFit_append.mp h₂
  rw [segmentsFit_literal.mp h₃]
  exact List.infix_append' ..

theorem slashes_is : slashes.Is "//" := is_of_segments rfl

theorem openBrace_is : openBrace.Is "\x7b" := is_of_segments rfl

theorem openComment_is : openComment.Is "/*" := is_of_segments rfl

theorem closeBrace_is : closeBrace.Is "\x7d" := is_of_segments rfl

theorem warnCall_is : warnCall.Is "console.warn(" := is_of_segments rfl

theorem disableNextLine_is : disableNextLine.Is "eslint-disable-next-line" := is_of_segments rfl

theorem noConsole_is : noConsole.Is "no-console" := is_of_segments rfl

theorem report_opens : report.Opens "MF_REPORT_" := opens_of_segments (List.append_assoc ..)

theorem reportComment_opens : reportComment.Opens "MF_REPORT_" := by
  have h : reportComment.segments = literal "MF_REPORT_" ++
      ([.run 1 true nameChars] ++ ([anything false] ++ literal "*/")) := rfl
  exact opens_of_segments h

theorem reportComment_closes : reportComment.Closes "*/" := closes_of_segments rfl

theorem dunderReport_opens : dunderReport.Opens "__MF_REPORT_" :=
  opens_of_segments (List.append_assoc ..)

theorem dunderReport_holds : dunderReport.Holds "MF_REPORT_" := by
  have h : dunderReport.segments = literal "__" ++ (literal "MF_REPORT_" ++
      ([.run 1 true nameChars] ++ literal "__")) := rfl
  exact holds_of_segments h

theorem debugText_holds : debugText.Holds "MF_REPORT_" := by
  have h : debugText.segments = [.one quotes] ++ (literal "MF_REPORT_" ++
      (literal "DEBUG:" ++ ([anything false] ++ literal ";"))) := rfl
  exact holds_of_segments h

/-- A debugging text begins with its word, after either of the quotes. -/
theorem debugText_opens_quoted {s : List Char} (hs : debugText.Fits s) :
    ∃ w ∈ ["\"MF_REPORT_DEBUG:", "'MF_REPORT_DEBUG:"], w.toList <+: s := by
  have h : debugText.segments = .one quotes :: (literal "MF_REPORT_DEBUG:" ++
      ([anything false] ++ literal ";")) := rfl
  rw [Fits, h] at hs
  obtain ⟨_, s₂, rfl, ⟨c, rfl, hc⟩, h₂⟩ := hs
  obtain ⟨s₃, s₄, rfl, h₃, -⟩ := segmentsFit_append.mp h₂
  obtain rfl := segmentsFit_literal.mp h₃
  obtain ⟨r, hr, h₁, h₂⟩ := CharSet.exists_of_within hc
  have hr : r = ('"'.toNat, '"'.toNat) ∨ r = ('\''.toNat, '\''.toNat) := by
    simpa [quotes] using hr
  rcases hr with rfl | rfl
  · obtain rfl : c = '"' := Char.toNat_inj.mp (Nat.le_antisymm h₂ h₁)
    exact ⟨_, List.mem_cons_self, s₄, rfl⟩
  · obtain rfl : c = '\'' := Char.toNat_inj.mp (Nat.le_antisymm h₂ h₁)
    exact ⟨_, List.mem_cons_of_mem _ List.mem_cons_self, s₄, rfl⟩

/-- A debugging text begins like a report, after either of the quotes. -/
theorem debugText_opens {s : List Char} (hs : debugText.Fits s) :
    ∃ w ∈ ["\"MF_REPORT_", "'MF_REPORT_"], w.toList <+: s := by
  have hshort : ∀ w ∈ ["\"MF_REPORT_DEBUG:", "'MF_REPORT_DEBUG:"],
      ∃ v ∈ ["\"MF_REPORT_", "'MF_REPORT_"], v.toList <+: w.toList := by
    decide
  obtain ⟨w, hw, hpre⟩ := debugText_opens_quoted hs
  obtain ⟨v, hv, hvw⟩ := hshort w hw
  exact ⟨v, hv, hvw.trans hpre⟩

end Piece

/-! ## Words of a trimmed line -/

namespace Spaced

variable {P : Piece} {Ps Qs : List Piece} {l : List Char} {w : String}

/-- Where the first piece stands. -/
theorem exists_of_cons (h : Spaced (P :: Qs) l) :
    ∃ x s y, l = x ++ (s ++ y) ∧ P.Fits s ∧ Spaced Qs y ∧ Blank x := by
  cases h with
  | piece hv hs hm _ => exact ⟨_, _, _, rfl, hs, hm, hv⟩

/-- Where a piece stands. -/
theorem exists_of_append_cons (h : Spaced (Ps ++ P :: Qs) l) :
    ∃ x s y, l = x ++ (s ++ y) ∧ P.Fits s ∧ Spaced Qs y := by
  induction Ps generalizing l with
  | nil =>
    obtain ⟨x, s, y, rfl, hs, hy, -⟩ := exists_of_cons h
    exact ⟨x, s, y, rfl, hs, hy⟩
  | cons Q Ps ih =>
    cases h with
    | @piece v s m _ _ hv hs hm _ =>
      obtain ⟨x, s', y, rfl, hs', hy⟩ := ih hm
      exact ⟨v ++ (s ++ x), s', y, by simp, hs', hy⟩

/-- A line begins with one of the words that its first piece begins with. -/
theorem exists_prefix_trimmed {ws : List String} (h : Spaced (P :: Qs) l)
    (hw : ∀ s, P.Fits s → ∃ w ∈ ws, w.toList <+: s) (ht : ∀ w ∈ ws, tight w.toList = true) :
    ∃ w ∈ ws, w.toList <+: trimmed l := by
  obtain ⟨x, s, y, rfl, hs, -, hx⟩ := h.exists_of_cons
  obtain ⟨w, hmem, s', rfl⟩ := hw s hs
  refine ⟨w, hmem, ?_⟩
  rw [List.append_assoc, trimmed_append (ht w hmem), dropWhile_of_all hx]
  exact List.prefix_append ..

/-- A line begins with the word that its first piece begins with. -/
theorem prefix_trimmed (h : Spaced (P :: Qs) l) (hw : P.Opens w) (ht : tight w.toList = true) :
    w.toList <+: trimmed l := by
  obtain ⟨_, hmem, hl⟩ := h.exists_prefix_trimmed (hw.exists_word (List.mem_singleton_self w))
    (by simpa using ht)
  exact List.mem_singleton.mp hmem ▸ hl

/-- A line contains the words that its pieces contain. -/
theorem infix_of_mem (h : Spaced Qs l) (hP : P ∈ Qs) (hw : P.Holds w) : w.toList <:+: l := by
  obtain ⟨Rs, Rs', rfl⟩ := List.append_of_mem hP
  obtain ⟨x, s, y, rfl, hs, -⟩ := h.exists_of_append_cons
  exact (hw s hs).trans (List.infix_append' ..)

/-- A line ends with the word that its last piece ends with. -/
theorem suffix_trimmed (h : Spaced (Qs ++ [P]) l) (hw : P.Closes w)
    (ht : tight w.toList = true) : w.toList <:+ trimmed l := by
  obtain ⟨x, s, y, rfl, hs, hy⟩ := h.exists_of_append_cons
  obtain ⟨s', rfl⟩ := hw s hs
  have hback : (y.reverse.dropWhile isBlank).reverse = [] := by
    rw [dropWhile_of_all (spaced_nil_iff.mp hy).reverse, List.reverse_nil]
  have hl : x ++ (s' ++ w.toList ++ y) = (x ++ s') ++ (w.toList ++ y) := by simp
  rw [hl, trimmed_append ht, hback, List.append_nil]
  exact List.suffix_append ..

/-- A line of one piece that is a word is that word. -/
theorem trimmed_eq (h : Spaced [P] l) (hw : P.Is w) (ht : tight w.toList = true) :
    trimmed l = w.toList := by
  obtain ⟨x, s, y, rfl, hs, hy, hx⟩ := h.exists_of_cons
  obtain rfl := hw s hs
  rw [trimmed_append ht, dropWhile_of_all hx,
    dropWhile_of_all (spaced_nil_iff.mp hy).reverse]
  simp

/-- The trimmed text of a line without pieces is empty. -/
theorem trimmed_eq_nil (h : Spaced [] l) : trimmed l = [] := by
  rw [trimmed, dropWhile_of_all (spaced_nil_iff.mp h)]
  rfl

end Spaced

end MarkerSweep
