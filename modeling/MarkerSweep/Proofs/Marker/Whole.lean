import Mathlib.Data.List.Infix
import MarkerSweep.Proofs.Marker.Words
/-!
# Whole markers and plain lines

Where every line is either a whole marker or plain, no marker spreads over two lines (`one_line`).
If one did, its report or its `no-console` would be on a line that is not plain, hence a whole
marker by itself, and such a line begins with `//`, or begins with a brace and ends with one. The
line of the report then does so too, and that is only possible if all the pieces are on it.

No line is a whole marker of two kinds (`pairwise_excludes`), so it does not matter which rule comes
first.
-/

set_option autoImplicit false

namespace MarkerSweep

open Unicode Pattern Text

/-- A line that a report or a directive cannot stand on. -/
def IsPlain (line : List Char) : Prop :=
  ¬ "MF_REPORT_".toList <:+: line ∧ ¬ "no-console".toList <:+ trimmed line

instance : DecidablePred IsPlain := fun _ => inferInstanceAs (Decidable (_ ∧ _))

/-- How the whole markers look that take the line feed with them. -/
def IsFramed (line : List Char) : Prop :=
  "//".toList <+: trimmed line ∨ "\x7b".toList <+: trimmed line ∧ "\x7d".toList <:+ trimmed line

/-- Neither word begins with the other. -/
def Apart (v w : String) : Prop := ¬ v.toList <+: w.toList ∧ ¬ w.toList <+: v.toList

instance (v w : String) : Decidable (Apart v w) := inferInstanceAs (Decidable (_ ∧ _))

theorem Apart.not_begins {v w : String} {s : List Char} (h : Apart v w) (hv : v.toList <+: s) :
    ¬ w.toList <+: s := by
  intro hw
  exact (List.prefix_or_prefix_of_prefix hv hw).elim h.1 h.2

variable {P Q K : Piece} {Ps Qs Rs : List Piece} {l line : List Char} {v w : String}

namespace Spaced

/-- A line that begins otherwise is not framed. -/
theorem not_framed {ws : List String} (h : Spaced (P :: Ps) line)
    (hP : ∀ s, P.Fits s → ∃ w ∈ ws, w.toList <+: s) (ht : ∀ w ∈ ws, tight w.toList = true)
    (hapart : ∀ w ∈ ws, Apart w "//" ∧ Apart w "\x7b") : ¬ IsFramed line := by
  obtain ⟨w, hw, hpre⟩ := h.exists_prefix_trimmed hP ht
  rintro (hframe | ⟨hframe, -⟩)
  · exact (hapart w hw).1.not_begins hpre hframe
  · exact (hapart w hw).2.not_begins hpre hframe

/-- Pieces that begin with different words are not on one line. -/
theorem clash (h : Spaced (P :: Ps) line) (h' : Spaced (Q :: Qs) line) (hP : P.Opens v)
    (hQ : Q.Opens w) (hv : tight v.toList = true) (hw : tight w.toList = true)
    (hapart : Apart v w) : False :=
  hapart.not_begins (h.prefix_trimmed hP hv) (h'.prefix_trimmed hQ hw)

/-- Behind a first piece that is a given word, the rest of the line is the same. -/
theorem tails (h : Spaced (P :: Ps) line) (h' : Spaced (P :: Qs) line) (hP : P.Is w) :
    ∃ rest, Spaced Ps rest ∧ Spaced Qs rest := by
  obtain ⟨x, s, y, rfl, hs, hy, hx⟩ := h.exists_of_cons
  obtain ⟨x', s', y', heq, hs', hy', hx'⟩ := h'.exists_of_cons
  obtain ⟨c, t, hc, hblank⟩ := (P.solid s hs).head
  have hdrop : ∀ {x y : List Char}, Blank x → (x ++ (s ++ y)).dropWhile isBlank = s ++ y := by
    intro x y hx
    rw [dropWhile_append_of_head (by simp [hc, hblank]), dropWhile_of_all hx, List.nil_append]
  have hss : s = s' := by rw [hP s hs, hP s' hs']
  subst hss
  have htail := congrArg (List.dropWhile isBlank) heq
  rw [hdrop hx, hdrop hx'] at htail
  obtain rfl := List.append_cancel_left htail
  exact ⟨y, hy, hy'⟩

theorem not_plain_of_report (h : Spaced Qs line) (hK : K ∈ Qs) (hw : K.Holds "MF_REPORT_") :
    ¬ IsPlain line := fun hplain => hplain.1 (h.infix_of_mem hK hw)

theorem not_plain_of_noConsole (h : Spaced (Qs ++ [Piece.noConsole]) line) : ¬ IsPlain line :=
  fun hplain => hplain.2 (h.suffix_trimmed Piece.noConsole_is.closes (by decide))

end Spaced

namespace MarkerRule

/-- The marker rules that take the line feed after a marker with them. -/
def lineRules : List MarkerRule := [lineComment, blockComment, dunder, noConsole]

theorem lineRules_subset : lineRules ⊆ builtin := by
  intro k hk
  simp only [lineRules, List.mem_cons, List.not_mem_nil, or_false] at hk
  rcases hk with rfl | rfl | rfl | rfl <;> simp [builtin]

theorem framed_of_spaced {k : MarkerRule} (hk : k ∈ lineRules) (h : Spaced k.marker.pieces line) :
    IsFramed line := by
  simp only [lineRules, List.mem_cons, List.not_mem_nil, or_false] at hk
  rcases hk with rfl | rfl | rfl | rfl
  · exact .inl (h.prefix_trimmed Piece.slashes_is.opens (by decide))
  · have hlast : Spaced ([.openBrace, .openComment, .reportComment] ++ [.closeBrace]) line := h
    exact .inr ⟨h.prefix_trimmed Piece.openBrace_is.opens (by decide),
      hlast.suffix_trimmed Piece.closeBrace_is.closes (by decide)⟩
  · exact .inl (h.prefix_trimmed Piece.slashes_is.opens (by decide))
  · exact .inl (h.prefix_trimmed Piece.slashes_is.opens (by decide))

/-! ## A marker is on one line -/

/-- No plain and no framed line holds a report and begins otherwise. -/
theorem absurd_of_report {ws : List String} (h : Spaced (P :: Qs) line)
    (hline : IsPlain line ∨ IsFramed line) (hK : K ∈ P :: Qs) (hw : K.Holds "MF_REPORT_")
    (hP : ∀ s, P.Fits s → ∃ w ∈ ws, w.toList <+: s) (ht : ∀ w ∈ ws, tight w.toList = true)
    (hapart : ∀ w ∈ ws, Apart w "//" ∧ Apart w "\x7b") : False :=
  hline.elim (h.not_plain_of_report hK hw) (h.not_framed hP ht hapart)

/-- The pieces that can share a plain or framed line with a given one are all the pieces. -/
def Gathers (Xs : List Piece) (K : Piece) (Ys : List Piece) : Prop :=
  ∀ Xs' Ys' line, Xs' <:+ Xs → Ys' <+: Ys → Spaced (Xs' ++ K :: Ys') line →
    IsPlain line ∨ IsFramed line → Xs' = Xs ∧ Ys' = Ys

/-- A framed line with a report on it holds the `//` of the report as well. -/
theorem gathers_slashes (hO : K.Opens w) (hH : K.Holds "MF_REPORT_") (ht : tight w.toList = true)
    (hapart : Apart w "//" ∧ Apart w "\x7b") : Gathers [.slashes] K [] := by
  intro Xs' Ys' line hX hY h hline
  obtain rfl := List.prefix_nil.mp hY
  rcases List.suffix_cons_iff.mp hX with rfl | hX
  · exact ⟨rfl, rfl⟩
  · obtain rfl := List.suffix_nil.mp hX
    have hP := hO.exists_word (List.mem_singleton_self _)
    have hno := absurd_of_report h hline (by simp) hH hP (by simpa using ht) (by simpa using hapart)
    exact hno.elim

theorem gathers_lineComment : Gathers [.slashes] .report [] :=
  gathers_slashes Piece.report_opens Piece.report_opens.holds (by decide) (by decide)

theorem gathers_dunder : Gathers [.slashes] .dunderReport [] :=
  gathers_slashes Piece.dunderReport_opens Piece.dunderReport_holds (by decide) (by decide)

theorem gathers_noConsole : Gathers [.slashes, .disableNextLine] .noConsole [] := by
  intro Xs' Ys' line hX hY h hline
  obtain rfl := List.prefix_nil.mp hY
  have hframed := hline.resolve_left h.not_plain_of_noConsole
  rcases List.suffix_cons_iff.mp hX with rfl | hX
  · exact ⟨rfl, rfl⟩
  -- without the `//` the line begins with one of the two words
  rcases List.suffix_cons_iff.mp hX with rfl | hX
  · have hP := Piece.disableNextLine_is.opens.exists_word (List.mem_singleton_self _)
    exact (Spaced.not_framed h hP (by decide) (by decide) hframed).elim
  · obtain rfl := List.suffix_nil.mp hX
    have hP := Piece.noConsole_is.opens.exists_word (List.mem_singleton_self _)
    exact (Spaced.not_framed h hP (by decide) (by decide) hframed).elim

theorem gathers_blockComment : Gathers [.openBrace, .openComment] .reportComment [.closeBrace] := by
  intro Xs' Ys' line hX hY h hline
  have hholds := Piece.reportComment_opens.holds
  rcases List.suffix_cons_iff.mp hX with rfl | hX
  · rcases List.prefix_cons_iff.mp hY with rfl | ⟨_, rfl, hrest⟩
    · -- the comment is closed, but no brace is there to close the frame
      have hlast : Spaced ([.openBrace, .openComment] ++ [.reportComment]) line := h
      have hstar := hlast.suffix_trimmed Piece.reportComment_closes (by decide)
      have hnot : ¬ IsPlain line := Spaced.not_plain_of_report h (by simp) hholds
      have hbrace := Spaced.prefix_trimmed h Piece.openBrace_is.opens (by decide)
      have hapart : Apart "\x7b" "//" := by decide
      rcases hline.resolve_left hnot with hslash | ⟨-, hclose⟩
      · exact (hapart.not_begins hbrace hslash).elim
      · exact absurd (List.suffix_or_suffix_of_suffix hstar hclose) (by decide)
    · rw [List.prefix_nil.mp hrest]
      exact ⟨rfl, rfl⟩
  -- the brace is on a line above, so this line begins with the comment or the report
  rcases List.suffix_cons_iff.mp hX with rfl | hX
  · have hP := Piece.openComment_is.opens.exists_word (List.mem_singleton_self _)
    exact (absurd_of_report h hline (by simp) hholds hP (by decide) (by decide)).elim
  · obtain rfl := List.suffix_nil.mp hX
    have hP := Piece.reportComment_opens.exists_word (List.mem_singleton_self _)
    exact (absurd_of_report h hline (by simp) hholds hP (by decide) (by decide)).elim

theorem one_line_of_gathers {Ps Xs Ys : List Piece} {block : List (List Char)}
    (hK : Gathers Xs K Ys) (hPs : Ps = Xs ++ K :: Ys) (h : SpreadOver Ps block)
    (hblock : ∀ l ∈ block, IsPlain l ∨ IsFramed l) :
    ∃ l, block = [l] := by
  obtain ⟨Xs', Ys', l, hX, hY, hmem, hl, hone⟩ := h.exists_line hPs
  obtain ⟨hX, hY⟩ := hK Xs' Ys' l hX hY hl (hblock l hmem)
  exact ⟨l, hone hX hY⟩

/-- A debugging statement is on no plain or framed lines at all. -/
theorem not_spreadOver_debugWarn {block : List (List Char)}
    (h : SpreadOver debugWarn.marker.pieces block) (hblock : ∀ l ∈ block, IsPlain l ∨ IsFramed l) : False := by
  have hpieces : debugWarn.marker.pieces = [.warnCall] ++ .debugText :: [] := rfl
  obtain ⟨Xs', Ys', l, hX, hY, hmem, hl, -⟩ := h.exists_line hpieces
  have hline := hblock l hmem
  rcases List.suffix_cons_iff.mp hX with rfl | hX
  · have hP := Piece.warnCall_is.opens.exists_word (List.mem_singleton_self _)
    exact absurd_of_report hl hline (by simp) Piece.debugText_holds hP (by decide) (by decide)
  · obtain rfl := List.suffix_nil.mp hX
    exact absurd_of_report hl hline (by simp) Piece.debugText_holds (fun _ => Piece.debugText_opens)
      (by decide) (by decide)

/-- On plain and framed lines a marker takes one line and the line feed after it. -/
theorem one_line {k : MarkerRule} {block : List (List Char)} (hk : k ∈ builtin)
    (h : SpreadOver k.marker.pieces block) (hblock : ∀ l ∈ block, IsPlain l ∨ IsFramed l) :
    (∃ l, block = [l]) ∧ k.marker.takesBreak = true := by
  simp only [builtin, List.mem_cons, List.not_mem_nil, or_false] at hk
  rcases hk with rfl | rfl | rfl | rfl | rfl
  · exact ⟨one_line_of_gathers gathers_lineComment rfl h hblock, rfl⟩
  · exact ⟨one_line_of_gathers gathers_blockComment rfl h hblock, rfl⟩
  · exact ⟨one_line_of_gathers gathers_dunder rfl h hblock, rfl⟩
  · exact (not_spreadOver_debugWarn h hblock).elim
  · exact ⟨one_line_of_gathers gathers_noConsole rfl h hblock, rfl⟩

/-! ## No line is a marker of two kinds -/

/-- No line is a whole marker of both rules. -/
def Excludes (k k' : MarkerRule) : Prop :=
  ∀ line, Spaced k.marker.pieces line → ¬ Spaced k'.marker.pieces line

theorem not_both_of_first (hP : P.Opens v) (hQ : Q.Opens w) (hv : tight v.toList = true)
    (hw : tight w.toList = true) (hapart : Apart v w) :
    ∀ line, Spaced (P :: Ps) line → ¬ Spaced (Q :: Qs) line :=
  fun _ h h' => h.clash h' hP hQ hv hw hapart

theorem not_both_of_second (hP : P.Opens v) (hQ : Q.Opens w) (hv : tight v.toList = true)
    (hw : tight w.toList = true) (hapart : Apart v w) :
    ∀ line, Spaced (.slashes :: P :: Ps) line → ¬ Spaced (.slashes :: Q :: Qs) line := by
  intro line h h'
  obtain ⟨rest, hP', hQ'⟩ := h.tails h' Piece.slashes_is
  exact hP'.clash hQ' hP hQ hv hw hapart

theorem pairwise_excludes : builtin.Pairwise Excludes := by
  have hslashes := Piece.slashes_is.opens
  have hbrace := Piece.openBrace_is.opens
  have hwarn := Piece.warnCall_is.opens
  have hdirective := Piece.disableNextLine_is.opens
  refine List.pairwise_cons.mpr ⟨?_, List.pairwise_cons.mpr ⟨?_, List.pairwise_cons.mpr ⟨?_, ?_⟩⟩⟩
  · simp only [List.forall_mem_cons, List.not_mem_nil, false_imp_iff, implies_true, and_true]
    refine ⟨?_, ?_, ?_, ?_⟩
    · exact not_both_of_first hslashes hbrace (by decide) (by decide) (by decide)
    · exact not_both_of_second Piece.report_opens Piece.dunderReport_opens (by decide) (by decide)
        (by decide)
    · exact not_both_of_first hslashes hwarn (by decide) (by decide) (by decide)
    · exact not_both_of_second Piece.report_opens hdirective (by decide) (by decide) (by decide)
  · simp only [List.forall_mem_cons, List.not_mem_nil, false_imp_iff, implies_true, and_true]
    refine ⟨?_, ?_, ?_⟩
    · exact not_both_of_first hbrace hslashes (by decide) (by decide) (by decide)
    · exact not_both_of_first hbrace hwarn (by decide) (by decide) (by decide)
    · exact not_both_of_first hbrace hslashes (by decide) (by decide) (by decide)
  · simp only [List.forall_mem_cons, List.not_mem_nil, false_imp_iff, implies_true, and_true]
    refine ⟨?_, ?_⟩
    · exact not_both_of_first hslashes hwarn (by decide) (by decide) (by decide)
    · exact not_both_of_second Piece.dunderReport_opens hdirective (by decide) (by decide)
        (by decide)
  · exact List.pairwise_pair.mpr
      (not_both_of_first hwarn hslashes (by decide) (by decide) (by decide))

end MarkerRule

end MarkerSweep
