import Mathlib.Data.List.Infix
import MarkerSweep.Proofs.Clean.Stages
import MarkerSweep.Proofs.Marker.Words
/-!
# The lines that cleaning keeps

A marker may spread over lines, so a line may go although it is no marker by itself: a lone `//`
above a report goes with it. `Inert` says which lines can never go that way. It looks at nothing but
the trimmed line and asks whether the line could hold some pieces of a marker and nothing else.

The cases follow the fragments of the markers: which pieces stand on the line, and which of them is
first.
-/

set_option autoImplicit false

namespace MarkerSweep

open Pattern Text

/-! ## Inert lines -/

/-- A brace, blanks and the start of a comment. -/
def opensComment : List Char → Bool
  | [] => false
  | c :: rest => c == '\x7b' && rest.dropWhile Unicode.isBlank == "/*".toList

/-- The pieces that are one word. -/
def loneWords : List String := ["//", "\x7b", "/*", "\x7d", "console.warn(", "no-console"]

/-- The beginnings of lines that hold a report, or pieces in front of one. -/
def reportHeads : List String :=
  ["//", "\x7b", "/*", "console.warn(", "MF_REPORT_", "__MF_REPORT_", "\"MF_REPORT_", "'MF_REPORT_"]

def directiveHeads : List String := ["//", "eslint-disable-next-line"]

def IsLoneWord (s : List Char) : Prop := s ∈ loneWords.map String.toList ∨ opensComment s = true

def IsReport (s : List Char) : Prop :=
  "MF_REPORT_".toList <:+: s ∧ ∃ w ∈ reportHeads, w.toList <+: s

def IsDirective (s : List Char) : Prop :=
  "eslint-disable-next-line".toList <:+: s ∧ ∃ w ∈ directiveHeads, w.toList <+: s

/-- A line that is not blank and does not look like a part of a marker. -/
def Inert (line : List Char) : Prop :=
  trimmed line ≠ [] ∧ ¬ IsLoneWord (trimmed line) ∧ ¬ IsReport (trimmed line) ∧
    ¬ IsDirective (trimmed line)

instance : DecidablePred IsLoneWord := fun _ => inferInstanceAs (Decidable (_ ∨ _))

instance : DecidablePred IsReport := fun _ => inferInstanceAs (Decidable (_ ∧ _))

instance : DecidablePred IsDirective := fun _ => inferInstanceAs (Decidable (_ ∧ _))

instance : DecidablePred Inert := fun _ => inferInstanceAs (Decidable (_ ∧ _))

/-! ## Parts of markers are not inert -/

variable {P R : Piece} {Qs : List Piece} {l : List Char} {w : String}

theorem not_inert_of_nil (h : Spaced [] l) : ¬ Inert l := fun hl => hl.1 h.trimmed_eq_nil

theorem not_inert_of_word (h : Spaced [P] l) (hP : P.Is w) (hw : w ∈ loneWords) : ¬ Inert l := by
  have htight : ∀ w ∈ loneWords, tight w.toList = true := by decide
  intro hl
  refine hl.2.1 (.inl ?_)
  rw [h.trimmed_eq hP (htight w hw)]
  exact List.mem_map_of_mem hw

theorem not_inert_of_report (h : Spaced (P :: Qs) l)
    (hP : ∀ s, P.Fits s → ∃ w ∈ reportHeads, w.toList <+: s) (hR : R ∈ P :: Qs)
    (hw : R.Holds "MF_REPORT_") : ¬ Inert l := by
  intro hl
  exact hl.2.2.1 ⟨infix_trimmed (by decide) (h.infix_of_mem hR hw),
    h.exists_prefix_trimmed hP (by decide)⟩

theorem not_inert_of_directive (h : Spaced (P :: Qs) l)
    (hP : ∀ s, P.Fits s → ∃ w ∈ directiveHeads, w.toList <+: s)
    (hR : Piece.disableNextLine ∈ P :: Qs) :
    ¬ Inert l := by
  have hw : Piece.disableNextLine.Holds "eslint-disable-next-line" :=
    fun s hs => (Piece.disableNextLine_is.opens s hs).isInfix
  intro hl
  exact hl.2.2.2 ⟨infix_trimmed (by decide) (h.infix_of_mem hR hw),
    h.exists_prefix_trimmed hP (by decide)⟩

/-- An opened comment is more than one word, and still no report. -/
theorem not_inert_of_openedComment (h : Spaced [Piece.openBrace, Piece.openComment] l) :
    ¬ Inert l := by
  obtain ⟨x, s, y, rfl, hs, hy, hx⟩ := h.exists_of_cons
  obtain rfl := Piece.openBrace_is s hs
  obtain ⟨b, s, u, rfl, hs, hu, hb⟩ := hy.exists_of_cons
  obtain rfl := Piece.openComment_is s hs
  have htight : tight ("\x7b".toList ++ (b ++ "/*".toList)) = true := by
    have hhead : Unicode.isBlank '\x7b' = false := by decide
    have hlast : Unicode.isBlank '/' = false ∧ Unicode.isBlank '*' = false := by decide
    simp [tight, hhead, hlast, List.getLast?_cons]
  have hl : x ++ ("\x7b".toList ++ (b ++ ("/*".toList ++ u))) =
      x ++ ("\x7b".toList ++ (b ++ "/*".toList) ++ u) := by simp
  have htrim : trimmed (x ++ ("\x7b".toList ++ (b ++ "/*".toList) ++ u)) =
      "\x7b".toList ++ (b ++ "/*".toList) := by
    rw [trimmed_append htight, dropWhile_of_all hx, dropWhile_of_all (spaced_nil_iff.mp hu).reverse]
    simp
  have hdrop : (b ++ "/*".toList).dropWhile Unicode.isBlank = "/*".toList := by
    rw [dropWhile_append_of_head (by decide), dropWhile_of_all hb, List.nil_append]
  rw [hl]
  intro hinert
  refine hinert.2.1 (.inr ?_)
  rw [htrim]
  simpa [opensComment] using hdrop

/-- The pieces of a marker of `//` and a report. -/
theorem not_inert_of_slashes {K : Piece} (hw : w ∈ reportHeads) (hO : K.Opens w)
    (hH : K.Holds "MF_REPORT_") (hQs : P :: Qs <:+: [.slashes, K]) (h : Spaced (P :: Qs) l) :
    ¬ Inert l := by
  simp only [List.infix_cons_iff, List.cons_prefix_cons, List.infix_nil, reduceCtorEq,
    or_false] at hQs
  rcases hQs with ⟨rfl, hQs⟩ | ⟨rfl, -⟩
  · rcases List.prefix_cons_iff.mp hQs with rfl | ⟨_, rfl, -⟩
    · exact not_inert_of_word h Piece.slashes_is (by decide)
    · exact not_inert_of_report h (Piece.slashes_is.opens.exists_word (by decide)) (by simp) hH
  · exact not_inert_of_report h (hO.exists_word hw) (by simp) hH

theorem not_inert_of_lineComment (hQs : P :: Qs <:+: MarkerRule.lineComment.marker.pieces)
    (h : Spaced (P :: Qs) l) : ¬ Inert l :=
  not_inert_of_slashes (by decide) Piece.report_opens Piece.report_opens.holds hQs h

theorem not_inert_of_blockComment (hQs : P :: Qs <:+: MarkerRule.blockComment.marker.pieces)
    (h : Spaced (P :: Qs) l) : ¬ Inert l := by
  simp only [MarkerRule.blockComment, List.infix_cons_iff, List.cons_prefix_cons, List.infix_nil,
    reduceCtorEq, or_false] at hQs
  have hH := Piece.reportComment_opens.holds
  rcases hQs with ⟨rfl, hQs⟩ | ⟨rfl, hQs⟩ | ⟨rfl, -⟩ | ⟨rfl, hQs⟩
  · -- from the brace on: alone, with the start of the comment, or with the report too
    rcases List.prefix_cons_iff.mp hQs with rfl | ⟨_, rfl, hrest⟩
    · exact not_inert_of_word h Piece.openBrace_is (by decide)
    · rcases List.prefix_cons_iff.mp hrest with rfl | ⟨_, rfl, -⟩
      · exact not_inert_of_openedComment h
      · exact not_inert_of_report h (Piece.openBrace_is.opens.exists_word (by decide)) (by simp) hH
  · rcases List.prefix_cons_iff.mp hQs with rfl | ⟨_, rfl, -⟩
    · exact not_inert_of_word h Piece.openComment_is (by decide)
    · exact not_inert_of_report h (Piece.openComment_is.opens.exists_word (by decide)) (by simp) hH
  · exact not_inert_of_report h (Piece.reportComment_opens.exists_word (by decide)) (by simp) hH
  · obtain rfl := List.prefix_nil.mp hQs
    exact not_inert_of_word h Piece.closeBrace_is (by decide)

theorem not_inert_of_dunder (hQs : P :: Qs <:+: MarkerRule.dunder.marker.pieces)
    (h : Spaced (P :: Qs) l) : ¬ Inert l :=
  not_inert_of_slashes (by decide) Piece.dunderReport_opens Piece.dunderReport_holds hQs h

theorem not_inert_of_debugWarn (hQs : P :: Qs <:+: MarkerRule.debugWarn.marker.pieces)
    (h : Spaced (P :: Qs) l) : ¬ Inert l := by
  simp only [MarkerRule.debugWarn, List.infix_cons_iff, List.cons_prefix_cons, List.infix_nil,
    reduceCtorEq, or_false] at hQs
  have hH := Piece.debugText_holds
  rcases hQs with ⟨rfl, hQs⟩ | ⟨rfl, -⟩
  · rcases List.prefix_cons_iff.mp hQs with rfl | ⟨_, rfl, -⟩
    · exact not_inert_of_word h Piece.warnCall_is (by decide)
    · exact not_inert_of_report h (Piece.warnCall_is.opens.exists_word (by decide)) (by simp) hH
  · -- either quote may stand in front of the report
    refine not_inert_of_report h (fun s hs => ?_) (by simp) hH
    have hquotes : ∀ w ∈ ["\"MF_REPORT_", "'MF_REPORT_"], w ∈ reportHeads := by decide
    obtain ⟨w, hw, hpre⟩ := Piece.debugText_opens hs
    exact ⟨w, hquotes w hw, hpre⟩

theorem not_inert_of_noConsole (hQs : P :: Qs <:+: MarkerRule.noConsole.marker.pieces)
    (h : Spaced (P :: Qs) l) : ¬ Inert l := by
  simp only [MarkerRule.noConsole, List.infix_cons_iff, List.cons_prefix_cons, List.infix_nil,
    reduceCtorEq, or_false] at hQs
  rcases hQs with ⟨rfl, hQs⟩ | ⟨rfl, -⟩ | ⟨rfl, hQs⟩
  · rcases List.prefix_cons_iff.mp hQs with rfl | ⟨_, rfl, -⟩
    · exact not_inert_of_word h Piece.slashes_is (by decide)
    · exact not_inert_of_directive h (Piece.slashes_is.opens.exists_word (by decide)) (by simp)
  · exact not_inert_of_directive h (Piece.disableNextLine_is.opens.exists_word (by decide))
      (by simp)
  · obtain rfl := List.prefix_nil.mp hQs
    exact not_inert_of_word h Piece.noConsole_is (by decide)

/-- A line that holds nothing but pieces of a built-in marker is not inert. -/
theorem not_inert_of_spaced {k : MarkerRule} (hk : k ∈ MarkerRule.builtin)
    (hQs : Qs <:+: k.marker.pieces) (h : Spaced Qs l) : ¬ Inert l := by
  cases Qs with
  | nil => exact not_inert_of_nil h
  | cons P Qs =>
    simp only [MarkerRule.builtin, List.mem_cons, List.not_mem_nil, or_false] at hk
    rcases hk with rfl | rfl | rfl | rfl | rfl
    · exact not_inert_of_lineComment hQs h
    · exact not_inert_of_blockComment hQs h
    · exact not_inert_of_dunder hQs h
    · exact not_inert_of_debugWarn hQs h
    · exact not_inert_of_noConsole hQs h

/-! ## Cleaning -/

/-- Cleaning only drops lines and changes none; the inert lines all stay. Empty lines come and go
with the collapsing of blank lines. -/
theorem clean_keeps_lines (text : String) : ∃ o, clean text = .ok o ∧
    (nonemptyLines o.text.toList).Sublist (text.toList.splitOn '\n') ∧
      (o.text.toList.splitOn '\n').filter (Inert ·) =
        (text.toList.splitOn '\n').filter (Inert ·) := by
  obtain ⟨u, out, hits, count, hcleared, hcollapses, hclean⟩ := exists_stages text
  refine ⟨_, hclean, ?_, ?_⟩
  · rw [nonemptyLines, hcollapses.keeps _ rfl]
    exact hcleared.sublist.trans List.filter_sublist
  · have hnil : decide (Inert []) = false := by decide
    have hout := hcollapses.keeps (Inert ·) hnil
    have hu := hcleared.keeps (Inert ·) (fun k hk Qs l hQs hl => by
      simpa using not_inert_of_spaced hk hQs hl) hnil
    exact hout.trans hu

end MarkerSweep
