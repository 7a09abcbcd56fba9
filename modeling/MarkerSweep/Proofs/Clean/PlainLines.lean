import MarkerSweep.Proofs.Clean.Stages
import MarkerSweep.Proofs.Marker.Whole
/-!
# Cleaning as a filter of lines

Where every line is plain or a whole marker, cleaning is a filter: it keeps the plain lines and
counts the others (`clean_eq_filter`). Each stage is one, by induction on the cuts (`sweep_filter`):
a match is one whole line with its line feed, so the lines of a text with a match are those before
it, that line, and those after it. What one stage leaves is again such a text, and no rule takes a
line that an earlier one counts.
-/

set_option autoImplicit false

namespace MarkerSweep

open Pattern Text CompiledTable

/-- A line that is not blank, and plain or framed. -/
def IsLaid (l : List Char) : Prop := isBlankLine l = false ∧ (IsPlain l ∨ IsFramed l)

variable {k : MarkerRule} {b : Option Char} {s last : List Char} {cuts : List Cut}

/-! ## One stage -/

theorem exists_of_mem_nonblankLines {l : List Char} (h : l ∈ nonblankLines s) :
    ∃ line ∈ lines s, bare line = l := by
  rw [nonblankLines, linesWhere_eq_filter_bare rfl] at h
  exact List.mem_map.mp (List.mem_of_mem_filter h)

theorem not_covers_of_quiet {g r : List Char} (hq : Quiet k.marker.expr b g r)
    (hb : Boundary b (g ++ r)) (hr : Boundary (lastOr b g) r) : ∀ line ∈ lines g, ¬ k.rule.Covers line := by
  intro line hline hcovers
  rw [k.covers_line_iff hline] at hcovers
  have hne := hcovers.ne_nil k.marker.pieces_ne_nil
  refine not_spaced_of_quiet hq hb hr ?_ hcovers
  rw [nonemptyLines, linesWhere_eq_filter_bare rfl]
  exact List.mem_filter.mpr ⟨List.mem_map_of_mem hline, by simpa using hne⟩

/-- A match among laid lines is one line that the rule covers. -/
theorem match_eq_line (hk : k ∈ MarkerRule.builtin) {g m r : List Char}
    (hs : ∀ line ∈ lines (g ++ (m ++ r)), IsLaid (bare line))
    (hh : (k.marker.expr.ends ⟨lastOr b g, m ++ r⟩).head? = some ⟨lastOr b (g ++ m), r⟩) :
    lines (g ++ (m ++ r)) = lines g ++ m :: lines r ∧ k.rule.Covers m := by
  obtain ⟨hg, hm, hr⟩ := Marker.spaced_of_takes (takes_of_hit hh)
  have hlines := lines_append hg (m ++ r)
  have hblock : ∀ l ∈ nonblankLines m, IsLaid l := by
    intro l hl
    have hmem : l ∈ nonblankLines (g ++ (m ++ r)) := by
      rw [nonblankLines_append (.inl hg), nonblankLines_append hr]
      exact List.mem_append_right _ (List.mem_append_left _ hl)
    obtain ⟨line, hline, rfl⟩ := exists_of_mem_nonblankLines hmem
    exact hs line hline
  obtain ⟨⟨l, hl⟩, hbreak⟩ :=
    MarkerRule.one_line hk (spaced_iff_spreadOver.mp hm) fun l hl => (hblock l hl).2
  have hmr : lines (m ++ r) = lines m ++ lines r := by
    rcases Marker.break_of_head?_ends hbreak hh with hfeed | hnil
    · refine lines_append (b := lastOr b g) ?_ r
      simp only at hfeed
      rw [← lastOr_append, hfeed]
      simp
    · simp only at hnil
      simp [hnil]
  rw [hmr] at hlines
  -- no line of the match is blank, so there is only the one that holds the pieces
  have hnonblank : (lines m).map bare = [l] := by
    rw [← hl, nonblankLines, linesWhere_eq_filter_bare rfl]
    refine (List.filter_eq_self.mpr fun l' hl' => ?_).symm
    obtain ⟨line, hline, rfl⟩ := List.mem_map.mp hl'
    have hlaid := hs line (by rw [hlines]; simp [hline])
    simp [hlaid.1]
  obtain ⟨line, hline, -⟩ := List.map_eq_singleton_iff.mp hnonblank
  have hflat := flatten_lines m
  rw [hline, List.flatten_singleton] at hflat
  rw [hflat] at hline
  refine ⟨by rw [hlines, hline, List.singleton_append], ?_⟩
  have hmem : m ∈ lines m := by simp [hline]
  rw [k.covers_line_iff hmem]
  rcases (line_eq_bare hmem).2 with hbare | hbare
  · rwa [← hbare]
  · rw [hbare] at hm
    exact spaced_concat_lineFeed_iff.mp hm

theorem sweep_filter (hk : k ∈ MarkerRule.builtin) (h : Sweep k.marker.expr b s cuts last)
    (hb : Boundary b s) (hs : ∀ line ∈ lines s, IsLaid (bare line)) :
    weave [] cuts last = ((lines s).filter (¬ k.rule.Covers ·)).flatten ∧
      cuts.length = (lines s).countP (k.rule.Covers ·) := by
  induction h with
  | stop hq _ =>
    have hnone := not_covers_of_quiet hq (by simpa using hb) (.inr (by simp))
    constructor
    · rw [weave, List.filter_eq_self.mpr (by simpa using hnone), flatten_lines]
    · rw [List.length_nil, List.countP_eq_zero.mpr (by simpa using hnone)]
  | @hit b g m r last cuts hq hh _ ih =>
    obtain ⟨hg, -, hr⟩ := Marker.spaced_of_takes (takes_of_hit hh)
    obtain ⟨hlines, hcovers⟩ := match_eq_line hk hs hh
    have hnone := not_covers_of_quiet hq hb (.inl hg)
    have hrest : ∀ line ∈ lines r, IsLaid (bare line) := fun line hline =>
      hs line (by rw [hlines]; simp [hline])
    rw [← lastOr_append] at hr
    obtain ⟨hweave, hcount⟩ := ih hr hrest
    have hkept : (lines g).filter (¬ k.rule.Covers ·) = lines g :=
      List.filter_eq_self.mpr (by simpa using hnone)
    have hzero : (lines g).countP (k.rule.Covers ·) = 0 :=
      List.countP_eq_zero.mpr (by simpa using hnone)
    constructor
    · rw [weave, List.append_nil, hweave, hlines, List.filter_append, hkept, List.flatten_append,
        flatten_lines]
      simp [hcovers]
    · rw [List.length_cons, hcount, hlines, List.countP_append, hzero]
      simp [hcovers]

theorem applyCounted_laid (hk : k ∈ MarkerRule.builtin) (text : String)
    (h : ∀ line ∈ lines text.toList, IsLaid (bare line)) :
    k.compiled.applyCounted text =
      (String.ofList ((lines text.toList).filter (¬ k.rule.Covers ·)).flatten,
        (lines text.toList).countP (k.rule.Covers ·)) := by
  obtain ⟨cuts, last, hsweep, happly⟩ := k.applyCounted_sweep text
  obtain ⟨hweave, hcount⟩ := sweep_filter hk hsweep (.inl (by simp)) h
  rw [happly, hweave, hcount]

/-! ## All stages -/

/-- The rules that exclude each other filter and count the same lines one after another as all at
once. -/
theorem cleanFrom_laid : ∀ {ks : List MarkerRule}, (∀ k ∈ ks, k ∈ MarkerRule.builtin) →
    ks.Pairwise MarkerRule.Excludes → ∀ text : String,
    (∀ line ∈ lines text.toList, IsLaid (bare line)) →
    cleanFrom text (ks.map MarkerRule.compiled) =
      (String.ofList
          ((lines text.toList).filter fun line => ∀ k ∈ ks, ¬ k.rule.Covers line).flatten,
        ks.flatMap fun k => hits k.rule.name ((lines text.toList).countP (k.rule.Covers ·)))
  | [], _, _, text, _ => by
    have hall : (lines text.toList).filter
        (fun line => ∀ k ∈ ([] : List MarkerRule), ¬ k.rule.Covers line) =
        lines text.toList := List.filter_eq_self.mpr (by simp)
    rw [hall, flatten_lines, String.ofList_toList]
    rfl
  | k :: ks, hks, hpair, text, h => by
    obtain ⟨hk, hks⟩ := List.forall_mem_cons.mp hks
    obtain ⟨hexcl, hpair⟩ := List.pairwise_cons.mp hpair
    have hlines :
        lines (String.ofList ((lines text.toList).filter (¬ k.rule.Covers ·)).flatten).toList =
        (lines text.toList).filter (¬ k.rule.Covers ·) := by
      rw [String.toList_ofList, lines_flatten_filter]
    have hlaid : ∀ line ∈ (lines text.toList).filter (¬ k.rule.Covers ·), IsLaid (bare line) :=
      fun line hline => h line (List.mem_of_mem_filter hline)
    -- the first rule takes no line that a later one would count
    have hcount : ∀ k' ∈ ks,
        ((lines text.toList).filter (¬ k.rule.Covers ·)).countP (k'.rule.Covers ·) =
        (lines text.toList).countP (k'.rule.Covers ·) := by
      intro k' hk'
      rw [List.countP_filter]
      refine List.countP_congr fun line hline => ?_
      have hnot : k'.rule.Covers line → ¬ k.rule.Covers line := by
        rw [k'.covers_line_iff hline, k.covers_line_iff hline]
        exact fun hcovers' hcovers => hexcl k' hk' _ hcovers hcovers'
      simpa using hnot
    rw [List.map_cons, cleanFrom_cons, applyCounted_laid hk text h,
      cleanFrom_laid hks hpair _ (by rwa [hlines]), hlines, List.filter_filter, List.flatMap_cons]
    rw [Prod.mk.injEq]
    constructor
    · refine congrArg (fun ls : List (List Char) => String.ofList ls.flatten) ?_
      refine List.filter_congr fun line _ => ?_
      rw [Bool.and_comm]
      simp
    · rw [List.flatMap_congr fun k' hk' => congrArg (hits k'.rule.name) (hcount k' hk')]
      simp only [hits, MarkerRule.compiled]
      split <;> simp

/-! ## Cleaning -/

/-- The rules that take a marker with its line feed. -/
def RuleTable.lineRules : List Rule :=
  [lineCommentMarker, blockCommentMarker, dunderMarker, eslintNoConsole]

theorem RuleTable.mem_lineRules {r : Rule} (h : r ∈ lineRules) :
    ∃ k ∈ MarkerRule.lineRules, k.rule = r :=
  List.mem_map.mp h

/-- Three line feeds in a row make a blank line. -/
theorem not_threeBreaks_of_nonblank (h : ∀ line ∈ lines s, isBlankLine (bare line) = false) :
    ¬ threeBreaks <:+: s := by
  rintro ⟨x, y, rfl⟩
  have hfirst : lines ('\n' :: '\n' :: y) = ['\n'] :: lines ('\n' :: y) :=
    lines_append_lineFeed (l := []) (by simp)
  have hs : x ++ threeBreaks ++ y = x ++ '\n' :: ('\n' :: '\n' :: y) := by simp [threeBreaks]
  have hmem : ['\n'] ∈ lines (x ++ threeBreaks ++ y) := by
    rw [hs, lines_concat_lineFeed_append, hfirst]
    simp
  have := h _ hmem
  simp [bare, isBlankLine] at this

theorem bare_blanks {line : List Char} (hmem : line ∈ lines s) :
    ∃ w, Blank w ∧ line = bare line ++ w := by
  rcases (line_eq_bare hmem).2 with hline | hline
  · exact ⟨[], blank_nil, by simpa using hline⟩
  · exact ⟨['\n'], blank_lineFeed, hline⟩

theorem isLaid_of_plain_or_covered {line : List Char} (hmem : line ∈ lines s)
    (hblank : isBlankLine line = false)
    (hline : IsPlain line ∨ ∃ r ∈ RuleTable.lineRules, r.Covers line) : IsLaid (bare line) := by
  obtain ⟨w, hw, hbare⟩ := bare_blanks hmem
  have htrim : trimmed line = trimmed (bare line) := by
    rw [hbare, trimmed_append_blanks hw, ← hbare]
  constructor
  · rw [← Bool.not_eq_true, isBlankLine_iff] at hblank ⊢
    rw [hbare, blank_append] at hblank
    exact fun hb => hblank ⟨hb, hw⟩
  · rcases hline with hplain | ⟨r, hr, hcovers⟩
    · left
      refine ⟨fun hreport => hplain.1 ?_, htrim ▸ hplain.2⟩
      have hbefore : bare line <:+: bare line ++ w := List.infix_append_left
      rw [← hbare] at hbefore
      exact hreport.trans hbefore
    · obtain ⟨k, hk, rfl⟩ := RuleTable.mem_lineRules hr
      exact .inr (MarkerRule.framed_of_spaced hk ((k.covers_line_iff hmem).mp hcovers))

/-- On laid lines, cleaning takes out what the rules cover and does nothing else. -/
theorem clean_laid {text : String} (h : ∀ line ∈ lines text.toList, IsLaid (bare line)) :
    ∃ out, out.toList =
        ((lines text.toList).filter fun line =>
          ∀ k ∈ MarkerRule.builtin, ¬ k.rule.Covers line).flatten ∧
      clean text = .ok ⟨out, out != text, MarkerRule.builtin.flatMap fun k =>
        hits k.rule.name ((lines text.toList).countP (k.rule.Covers ·))⟩ := by
  have hstages := cleanFrom_laid (fun _ => id) MarkerRule.pairwise_excludes text h
  generalize hout : String.ofList ((lines text.toList).filter fun line =>
    ∀ k ∈ MarkerRule.builtin, ¬ k.rule.Covers line).flatten = out at hstages
  have hlist := congrArg String.toList hout
  rw [String.toList_ofList] at hlist
  -- no line is blank, so there is nothing to collapse
  have hnone : ¬ threeBreaks <:+: out.toList := by
    refine not_threeBreaks_of_nonblank fun line hline => ?_
    rw [← hlist, lines_flatten_filter] at hline
    exact (h line (List.mem_of_mem_filter hline)).1
  have hcollapses := collapses out
  have hcount := hcollapses.idle hnone
  have hsame := String.toList_inj.mp (hcollapses.unchanged hcount)
  refine ⟨out, hlist.symm, ?_⟩
  rw [clean, RuleTable.clean_of_prepare prepare_builtin, CompiledTable.clean, builtinCompiled,
    cleanFrom_append, hstages, cleanFrom_cons, hcount, hsame, cleanFrom]
  simp

/-- A line with all the pieces of a marker is not plain. -/
theorem not_plain_of_spaced (hk : k ∈ MarkerRule.builtin) {line : List Char}
    (h : Spaced k.marker.pieces line) : ¬ IsPlain line := by
  simp only [MarkerRule.builtin, List.mem_cons, List.not_mem_nil, or_false] at hk
  rcases hk with rfl | rfl | rfl | rfl | rfl
  · exact h.not_plain_of_report (by simp [MarkerRule.lineComment]) Piece.report_opens.holds
  · exact h.not_plain_of_report (by simp [MarkerRule.blockComment]) Piece.reportComment_opens.holds
  · exact h.not_plain_of_report (by simp [MarkerRule.dunder]) Piece.dunderReport_holds
  · exact h.not_plain_of_report (by simp [MarkerRule.debugWarn]) Piece.debugText_holds
  · have hlast : Spaced ([.slashes, .disableNextLine] ++ [.noConsole]) line := h
    exact hlast.not_plain_of_noConsole

theorem plain_iff_not_covered {line : List Char} (hmem : line ∈ lines s)
    (hline : IsPlain line ∨ ∃ r ∈ RuleTable.lineRules, r.Covers line) :
    IsPlain line ↔ ∀ k ∈ MarkerRule.builtin, ¬ k.rule.Covers line := by
  constructor
  · intro hplain k hk hcovers
    obtain ⟨w, hw, hbare⟩ := bare_blanks hmem
    have hspaced := ((k.covers_line_iff hmem).mp hcovers).blank_right hw
    rw [← hbare] at hspaced
    exact not_plain_of_spaced hk hspaced hplain
  · intro hnone
    refine hline.resolve_right fun ⟨r, hr, hcovers⟩ => ?_
    obtain ⟨k, hk, rfl⟩ := RuleTable.mem_lineRules hr
    exact hnone k (MarkerRule.lineRules_subset hk) hcovers

/-- A debugging statement is on no laid line. -/
theorem not_covers_debugWarn {line : List Char} (hmem : line ∈ lines s)
    (hlaid : IsLaid (bare line)) :
    ¬ MarkerRule.debugWarn.rule.Covers line := by
  intro hcovers
  have hspaced := (MarkerRule.debugWarn.covers_line_iff hmem).mp hcovers
  have hspread := spreadOver_singleton_iff.mpr ⟨MarkerRule.debugWarn.marker.pieces_ne_nil, hspaced⟩
  refine MarkerRule.not_spreadOver_debugWarn hspread fun l hl => ?_
  rw [List.mem_singleton.mp hl]
  exact hlaid.2

/-- A line that is no plain one is covered. -/
theorem covered_iff_not_plain {line : List Char} (hmem : line ∈ lines s)
    (hline : IsPlain line ∨ ∃ r ∈ RuleTable.lineRules, r.Covers line) :
    (∃ r ∈ RuleTable.lineRules, r.Covers line) ↔ ¬ IsPlain line := by
  refine ⟨fun ⟨r, hr, hcovers⟩ hplain => ?_, hline.resolve_left⟩
  obtain ⟨k, hk, rfl⟩ := RuleTable.mem_lineRules hr
  exact (plain_iff_not_covered hmem hline).mp hplain k (MarkerRule.lineRules_subset hk) hcovers

/-- A text changes by losing lines exactly if there is a line that it loses. -/
theorem eq_of_filter_lines_iff {p : List Char → Bool} {out text : String}
    (h : out.toList = ((lines text.toList).filter p).flatten) :
    out = text ↔ ∀ line ∈ lines text.toList, p line = true := by
  rw [← String.toList_inj, h, ← List.filter_eq_self]
  constructor
  · intro hsame
    have hlines := congrArg lines hsame
    rwa [lines_flatten_filter] at hlines
  · intro hsame
    rw [hsame, flatten_lines]

/-- Where every line is plain or a whole marker of the four rules that take the line feed with it,
cleaning keeps the plain lines as they are and counts the others, each for its rule. -/
theorem clean_eq_filter (text : String)
    (h : ∀ line ∈ lines text.toList, isBlankLine line = false ∧
      (IsPlain line ∨ ∃ r ∈ RuleTable.lineRules, r.Covers line)) :
    clean text = .ok
      ⟨String.ofList ((lines text.toList).filter (IsPlain ·)).flatten,
        decide (∃ line ∈ lines text.toList, ∃ r ∈ RuleTable.lineRules, r.Covers line),
        RuleTable.lineRules.flatMap fun r =>
          hits r.name ((lines text.toList).countP (r.Covers ·))⟩ := by
  have hlaid : ∀ line ∈ lines text.toList, IsLaid (bare line) := fun line hline =>
    isLaid_of_plain_or_covered hline (h line hline).1 (h line hline).2
  have hfilter : (lines text.toList).filter
      (fun line => ∀ k ∈ MarkerRule.builtin, ¬ k.rule.Covers line) =
      (lines text.toList).filter (IsPlain ·) :=
    List.filter_congr fun line hline => by simp [plain_iff_not_covered hline (h line hline).2]
  have hwarn : (lines text.toList).countP (MarkerRule.debugWarn.rule.Covers ·) = 0 :=
    List.countP_eq_zero.mpr fun line hline => by
      simpa using not_covers_debugWarn hline (hlaid line hline)
  obtain ⟨out, hout, hclean⟩ := clean_laid hlaid
  rw [hfilter] at hout
  have hchanged : (out != text) =
      decide (∃ line ∈ lines text.toList, ∃ r ∈ RuleTable.lineRules, r.Covers line) := by
    rw [Bool.eq_iff_iff, bne_iff_ne, decide_eq_true_iff, ne_eq, eq_of_filter_lines_iff hout]
    simp only [decide_eq_true_iff, not_forall, exists_prop]
    refine exists_congr fun line => and_congr_right fun hline => ?_
    exact (covered_iff_not_plain hline (h line hline).2).symm
  have hhits : (MarkerRule.builtin.flatMap fun k =>
      hits k.rule.name ((lines text.toList).countP (k.rule.Covers ·))) =
        RuleTable.lineRules.flatMap fun r =>
          hits r.name ((lines text.toList).countP (r.Covers ·)) := by
    simp only [MarkerRule.builtin, RuleTable.lineRules, List.flatMap_cons, hwarn]
    rfl
  rw [hclean, hchanged, hhits, ← hout, String.ofList_toList]

/-- A text with a marker of each kind. -/
def markedText : String :=
  "a\n // MF_REPORT_X b\n\x7b /* MF_REPORT_Y */ \x7d\n//__MF_REPORT_Z__\n" ++
    "// eslint-disable-next-line no-console\nc"

theorem clean_markedText : (∀ line ∈ lines markedText.toList, isBlankLine line = false ∧
    (IsPlain line ∨ ∃ r ∈ RuleTable.lineRules, r.Covers line)) ∧
    clean markedText = .ok ⟨"a\nc", true, [⟨"line_comment_marker", 1⟩, ⟨"block_comment_marker", 1⟩,
      ⟨"dunder_marker", 1⟩, ⟨"eslint_no_console", 1⟩]⟩ := by
  have h : ∀ line ∈ lines markedText.toList, isBlankLine line = false ∧
      (IsPlain line ∨ ∃ r ∈ RuleTable.lineRules, r.Covers line) := by
    decide +kernel
  refine ⟨h, (clean_eq_filter markedText h).trans (congrArg Except.ok ?_)⟩
  decide +kernel

end MarkerSweep
