import MarkerSweep.Proofs.Marker.Matches
import MarkerSweep.Proofs.Marker.Whole
/-!
# Lines with a debugging statement

A debugging statement may have code behind it on its line. What becomes of that code depends on how
it ends. If it ends with a semicolon, the pattern takes that semicolon for the end of the statement
and the code goes with it; otherwise the pattern does not match and the statement stays, too
(`RuleTable.debugWarnStatement_line`). So code behind a statement is not safe
(`RuleTable.debugWarnStatement_takes_code`).

The line feed stays where the statement does, and where the line below holds anything. The blanks at
the end of the pattern run on over blank lines, so nothing is said of a statement above one.
-/

set_option autoImplicit false

namespace MarkerSweep

open Unicode Pattern Text

/-! ## The last character that is not a blank -/

def lastInk? (s : List Char) : Option Char := s.reverse.find? fun c => !isBlank c

theorem lastInk?_append (s t : List Char) : lastInk? (s ++ t) = (lastInk? t).or (lastInk? s) := by
  rw [lastInk?, List.reverse_append, List.find?_append]
  rfl

theorem lastInk?_eq_none_iff {s : List Char} : lastInk? s = none ↔ Blank s := by
  simp [lastInk?, Blank]

theorem lastInk?_concat {c : Char} (hc : isBlank c = false) (s : List Char) :
    lastInk? (s ++ [c]) = some c := by
  simp [lastInk?, hc]

/-- Behind the last character that is not a blank there are only blanks. -/
theorem exists_of_lastInk? {s : List Char} {c : Char} (h : lastInk? s = some c) :
    ∃ t w, s = t ++ (c :: w) ∧ Blank w := by
  obtain ⟨-, w, t, hs, hw⟩ := List.find?_eq_some_iff_append.mp h
  refine ⟨t.reverse, w.reverse, ?_, fun d hd => ?_⟩
  · rw [← List.reverse_reverse s, hs]
    simp
  · simpa using hw d (List.mem_reverse.mp hd)

/-! ## The line -/

/-- A line that starts with a debugging statement. -/
structure StatementLine where
  indent : List Char
  quote : Char
  body : List Char
  /-- What stands behind the statement. -/
  rest : List Char
  indent_blank : Blank indent
  indent_oneLine : '\n' ∉ indent
  quote_mem : quote = '"' ∨ quote = '\''
  body_plain : ∀ c ∈ body, c ≠ '"' ∧ c ≠ '\'' ∧ c ≠ ';' ∧ c ≠ '\n'
  rest_oneLine : '\n' ∉ rest

namespace StatementLine

/-- The statement from its quote to its semicolon. -/
def argument (l : StatementLine) : List Char :=
  l.quote :: ("MF_REPORT_DEBUG:".toList ++ (l.body ++ l.quote :: ");".toList))

def statement (l : StatementLine) : List Char :=
  l.indent ++ ("console.warn(".toList ++ l.argument)

def chars (l : StatementLine) : List Char := l.statement ++ l.rest

/-- Nothing stands behind the statement, or something that ends with a semicolon. -/
def Closed (l : StatementLine) : Prop := ∀ c ∈ lastInk? l.rest, c = ';'

instance (l : StatementLine) : Decidable l.Closed := Option.decidableForallMem (lastInk? l.rest)

variable (l : StatementLine)

theorem quotes_quote : quotes.contains l.quote = true := by
  rcases l.quote_mem with h | h <;> rw [h] <;> decide

theorem body_oneLine : '\n' ∉ l.body := fun h => (l.body_plain _ h).2.2.2 rfl

theorem quote_ne_lineFeed : l.quote ≠ '\n' := by
  rcases l.quote_mem with h | h <;> rw [h] <;> decide

theorem chars_oneLine : '\n' ∉ l.chars := by
  have hquote := l.quote_ne_lineFeed.symm
  simp [chars, statement, argument, l.indent_oneLine, l.body_oneLine, l.rest_oneLine, hquote]

/-- The trimmed line begins with the call. -/
theorem prefix_trimmed_chars : "console.warn(".toList <+: trimmed l.chars := by
  rw [chars, statement, List.append_assoc, List.append_assoc, trimmed_append (by decide),
    dropWhile_of_all l.indent_blank]
  exact List.prefix_append ..

theorem infix_trimmed_chars : "MF_REPORT_DEBUG:".toList <:+: trimmed l.chars := by
  refine infix_trimmed (by decide) ?_
  refine ⟨l.indent ++ ("console.warn(".toList ++ [l.quote]),
    l.body ++ (l.quote :: ");".toList) ++ l.rest, ?_⟩
  simp [chars, statement, argument]

theorem lastInk?_chars : lastInk? l.chars = (lastInk? l.rest).or (some ';') := by
  have hstatement : lastInk? l.statement = some ';' := by
    have hconcat : l.statement = (l.indent ++ ("console.warn(".toList ++ (l.quote ::
        ("MF_REPORT_DEBUG:".toList ++ (l.body ++ [l.quote, ')']))))) ++ [';'] := by
      simp [statement, argument]
    rw [hconcat, lastInk?_concat (by decide +kernel)]
  rw [chars, lastInk?_append, hstatement]

/-! ## The pieces on the line -/

/-- The pieces of the marker that make up the line are all its pieces. -/
theorem eq_pieces_of_spaced {Qs : List Piece} (hQs : Qs <:+: MarkerRule.debugWarn.marker.pieces)
    (h : Spaced Qs l.chars) : Qs = MarkerRule.debugWarn.marker.pieces := by
  have hprefix := l.prefix_trimmed_chars
  cases Qs with
  | nil =>
    rw [h.trimmed_eq_nil] at hprefix
    exact absurd hprefix (by decide)
  | cons P Qs =>
    cases Qs with
    | cons Q Qs => exact hQs.sublist.eq_of_length_le (by simp [MarkerRule.debugWarn])
    | nil =>
      -- neither the call nor the text behind it is the whole line
      obtain rfl | rfl : P = .warnCall ∨ P = .debugText := by
        simpa [MarkerRule.debugWarn] using hQs.subset List.mem_cons_self
      · have hinfix := l.infix_trimmed_chars
        rw [h.trimmed_eq Piece.warnCall_is (by decide)] at hinfix
        have hcolon : ':' ∈ "console.warn(".toList := hinfix.subset (by decide)
        exact absurd hcolon (by decide)
      · have hapart : ∀ w ∈ ["\"MF_REPORT_", "'MF_REPORT_"], Apart "console.warn(" w := by decide
        obtain ⟨w, hw, hquote⟩ := h.exists_prefix_trimmed (fun _ => Piece.debugText_opens)
          (by decide)
        exact ((hapart w hw).not_begins hprefix hquote).elim

/-- A text of a quote and its word is a debugging text if it ends with a semicolon. -/
theorem debugText_fits {q : Char} {b : List Char} (hq : quotes.contains q = true) (hb : '\n' ∉ b) :
    Piece.debugText.Fits (q :: ("MF_REPORT_DEBUG:".toList ++ (b ++ ";".toList))) := by
  have hsegments : Piece.debugText.segments = .one quotes :: (literal "MF_REPORT_DEBUG:" ++
      ([anything false] ++ literal ";")) := rfl
  have hany : SegmentsFit [anything false] b := by
    refine ⟨b, [], (List.append_nil b).symm, ⟨Nat.zero_le _, fun c hc => ?_⟩, rfl⟩
    rw [CharSet.contains_notLineFeed]
    rintro rfl
    exact hb hc
  rw [Piece.Fits, hsegments]
  refine ⟨[q], _, rfl, ⟨q, rfl, hq⟩, ?_⟩
  refine segmentsFit_append.mpr ⟨_, _, rfl, segmentsFit_literal_self _, ?_⟩
  exact segmentsFit_append.mpr ⟨b, _, rfl, hany, segmentsFit_literal_self _⟩

/-- The text of the statement reaches up to the last semicolon. -/
theorem exists_of_closed (h : l.Closed) : ∃ b w, l.argument ++ l.rest =
    l.quote :: ("MF_REPORT_DEBUG:".toList ++ (b ++ ";".toList)) ++ w ∧ '\n' ∉ b ∧ Blank w := by
  have hquote := l.quote_ne_lineFeed.symm
  cases hlast : lastInk? l.rest with
  | none =>
    refine ⟨l.body ++ [l.quote, ')'], l.rest, by simp [argument], ?_, lastInk?_eq_none_iff.mp hlast⟩
    simp [l.body_oneLine, hquote]
  | some c =>
    obtain ⟨t, w, hrest, hw⟩ := exists_of_lastInk? hlast
    obtain rfl := h c hlast
    have ht : '\n' ∉ t := fun hn => l.rest_oneLine (hrest ▸ List.mem_append_left _ hn)
    refine ⟨l.body ++ l.quote :: ");".toList ++ t, w, by simp [argument, hrest], ?_, hw⟩
    simp [l.body_oneLine, hquote, ht]

/-- The line is a marker exactly if it ends with a semicolon. -/
theorem spaced_chars_iff : Spaced MarkerRule.debugWarn.marker.pieces l.chars ↔ l.Closed := by
  constructor
  · intro h c hc
    have hpieces : Spaced ([.warnCall] ++ .debugText :: []) l.chars := h
    obtain ⟨x, s, w, hx, hs, hw⟩ := hpieces.exists_of_append_cons
    have hcloses : Piece.debugText.Closes ";" := Piece.closes_of_segments rfl
    obtain ⟨s, rfl⟩ := hcloses s hs
    have hsemicolon : lastInk? l.chars = some ';' := by
      have hconcat : l.chars = ((x ++ s) ++ [';']) ++ w := by
        rw [hx]
        simp
      rw [hconcat, lastInk?_append, lastInk?_eq_none_iff.mpr (spaced_nil_iff.mp hw), Option.none_or,
        lastInk?_concat (by decide +kernel)]
    rw [lastInk?_chars, Option.mem_def.mp hc, Option.some_or, Option.some_inj] at hsemicolon
    exact hsemicolon
  · intro h
    obtain ⟨b, w, harg, hb, hw⟩ := l.exists_of_closed h
    have hchars : l.chars = l.indent ++ ("console.warn(".toList ++
        ([] ++ (l.quote :: ("MF_REPORT_DEBUG:".toList ++ (b ++ ";".toList)) ++ w))) := by
      rw [chars, statement, List.append_assoc, List.append_assoc, harg, List.nil_append]
    have hcall : Piece.warnCall.Fits "console.warn(".toList := segmentsFit_literal_self _
    rw [hchars]
    exact .piece l.indent_blank hcall
      (.piece blank_nil (debugText_fits l.quotes_quote hb) (.blank hw) (leads_nil w))
      (by simp [Leads, Piece.debugText, Piece.close])

theorem foreign_of_not_closed (h : ¬ l.Closed) : MarkerRule.debugWarn.marker.Foreign l.chars where
  oneLine := l.chars_oneLine
  not_spaced Qs hQs hl := by
    obtain rfl := l.eq_pieces_of_spaced hQs hl
    exact h (l.spaced_chars_iff.mp hl)

/-! ## The line feed -/

/-- A match that reaches over the line feed behind the line reaches the end of a blank line. -/
theorem blank_below {b : Option Char} {g m r x y : List Char} (hx : AtLineStart (lastOr b x))
    (hsplit : x ++ (l.chars ++ '\n' :: y) = g ++ (m ++ r))
    (ht : MarkerRule.debugWarn.marker.expr.Takes (lastOr b g) m r)
    (hfirst : g.length ≤ x.length + l.chars.length)
    (hlast : x.length + l.chars.length < g.length + m.length) :
    ∃ v, y = v ++ r ∧ Blank v ∧ AtLineEnd r := by
  obtain ⟨hstart, hm, -⟩ := Marker.spaced_of_takes ht
  -- the pattern ends with the end of a line, not behind it
  obtain ⟨-, m₀, n, hmn, -, hend, hn⟩ := Marker.takes_expr.mp ht
  obtain rfl : n = [] := hn.resolve_right (by simp [MarkerRule.debugWarn])
  rcases cut_outside_line l.chars_oneLine hsplit (.inl hstart) with ⟨u, rfl, hmr⟩ | ⟨w, rfl, hw⟩
  · obtain ⟨v, rfl⟩ : u ++ (l.chars ++ ['\n']) <+: m := by
      simp only [List.length_append] at hlast
      refine List.prefix_of_prefix_length_le ⟨y, ?_⟩ (List.prefix_append m r) ?_
      · simp [hmr]
      · simp only [List.length_append, List.length_singleton]
        omega
    obtain rfl : y = v ++ r := by simpa using hmr.symm
    rw [lastOr_append] at hx
    rw [List.append_assoc, List.append_assoc, List.singleton_append] at hm
    obtain ⟨Qs, Rs, hpieces, -, hR⟩ := hm.of_lineStart hx
    obtain ⟨Rs, Ss, rfl, hl, hv⟩ := spaced_append_lineFeed_iff.mp hR
    -- the line holds all the pieces, so none is below it
    have hall := l.eq_pieces_of_spaced (hpieces ▸ List.infix_append' Qs Rs Ss) hl
    obtain rfl : Ss = [] := by
      have := congrArg List.length hpieces
      rw [← hall] at this
      simp only [List.length_append] at this
      exact List.eq_nil_of_length_eq_zero (by omega)
    exact ⟨v, rfl, spaced_nil_iff.mp hv, by simpa using hend⟩
  · -- the match would start behind the line, but not behind the line feed
    simp only [List.length_append] at hfirst
    obtain rfl : w = [] := List.eq_nil_of_length_eq_zero (by omega)
    have hne : l.chars ≠ [] := by
      intro hnil
      have := l.prefix_trimmed_chars
      rw [hnil] at this
      exact absurd this (by decide)
    rw [List.append_nil, lastOr_append] at hstart
    obtain ⟨s, hs⟩ := exists_concat_of_atLineStart hne hstart
    exact absurd (hs ▸ l.chars_oneLine) (by simp)

/-- The first line of a text is over where a line ends. -/
theorem takeWhile_prefix_of_atLineEnd {r : List Char} (hr : AtLineEnd r) : ∀ v : List Char,
    (v ++ r).takeWhile (· ≠ '\n') <+: v
  | [] => by
    have hnil : r.takeWhile (· ≠ '\n') = [] :=
      List.takeWhile_eq_nil_iff.mpr fun hpos => by simp [hr r[0] (by simp [List.head?_eq_getElem?])]
    rw [List.nil_append, hnil]
  | c :: v => by
    rw [List.cons_append, List.takeWhile_cons]
    split
    · exact (List.prefix_cons_inj c).mpr (takeWhile_prefix_of_atLineEnd hr v)
    · exact List.nil_prefix

/-- A text with the line in it. -/
def within (before after : List Char) : List Char := before ++ (l.chars ++ '\n' :: after)

theorem not_covers_lineFeed {before after : List Char} (hstart : AtLineStart (lastOr none before))
    (hafter : ¬ Blank (after.takeWhile (· ≠ '\n'))) :
    ∀ m ∈ MarkerRule.debugWarn.compiled.regex.findAll (l.within before after),
      ¬ m.Covers (before.length + l.chars.length) := by
  rintro m hm ⟨hfirst, hlast⟩
  obtain ⟨x, t, y, hsplit, rfl, ht⟩ := MarkerRule.takes_of_mem_findAll _ hm
  obtain ⟨v, rfl, hv, hend⟩ := l.blank_below hstart hsplit ht hfirst hlast
  -- the line below is over where the match is over
  exact hafter fun c hc => hv c ((takeWhile_prefix_of_atLineEnd hend v).subset hc)

end StatementLine

/-- What becomes of a line with a debugging statement. With a semicolon at its end the whole line
goes, and otherwise nothing of it. Its line feed stays if the statement stays, and also if the line
below is not blank. -/
theorem RuleTable.debugWarnStatement_line (l : StatementLine) (before after : List Char)
    (hstart : AtLineStart (lastOr none before)) :
    ∃ c, debugWarnStatement.compile = .ok c ∧
      ∃ found, found = c.regex.findAll (l.within before after) ∧
        c.apply (String.ofList (l.within before after)) =
          String.ofList (uncovered found (l.within before after)) ∧
        (l.Closed → ∃ m ∈ found, ∀ i < l.chars.length, m.Covers (before.length + i)) ∧
        (¬ l.Closed → ∀ m ∈ found, ∀ i ≤ l.chars.length, ¬ m.Covers (before.length + i)) ∧
        (¬ Blank (after.takeWhile (· ≠ '\n')) →
          ∀ m ∈ found, ¬ m.Covers (before.length + l.chars.length)) := by
  refine ⟨_, MarkerRule.debugWarn.compiles, _, rfl, MarkerRule.apply_eq_uncovered .debugWarn _,
    fun hclosed => ?_, fun hopen => ?_, l.not_covers_lineFeed hstart⟩
  · exact MarkerRule.exists_covering l.chars_oneLine (l.spaced_chars_iff.mpr hclosed) hstart
      (by simp)
  · exact (l.foreign_of_not_closed hopen).not_covers hstart (by simp)

/-- An indented statement, with nothing behind it. -/
def StatementLine.alone : StatementLine where
  indent := "  ".toList
  quote := '\''
  body := " state".toList
  rest := []
  indent_blank := by decide +kernel
  indent_oneLine := by decide
  quote_mem := .inr rfl
  body_plain := by simp
  rest_oneLine := by decide

/-- Between two lines of code a statement goes and its line feed stays. -/
theorem RuleTable.debugWarnStatement_line_alone :
    AtLineStart (lastOr none "a();\n".toList) ∧ StatementLine.alone.Closed ∧
      ¬ Blank ("\tb();\n".toList.takeWhile (· ≠ '\n')) ∧
      ∃ c, debugWarnStatement.compile = .ok c ∧
        ∃ found,
          found = c.regex.findAll (StatementLine.alone.within "a();\n".toList "\tb();\n".toList) ∧
          (∃ m ∈ found, ∀ i < StatementLine.alone.chars.length,
            m.Covers ("a();\n".toList.length + i)) ∧
          ∀ m ∈ found, ¬ m.Covers ("a();\n".toList.length + StatementLine.alone.chars.length) := by
  have hstart : AtLineStart (lastOr none "a();\n".toList) := by simp [lastOr]
  have hclosed : StatementLine.alone.Closed := by decide
  have hafter : ¬ Blank ("\tb();\n".toList.takeWhile (· ≠ '\n')) := by decide +kernel
  obtain ⟨c, hc, found, hfound, -, htaken, -, hkept⟩ := debugWarnStatement_line StatementLine.alone
    "a();\n".toList "\tb();\n".toList hstart
  exact ⟨hstart, hclosed, hafter, c, hc, found, hfound, htaken hclosed, hkept hafter⟩

/-- A statement with a call behind it. -/
def StatementLine.beforeCall : StatementLine where
  indent := []
  quote := '"'
  body := " a".toList
  rest := " keep();".toList
  indent_blank := blank_nil
  indent_oneLine := by decide
  quote_mem := .inl rfl
  body_plain := by simp
  rest_oneLine := by decide

/-- The call behind a statement goes with it, up to the line feed and no further. -/
theorem RuleTable.debugWarnStatement_takes_code :
    AtLineStart (lastOr none []) ∧ ∃ c, debugWarnStatement.compile = .ok c ∧
      ∃ found, found = c.regex.findAll (StatementLine.beforeCall.within [] "render();\n".toList) ∧
        (∀ m ∈ found, ¬ m.Covers StatementLine.beforeCall.chars.length) ∧
        ∃ m ∈ found, StatementLine.beforeCall.rest[1]? = some 'k' ∧ isBlank 'k' = false ∧
          m.Covers (StatementLine.beforeCall.statement.length + 1) := by
  have hstart : AtLineStart (lastOr none []) := by simp
  have hclosed : StatementLine.beforeCall.Closed := by decide
  have hafter : ¬ Blank ("render();\n".toList.takeWhile (· ≠ '\n')) := by decide +kernel
  have hkept := StatementLine.beforeCall.not_covers_lineFeed hstart hafter
  obtain ⟨m, hm, hcovers⟩ : ∃ m ∈ MarkerRule.debugWarn.compiled.regex.findAll
      (StatementLine.beforeCall.within [] "render();\n".toList),
      ∀ i < StatementLine.beforeCall.chars.length, m.Covers (([] : List Char).length + i) :=
    MarkerRule.exists_covering StatementLine.beforeCall.chars_oneLine
      (StatementLine.beforeCall.spaced_chars_iff.mpr hclosed) hstart (by simp)
  refine ⟨hstart, _, MarkerRule.debugWarn.compiles, _, rfl, fun m hm => ?_, m, hm, rfl,
    by decide +kernel, ?_⟩
  · simpa using hkept m hm
  · simpa using hcovers (StatementLine.beforeCall.statement.length + 1) (by decide)

end MarkerSweep
