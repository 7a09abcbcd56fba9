import MarkerSweep.Engine
import MarkerSweep.Proofs.Marker.Removal
/-!
# The built-in markers

The five marker rules, each with the marker that its pattern means. That the two agree is a
computation: the pattern is parsed and resolved by the kernel, and the expression is the one that
the pieces make (`MarkerRule.means`). From here on a pattern is never looked at again, and whether a
line is covered by the pattern of a rule is a question about pieces (`MarkerRule.covers_iff`).
-/

set_option autoImplicit false

namespace MarkerSweep

open Unicode Pattern

/-! ## Rules that cover a line -/

namespace Rule

/-- The pattern of the rule matches the whole of a line that stands by itself. -/
def Covers (r : Rule) (line : List Char) : Prop :=
  ∃ pattern e, r.pattern = some pattern ∧ Regex.expr pattern r.multiline = .ok e ∧
    e.Takes none line []

theorem covers_iff_takes {r : Rule} {pattern : String} {e : Expr} {line : List Char}
    (hp : r.pattern = some pattern) (he : Regex.expr pattern r.multiline = .ok e) :
    r.Covers line ↔ e.Takes none line [] := by
  constructor
  · rintro ⟨pattern', e', hp', he', ht⟩
    rw [hp, Option.some.injEq] at hp'
    subst hp'
    rw [he, Except.ok.injEq] at he'
    exact he' ▸ ht
  · exact fun ht => ⟨pattern, e, hp, he, ht⟩

instance (r : Rule) : DecidablePred r.Covers := fun _ =>
  match hp : r.pattern with
  | none => isFalse fun ⟨_, _, h, _⟩ => by
    rw [hp] at h
    cases h
  | some pattern =>
    match he : Regex.expr pattern r.multiline with
    | .error _ => isFalse fun ⟨_, _, h, h', _⟩ => by
      rw [hp, Option.some.injEq] at h
      subst h
      rw [he] at h'
      cases h'
    | .ok _ => decidable_of_iff _ (covers_iff_takes hp he).symm

/-- A pattern without the optional line feed at its end. -/
def dropBreak (pattern : String) : String :=
  if "\\n?".toList.isSuffixOf pattern.toList then
    String.ofList (pattern.toList.take (pattern.toList.length - "\\n?".toList.length))
  else pattern

/-- The rule whose pattern leaves the line feed after a marker alone. -/
def withoutBreak (r : Rule) : Rule := { r with pattern := r.pattern.map dropBreak }

end Rule

/-- The marker that leaves the line feed after it alone. -/
def Marker.withoutBreak (k : Marker) : Marker := { k with takesBreak := false }

/-- A rule that removes a marker. -/
structure MarkerRule where
  rule : Rule
  pattern : String
  marker : Marker
  pattern_eq : rule.pattern = some pattern := by rfl
  means : Regex.expr pattern rule.multiline = .ok marker.expr := by decide +kernel
  means_withoutBreak : Regex.expr (Rule.dropBreak pattern) rule.multiline =
    .ok marker.withoutBreak.expr := by decide +kernel
  compiles : rule.compile = .ok ⟨rule.name, ⟨pattern, rule.multiline,
    Program.ofExpr marker.expr⟩, ""⟩ := by decide +kernel
  takes_lineFeed : marker.takesBreak = true ∨ marker.toLineEnd = false := by decide
  loopsConsume : marker.expr.loopsConsume = true := by decide +kernel
  consumes : marker.expr.consumes = true := by decide +kernel

namespace MarkerRule

def compiled (k : MarkerRule) : CompiledRule :=
  ⟨k.rule.name, ⟨k.pattern, k.rule.multiline, Program.ofExpr k.marker.expr⟩, ""⟩

variable {line : List Char}

theorem covers_iff (k : MarkerRule) (h : '\n' ∉ line) :
    k.rule.Covers line ↔ Spaced k.marker.pieces line := by
  rw [Rule.covers_iff_takes k.pattern_eq k.means, Marker.takes_line_iff h]

/-- A line of a text is covered, with or without its line feed, if it is a text of the pieces. -/
theorem covers_line_iff (k : MarkerRule) {text : List Char} (h : line ∈ Text.lines text) :
    k.rule.Covers line ↔ Spaced k.marker.pieces (Text.bare line) := by
  obtain ⟨hfeed, hline | hline⟩ := Text.line_eq_bare h
  · rw [← hline]
    exact k.covers_iff (hline ▸ hfeed)
  · rw [← Marker.takes_line_lineFeed_iff k.takes_lineFeed hfeed, ← hline]
    exact Rule.covers_iff_takes k.pattern_eq k.means

theorem covers_withoutBreak_iff (k : MarkerRule) (h : '\n' ∉ line) :
    k.rule.withoutBreak.Covers line ↔ Spaced k.marker.pieces line := by
  have hp : k.rule.withoutBreak.pattern = some (Rule.dropBreak k.pattern) := by
    rw [Rule.withoutBreak, k.pattern_eq, Option.map_some]
  rw [Rule.covers_iff_takes hp k.means_withoutBreak, Marker.takes_line_iff h]
  rfl

example : RuleTable.lineCommentMarker.withoutBreak.Covers "  // MF_REPORT_A1: old".toList ∧
    ¬ RuleTable.lineCommentMarker.withoutBreak.Covers "x // MF_REPORT_A1".toList := by
  decide +kernel

theorem applyCounted_sweep (k : MarkerRule) (text : String) :
    ∃ cuts last, Sweep k.marker.expr none text.toList cuts last ∧
      k.compiled.applyCounted text = (String.ofList (weave [] cuts last), cuts.length) :=
  CompiledRule.applyCounted_sweep rfl k.loopsConsume k.consumes text

theorem removes (k : MarkerRule) (text : String) :
    Removes k.marker text.toList (k.compiled.applyCounted text).1.toList
      (k.compiled.applyCounted text).2 := by
  obtain ⟨cuts, last, hsweep, happly⟩ := k.applyCounted_sweep text
  rw [happly, String.toList_ofList]
  exact removes_of_sweep hsweep

end MarkerRule

/-! ## The pieces -/

/-- Some characters, one after another. -/
def literal (s : String) : List Segment := s.toList.map fun c => .one (.singleton c)

/-- What names of markers are made of. -/
def nameChars : CharSet :=
  ⟨[('0'.toNat, '9'.toNat), ('A'.toNat, 'Z'.toNat), ('_'.toNat, '_'.toNat)]⟩

/-- The start of the word that marks a report. -/
def reportWord : List Segment := literal "MF_REPORT_" ++ [.run 1 true nameChars]

/-- Anything on the same line. -/
def anything (greedy : Bool) : Segment := .run 0 greedy CharSet.notLineFeed

def quotes : CharSet := ⟨[('"'.toNat, '"'.toNat), ('\''.toNat, '\''.toNat)]⟩

/-- A piece that stands anywhere after the piece before it. -/
def Piece.close (segments : List Segment) (h : segmentsSolid segments = true) : Piece where
  segments := segments
  solid _ := solid_of_segmentsSolid h

def Piece.slashes : Piece := .close (literal "//") (by decide)

def Piece.openBrace : Piece := .close (literal "\x7b") (by decide)

def Piece.openComment : Piece := .close (literal "/*") (by decide)

def Piece.closeBrace : Piece := .close (literal "\x7d") (by decide)

/-- A report and the rest of its line. -/
def Piece.report : Piece := .close (reportWord ++ [anything true]) (by decide)

/-- A report up to the end of a comment. -/
def Piece.reportComment : Piece :=
  .close (reportWord ++ [anything false] ++ literal "*/") (by decide)

def Piece.dunderReport : Piece :=
  .close (literal "__MF_REPORT_" ++ [.run 1 true nameChars] ++ literal "__") (by decide)

def Piece.warnCall : Piece := .close (literal "console.warn(") (by decide)

def Piece.debugText : Piece :=
  .close (.one quotes :: literal "MF_REPORT_DEBUG:" ++ [anything false] ++ literal ";") (by decide)

def Piece.disableNextLine : Piece := .close (literal "eslint-disable-next-line") (by decide)

def Piece.noConsole : Piece :=
  { Piece.close (literal "no-console") (by decide) with apart := true }

/-- A report takes whatever follows it on its line. -/
theorem Piece.report_extends {s u : List Char} (hs : Piece.report.Fits s) (hu : '\n' ∉ u) :
    Piece.report.Fits (s ++ u) := by
  obtain ⟨s₁, _, rfl, h₁, s₂, _, rfl, h₂, rfl⟩ := segmentsFit_append.mp hs
  refine segmentsFit_append.mpr ⟨s₁, s₂ ++ u, by simp, h₁, s₂ ++ u, [], by simp, ?_, rfl⟩
  refine ⟨Nat.zero_le _, fun c hc => ?_⟩
  rcases List.mem_append.mp hc with hc | hc
  · exact h₂.2 c hc
  · rw [CharSet.contains_notLineFeed]
    rintro rfl
    exact hu hc

/-! ## The rules -/

namespace MarkerRule

def lineComment : MarkerRule where
  rule := RuleTable.lineCommentMarker
  pattern := "^\\s*//\\s*MF_REPORT_[A-Z0-9_]+.*$\\n?"
  marker :=
    { pieces := [.slashes, .report]
      toLineEnd := true
      pieces_ne_nil := by simp
      attached := by simp [Piece.slashes, Piece.close]
      extends_last := by
        intro _ P hP s u hs hu
        obtain rfl : P = .report := by simpa using hP.symm
        exact Piece.report_extends hs hu }

def blockComment : MarkerRule where
  rule := RuleTable.blockCommentMarker
  pattern := "^\\s*\\\x7b\\s*/\\*\\s*MF_REPORT_[A-Z0-9_]+.*?\\*/\\s*\\\x7d\\s*$\\n?"
  marker :=
    { pieces := [.openBrace, .openComment, .reportComment, .closeBrace]
      pieces_ne_nil := by simp
      attached := by simp [Piece.openBrace, Piece.close]
      extends_last := by simp }

def dunder : MarkerRule where
  rule := RuleTable.dunderMarker
  pattern := "^\\s*//\\s*__MF_REPORT_[A-Z0-9_]+__\\s*$\\n?"
  marker :=
    { pieces := [.slashes, .dunderReport]
      pieces_ne_nil := by simp
      attached := by simp [Piece.slashes, Piece.close]
      extends_last := by simp }

def debugWarn : MarkerRule where
  rule := RuleTable.debugWarnStatement
  pattern := "^\\s*console\\.warn\\(\\s*[\"']MF_REPORT_DEBUG:.*?;\\s*$"
  marker :=
    { pieces := [.warnCall, .debugText]
      takesBreak := false
      pieces_ne_nil := by simp
      attached := by simp [Piece.warnCall, Piece.close]
      extends_last := by simp }

def noConsole : MarkerRule where
  rule := RuleTable.eslintNoConsole
  pattern := "^\\s*//\\s*eslint-disable-next-line\\s+no-console\\s*$\\n?"
  marker :=
    { pieces := [.slashes, .disableNextLine, .noConsole]
      pieces_ne_nil := by simp
      attached := by simp [Piece.slashes, Piece.close]
      extends_last := by simp }

/-- The built-in marker rules in their order. -/
def builtin : List MarkerRule := [lineComment, blockComment, dunder, debugWarn, noConsole]

end MarkerRule

end MarkerSweep
