import MarkerSweep.Proofs.Clean.MarkerLines
import MarkerSweep.Proofs.Text.Runs
/-!
# Blank lines after cleaning

The rule for blank lines is a search like any other, and nothing in its pattern speaks of maximal
runs. That it comes to replacing every gap by two line feeds (`sweep_collapsed`) is the work of
greed on one side and of leftmost search on the other: a match is not followed by a line feed because
it would have taken it, and not preceded by one because the match would have started there.
The rule runs last, so what it makes of the text is what cleaning makes of it.
-/

set_option autoImplicit false

namespace MarkerSweep

open Pattern Text CompiledTable

variable {b : Option Char} {s last : List Char} {cuts : List Cut}

theorem not_gap_of_not_threeBreaks (h : ¬ threeBreaks <:+: s) :
    ∀ run ∈ runs s, isGap run = false := by
  intro run hrun
  rw [← Bool.not_eq_true, isGap_iff]
  rintro ⟨hlen, hm⟩
  refine h (List.IsInfix.trans ?_ (infix_of_mem_runs hrun))
  match run, hlen with
  | c :: d :: e :: run, _ =>
    obtain ⟨rfl, rfl, rfl, -⟩ := by simpa using hm
    exact (List.prefix_append threeBreaks run).isInfix

/-- The matches of the rule are the gaps. -/
theorem sweep_collapsed (h : Sweep breaksExpr b s cuts last) :
    weave ['\n', '\n'] cuts last = collapsed s ∧ cuts.length = gaps s := by
  induction h with
  | stop hq _ =>
    obtain ⟨hsame, hnone⟩ :=
      collapsed_of_forall_not_gap (not_gap_of_not_threeBreaks (not_threeBreaks_of_quiet hq))
    exact ⟨hsame.symm, hnone.symm⟩
  | @hit b g m r last cuts hq hh _ ih =>
    obtain ⟨hlen, hm⟩ := takes_breaksExpr.mp (takes_of_hit hh)
    have hne : m ≠ [] := by
      rintro rfl
      simp at hlen
    have hg : ∀ c ∈ g.getLast?, c ≠ '\n' := by
      rintro c hc rfl
      obtain ⟨g', rfl⟩ := List.getLast?_eq_some_iff.mp hc
      exact not_concat_lineFeed_of_quiet hq hlen hm g' rfl
    have hr : ∀ c ∈ r.head?, c ≠ '\n' := by
      rintro c hc rfl
      exact head?_ends_breaksExpr hh hc
    have hgap : isGap m = true := isGap_iff.mpr ⟨hlen, hm⟩
    obtain ⟨hkept, hnone⟩ :=
      collapsed_of_forall_not_gap (not_gap_of_not_threeBreaks (not_threeBreaks_of_quiet hq))
    have hruns := runs_gap hg hne hm hr
    constructor
    · rw [collapsed, hruns, List.flatMap_append, List.flatMap_cons, if_pos hgap, weave, ih.1,
        ← collapsed, ← collapsed, hkept, List.append_assoc]
    · rw [gaps, hruns, List.countP_append, List.countP_cons_of_pos hgap, List.length_cons, ih.2,
        ← gaps, ← gaps, hnone, Nat.zero_add]

theorem applyCounted_collapse (text : String) : collapseCompiled.applyCounted text =
    (String.ofList (collapsed text.toList), gaps text.toList) := by
  obtain ⟨cuts, last, hsweep, happly⟩ := CompiledRule.applyCounted_sweep (r := collapseCompiled)
    (e := breaksExpr) rfl rfl rfl text
  obtain ⟨hweave, hcount⟩ := sweep_collapsed hsweep
  rw [happly, ← hweave, ← hcount]
  rfl

theorem prepare_markerRules : (RuleTable.prepare ⟨RuleTable.markerRules⟩).value =
    .ok ⟨MarkerRule.builtin.map MarkerRule.compiled⟩ := by
  have hrules : RuleTable.markerRules.filter (·.isEnabled) =
      MarkerRule.builtin.map MarkerRule.rule := rfl
  refine RuleTable.prepare_of_compiles ?_
  rw [hrules, map_compile_markers]

/-- The built-in table runs the marker rules and then collapses what they leave. -/
theorem clean_builtinCompiled (text : String) {u : String} {found : Summary}
    (h : cleanFrom text (MarkerRule.builtin.map MarkerRule.compiled) = (u, found)) :
    builtinCompiled.clean text = (String.ofList (collapsed u.toList),
      found ++ hits RuleTable.collapseBlankLines.name (gaps u.toList)) := by
  rw [CompiledTable.clean, builtinCompiled, cleanFrom_append, h, cleanFrom_cons,
    applyCounted_collapse, cleanFrom]
  rfl

/-- The last rule puts two line feeds in the place of every maximal run of three or more and counts
the runs. Cleaning does that to the text which the marker rules leave, so that no three line feeds
in a row are left. -/
theorem clean_collapses_gaps (text : String) :
    (∃ c, RuleTable.collapseBlankLines.compile = .ok c ∧
      c.applyCounted text = (String.ofList (collapsed text.toList), gaps text.toList)) ∧
    ∃ u o, RuleTable.clean ⟨RuleTable.markerRules⟩ text = .ok u ∧ clean text = .ok o ∧
      o.text.toList = collapsed u.text.toList ∧
      o.summary = u.summary ++ hits RuleTable.collapseBlankLines.name (gaps u.text.toList) ∧
      ¬ threeBreaks <:+: o.text.toList := by
  refine ⟨⟨collapseCompiled, collapse_compiles, applyCounted_collapse text⟩, ?_⟩
  obtain ⟨⟨u, found⟩, hstages⟩ :
      ∃ answer, cleanFrom text (MarkerRule.builtin.map MarkerRule.compiled) = answer := ⟨_, rfl⟩
  have hmarkers := RuleTable.clean_of_prepare prepare_markerRules text
  have hclean : clean text = .ok _ := RuleTable.clean_of_prepare prepare_builtin text
  rw [CompiledTable.clean, hstages] at hmarkers
  rw [clean_builtinCompiled text hstages] at hclean
  refine ⟨_, _, hmarkers, hclean, String.toList_ofList, rfl, ?_⟩
  have hcollapses := (collapses u).not_threeBreaks
  rwa [applyCounted_collapse] at hcollapses

end MarkerSweep
