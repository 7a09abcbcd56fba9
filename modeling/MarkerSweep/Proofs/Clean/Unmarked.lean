import MarkerSweep.Proofs.Clean.Deletion
import MarkerSweep.Proofs.Marker.Words
import MarkerSweep.Proofs.Store.Foretold
/-!
# Texts without a trace of a marker

Every match of a built-in rule holds one of three words: the word of a report, the directive, or three
line feeds in a row (`DeletingRule.exists_trace`). So where none of them stands no rule finds
anything, each rule hands on the text as it came, and there is nothing to write. The words are looked
for in the whole text and not line by line; nothing is asked of line ends or of other characters.
-/

set_option autoImplicit false

namespace MarkerSweep

open Pattern Text CompiledTable

/-- What every match of a built-in rule has one of in it. -/
def traces : List (List Char) :=
  ["MF_REPORT_".toList, "eslint-disable-next-line".toList, threeBreaks]

/-- There is none of these words in the text. -/
def Unmarked (text : List Char) : Prop := ∀ w ∈ traces, ¬ w <:+: text

instance : DecidablePred Unmarked := fun _ => inferInstanceAs (Decidable (∀ _ ∈ _, _))

namespace MarkerRule

/-- Among the pieces of a built-in marker there is one that holds a trace. -/
theorem exists_piece_with_trace {k : MarkerRule} (hk : k ∈ builtin) :
    ∃ P ∈ k.marker.pieces, ∃ w : String, P.Holds w ∧ w.toList ∈ traces := by
  simp only [builtin, List.mem_cons, List.not_mem_nil, or_false] at hk
  have hreport : "MF_REPORT_".toList ∈ traces := by simp [traces]
  have hdirective : "eslint-disable-next-line".toList ∈ traces := by simp [traces]
  rcases hk with rfl | rfl | rfl | rfl | rfl
  · exact ⟨.report, by simp [lineComment], _, Piece.report_opens.holds, hreport⟩
  · exact ⟨.reportComment, by simp [blockComment], _, Piece.reportComment_opens.holds, hreport⟩
  · exact ⟨.dunderReport, by simp [dunder], _, Piece.dunderReport_holds, hreport⟩
  · exact ⟨.debugText, by simp [debugWarn], _, Piece.debugText_holds, hreport⟩
  · exact ⟨.disableNextLine, by simp [noConsole], _, Piece.disableNextLine_is.opens.holds, hdirective⟩

end MarkerRule

namespace DeletingRule

/-- Every match of a built-in rule holds a trace. -/
theorem exists_trace {d : DeletingRule} (hd : d ∈ builtin) {b : Option Char} {m r : List Char}
    (h : d.expr.Takes b m r) : ∃ w ∈ traces, w <:+: m := by
  rcases List.mem_append.mp hd with hd | hd
  · obtain ⟨k, hk, rfl⟩ := List.mem_map.mp hd
    obtain ⟨P, hP, w, hw, htrace⟩ := MarkerRule.exists_piece_with_trace hk
    exact ⟨_, htrace, (Marker.spaced_of_takes h).2.1.infix_of_mem hP hw⟩
  · obtain rfl := List.mem_singleton.mp hd
    obtain ⟨hlen, hm⟩ := takes_breaksExpr.mp h
    refine ⟨threeBreaks, by simp [traces], ?_⟩
    rw [List.eq_replicate_of_mem hm]
    exact ((List.prefix_replicate_iff).mpr ⟨hlen, rfl⟩).isInfix

theorem not_occurs_of_unmarked {d : DeletingRule} (hd : d ∈ builtin) {text : List Char}
    (h : Unmarked text) : ¬ d.expr.Occurs text := by
  rintro ⟨x, m, y, rfl, ht⟩
  obtain ⟨w, hw, hm⟩ := exists_trace hd ht
  exact h w hw (hm.trans (List.infix_append' ..))

end DeletingRule

/-- The built-in rules, one after another, leave a text without traces alone. -/
theorem clean_builtinCompiled_unmarked {text : String} (h : Unmarked text.toList) :
    builtinCompiled.clean text = (text, []) := by
  have hdeletes := deletes_cleanFrom DeletingRule.builtin text
  rw [DeletingRule.map_compiled_builtin, ← CompiledTable.clean] at hdeletes
  have hidle : (builtinCompiled.clean text).2.length = 0 := by
    rw [hdeletes.idle_iff, List.forall_mem_map]
    exact fun d hd => DeletingRule.not_occurs_of_unmarked hd h
  refine Prod.ext ?_ (List.length_eq_zero_iff.mp hidle)
  exact String.toList_inj.mp (hdeletes.unchanged hidle)

/-- A text in which none of the three words stands is not touched: cleaning gives it back, reports no
change and has nothing to sum up. A file that holds it is not written to in either mode: the store
after the call is the store before it, with the attempts to write that it has noted. -/
theorem clean_unmarked (text : String) (h : Unmarked text.toList) :
    clean text = .ok ⟨text, false, []⟩ ∧
      ∃ compiled, RuleTable.builtin.prepare.value = .ok compiled ∧
        ∀ (σ : Type) [Store (StateM σ)] [Ledger σ] (s : σ) (path : Path) (mode : Mode),
          Steady.read s path = .ok text →
            Cleaner.call compiled.engine path mode s =
              (.ok ⟨path, false, false, text, text, []⟩, s) := by
  have hclean := clean_builtinCompiled_unmarked h
  refine ⟨?_, builtinCompiled, prepare_builtin, fun σ _ _ s path mode hread => ?_⟩
  · rw [clean, RuleTable.clean_of_prepare prepare_builtin, hclean, bne_self_eq_false]
  · have hengine : (builtinCompiled.engine.clean text path.display).value = .ok (text, []) := by
      simp only [CompiledTable.engine, hclean]
    rw [Cleaner.call_of_kept hread hengine fun hdue => hdue.1 rfl, bne_self_eq_false]

/-- A file in memory with line ends of two kinds, a comment and a call, but no trace. -/
def unmarkedFile : Memory where
  files := [(.ofString "a.ts", "export const a = 1;\r\n\r\n// ordinary\nconsole.log(a);\n\n")]

theorem clean_unmarked_file :
    ∃ text, Unmarked text.toList ∧ Steady.read unmarkedFile (.ofString "a.ts") = .ok text ∧
      clean text = .ok ⟨text, false, []⟩ ∧
      ∃ compiled, RuleTable.builtin.prepare.value = .ok compiled ∧ ∀ mode : Mode,
        Cleaner.call compiled.engine (.ofString "a.ts") mode unmarkedFile =
          (.ok ⟨.ofString "a.ts", false, false, text, text, []⟩, unmarkedFile) := by
  have hunmarked :
      Unmarked "export const a = 1;\r\n\r\n// ordinary\nconsole.log(a);\n\n".toList := by
    decide +kernel
  have hread : Steady.read unmarkedFile (.ofString "a.ts") =
      .ok "export const a = 1;\r\n\r\n// ordinary\nconsole.log(a);\n\n" := by
    decide +kernel
  obtain ⟨hclean, compiled, hcompiled, hcall⟩ := clean_unmarked _ hunmarked
  exact ⟨_, hunmarked, hread, hclean, compiled, hcompiled, fun mode =>
    hcall Memory unmarkedFile _ mode hread⟩

end MarkerSweep
