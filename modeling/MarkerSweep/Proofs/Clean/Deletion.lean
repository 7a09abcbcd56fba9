import Mathlib.Tactic.TFAE
import MarkerSweep.Proofs.Clean.Stages
/-!
# Cleaning only deletes

Whatever a built-in rule puts in the place of a match is itself left of that match, and the match is
longer (`DeletingRule`). So a stage takes characters away or does nothing, and it does nothing
exactly if its pattern has no match in the text it is given. `Deletes` says so of one stage and of
several in a row; for several the point is `idle_iff`: stages that do nothing hand on the text as
it came, so the patterns are all looked for in the same text.

Three ways of asking whether cleaning did something then agree, the comparison of texts, the count of
matches and the lengths (`clean_only_deletes`), and a text can be cleaned with an effect only as often
as it has characters.
-/

set_option autoImplicit false

namespace MarkerSweep

open Pattern Text CompiledTable

/-! ## Matches somewhere in a text -/

/-- Somewhere in the text stands a match. -/
def Pattern.Expr.Occurs (e : Expr) (text : List Char) : Prop :=
  ∃ x m y, text = x ++ (m ++ y) ∧ e.Takes (lastOr none x) m y

/-- The pattern of the rule has a match somewhere in the text. -/
def Rule.Matches (r : Rule) (text : List Char) : Prop :=
  ∃ pattern e, r.pattern = some pattern ∧ Regex.expr pattern r.multiline = .ok e ∧ e.Occurs text

theorem Pattern.Sweep.eq_nil_iff_not_occurs {e : Expr} {s last : List Char} {cuts : List Cut}
    (h : Sweep e none s cuts last) : cuts = [] ↔ ¬ e.Occurs s := by
  rw [h.eq_nil_iff]
  simp only [Expr.Occurs, not_exists, not_and]

/-! ## Stages that delete -/

/-- What looking for some expressions, one after another, makes of a text; `n` is zero if nothing
was found. -/
structure Deletes (es : List Expr) (t t' : List Char) (n : Nat) : Prop where
  sublist : t'.Sublist t
  shortens : t'.length + n ≤ t.length
  unchanged : n = 0 → t' = t
  idle_iff : n = 0 ↔ ∀ e ∈ es, ¬ e.Occurs t

namespace Deletes

variable {es : List Expr} {e : Expr} {t u v : List Char} {n count : Nat}

theorem nil (t : List Char) : Deletes [] t t 0 := by
  constructor <;> simp

/-- One more stage in front; it counts for one if it found something. -/
theorem cons (h : Deletes [e] t u count) (h' : Deletes es u v n) :
    Deletes (e :: es) t v (if count = 0 then n else n + 1) where
  sublist := h'.sublist.trans h.sublist
  shortens := by
    have hu := h.shortens
    have hv := h'.shortens
    split <;> omega
  unchanged hn := by
    split at hn
    · rename_i hcount
      rw [h'.unchanged hn, h.unchanged hcount]
    · cases hn
  idle_iff := by
    have hfirst := h.idle_iff
    rw [List.forall_mem_singleton] at hfirst
    rw [List.forall_mem_cons, ← hfirst]
    by_cases hcount : count = 0
    · -- the stage in front did nothing, so the others see the same text
      simp only [hcount, if_true, true_and]
      rw [h'.idle_iff, h.unchanged hcount]
    · simp [hcount]

/-- As long as before means the same as before. -/
theorem eq_zero_iff_length (h : Deletes es t u n) : n = 0 ↔ u.length = t.length := by
  constructor
  · exact fun hn => by rw [h.unchanged hn]
  · intro hlen
    have := h.shortens
    omega

theorem eq_zero_iff_eq (h : Deletes es t u n) : n = 0 ↔ u = t :=
  ⟨h.unchanged, fun hu => h.eq_zero_iff_length.mpr (congrArg List.length hu)⟩

end Deletes

/-- A rule with the expression that its pattern means, whose matches are longer than their
replacement and have its characters in them. -/
structure DeletingRule where
  rule : Rule
  pattern : String
  expr : Expr
  compiled : CompiledRule
  pattern_eq : rule.pattern = some pattern
  means : Regex.expr pattern rule.multiline = .ok expr
  compiles : rule.compile = .ok compiled
  runs : compiled.regex.program = Program.ofExpr expr
  loopsConsume : expr.loopsConsume = true
  consumes : expr.consumes = true
  sublist : ∀ b m y, expr.Takes b m y → compiled.replaceWith.toList.Sublist m
  shorter : ∀ b m y, expr.Takes b m y → compiled.replaceWith.toList.length < m.length

namespace DeletingRule

theorem matches_iff (d : DeletingRule) {text : List Char} :
    d.rule.Matches text ↔ d.expr.Occurs text := by
  constructor
  · rintro ⟨pattern, e, hp, he, h⟩
    rw [d.pattern_eq, Option.some.injEq] at hp
    subst hp
    rw [d.means, Except.ok.injEq] at he
    exact he ▸ h
  · exact fun h => ⟨d.pattern, d.expr, d.pattern_eq, d.means, h⟩

theorem deletes (d : DeletingRule) (text : String) :
    Deletes [d.expr] text.toList (d.compiled.applyCounted text).1.toList
      (d.compiled.applyCounted text).2 := by
  obtain ⟨cuts, last, hsweep, happly⟩ :=
    CompiledRule.applyCounted_sweep d.runs d.loopsConsume d.consumes text
  rw [happly, String.toList_ofList]
  constructor
  · exact hsweep.weave_sublist d.sublist
  · exact hsweep.length_weave d.shorter
  · intro hn
    obtain rfl := List.length_eq_zero_iff.mp hn
    exact hsweep.eq_of_nil
  · rw [List.length_eq_zero_iff, hsweep.eq_nil_iff_not_occurs, List.forall_mem_singleton]

end DeletingRule

theorem deletes_cleanFrom : ∀ (ds : List DeletingRule) (text : String),
    Deletes (ds.map DeletingRule.expr) text.toList
      (cleanFrom text (ds.map DeletingRule.compiled)).1.toList
      (cleanFrom text (ds.map DeletingRule.compiled)).2.length
  | [], text => Deletes.nil text.toList
  | d :: ds, text => by
    have hfirst := d.deletes text
    have hrest := deletes_cleanFrom ds (d.compiled.applyCounted text).1
    rw [List.map_cons, List.map_cons, cleanFrom_cons]
    -- what the first rule answers is not to be computed
    generalize d.compiled.applyCounted text = answer at hfirst hrest ⊢
    simpa [apply_ite List.length] using hfirst.cons hrest

/-! ## The built-in rules -/

def MarkerRule.deleting (k : MarkerRule) : DeletingRule where
  rule := k.rule
  pattern := k.pattern
  expr := k.marker.expr
  compiled := k.compiled
  pattern_eq := k.pattern_eq
  means := k.means
  compiles := k.compiles
  runs := rfl
  loopsConsume := k.loopsConsume
  consumes := k.consumes
  sublist _ m _ _ := List.nil_sublist m
  shorter _ _ _ h := List.length_pos_iff.mpr (Marker.ne_nil_of_takes h)

namespace DeletingRule

def collapse : DeletingRule where
  rule := RuleTable.collapseBlankLines
  pattern := "\\n\x7b3,\x7d"
  expr := breaksExpr
  compiled := collapseCompiled
  pattern_eq := rfl
  means := by decide +kernel
  compiles := collapse_compiles
  runs := rfl
  loopsConsume := rfl
  consumes := rfl
  sublist _ m _ h := by
    obtain ⟨hlen, hm⟩ := takes_breaksExpr.mp h
    rw [List.eq_replicate_of_mem hm]
    exact (List.replicate_sublist_replicate '\n').mpr (Nat.le_of_succ_le hlen)
  shorter _ _ _ h := (takes_breaksExpr.mp h).1

/-- The built-in rules in their order. -/
def builtin : List DeletingRule := MarkerRule.builtin.map MarkerRule.deleting ++ [collapse]

theorem map_rule_builtin : builtin.map rule = RuleTable.builtin.rules := rfl

theorem map_compiled_builtin : builtin.map compiled = builtinCompiled.rules := rfl

end DeletingRule

/-- What cleaning with the built-in rules comes to. -/
theorem exists_deletes (text : String) : ∃ out summary,
    Deletes (DeletingRule.builtin.map DeletingRule.expr) text.toList out.toList summary.length ∧
      clean text = .ok ⟨out, out != text, summary⟩ := by
  refine ⟨_, _, deletes_cleanFrom DeletingRule.builtin text, ?_⟩
  rw [clean, RuleTable.clean_of_prepare prepare_builtin, CompiledTable.clean,
    DeletingRule.map_compiled_builtin]

/-! ## Lengths in bytes -/

theorem utf8ByteSize_ofList_cons (c : Char) (l : List Char) :
    (String.ofList (c :: l)).utf8ByteSize = c.utf8Size + (String.ofList l).utf8ByteSize := by
  rw [← List.singleton_append, String.ofList_append, String.utf8ByteSize_append,
    ← String.singleton_eq_ofList, String.utf8ByteSize_singleton]

/-- With every character at least one byte is lost. -/
theorem utf8ByteSize_add_le_of_sublist {l l' : List Char} (h : l.Sublist l') :
    (String.ofList l).utf8ByteSize + l'.length ≤ (String.ofList l').utf8ByteSize + l.length := by
  induction h with
  | slnil => exact Nat.le_refl _
  | cons c _ ih =>
    have := c.utf8Size_pos
    rw [utf8ByteSize_ofList_cons, List.length_cons]
    omega
  | cons_cons c _ ih =>
    simp only [utf8ByteSize_ofList_cons, List.length_cons]
    omega

theorem Deletes.eq_zero_iff_utf8ByteSize {es : List Expr} {text out : String} {n : Nat}
    (h : Deletes es text.toList out.toList n) : n = 0 ↔ out.utf8ByteSize = text.utf8ByteSize := by
  rw [h.eq_zero_iff_eq, String.toList_inj]
  refine ⟨congrArg _, fun hsize => String.toList_inj.mp (h.sublist.eq_of_length_le ?_)⟩
  have := utf8ByteSize_add_le_of_sublist h.sublist
  simp only [String.ofList_toList] at this
  omega

/-! ## Cleaning over and over -/

/-- Cleans a text some number of times. -/
def cleanTimes : Nat → String → Except Failure String
  | 0, text => .ok text
  | n + 1, text => do cleanTimes n (← clean text).text

/-- A text is as it will stay after at most as many cleanings as it has characters. -/
theorem exists_cleanTimes_settled (text : String) : ∃ n ≤ text.length, ∃ final,
    cleanTimes n text = .ok final ∧ clean final = .ok ⟨final, false, []⟩ := by
  induction hlen : text.length using Nat.strongRecOn generalizing text with
  | ind l ih =>
    obtain ⟨out, summary, hdeletes, hclean⟩ := exists_deletes text
    by_cases hidle : summary.length = 0
    · -- nothing is found, so the text is the one that stays
      obtain rfl := List.length_eq_zero_iff.mp hidle
      obtain rfl := String.toList_inj.mp (hdeletes.unchanged hidle)
      exact ⟨0, Nat.zero_le _, out, rfl, by simpa using hclean⟩
    · have hshorter := hdeletes.shortens
      rw [String.length_toList, String.length_toList] at hshorter
      obtain ⟨n, hn, final, htimes, hfinal⟩ := ih out.length (by omega) out rfl
      refine ⟨n + 1, by omega, final, ?_, hfinal⟩
      rw [cleanTimes, hclean]
      exact htimes

/-- Cleaning takes characters away and does nothing else. It changes nothing, reports nothing and
leaves the text as long as it was all at once, and then no built-in pattern has a match. A rule fires
on a text exactly if it makes it shorter, and cleaning over and over comes to rest. -/
theorem clean_only_deletes (text : String) : ∃ o, clean text = .ok o ∧
    o.text.toList.Sublist text.toList ∧
    [o.changed = false, o.summary = [], o.text.length = text.length,
      o.text.utf8ByteSize = text.utf8ByteSize,
      ∀ r ∈ RuleTable.builtin.rules, ¬ r.Matches text.toList].TFAE ∧
    (∀ r ∈ RuleTable.builtin.rules, ∃ c, r.compile = .ok c ∧
      ∀ t : String, 0 < (c.applyCounted t).2 ↔ (c.applyCounted t).1.length < t.length) ∧
    ∃ n ≤ text.length, ∃ final,
      cleanTimes n text = .ok final ∧ clean final = .ok ⟨final, false, []⟩ := by
  obtain ⟨out, summary, hdeletes, hclean⟩ := exists_deletes text
  refine ⟨_, hclean, hdeletes.sublist, ?_, ?_, exists_cleanTimes_settled text⟩
  · have hchanged : (out != text) = false ↔ summary.length = 0 := by
      rw [bne_eq_false_iff_eq, hdeletes.eq_zero_iff_eq, String.toList_inj]
    have hlength := hdeletes.eq_zero_iff_length
    rw [String.length_toList, String.length_toList] at hlength
    have hnone : summary.length = 0 ↔ ∀ r ∈ RuleTable.builtin.rules, ¬ r.Matches text.toList := by
      rw [hdeletes.idle_iff, ← DeletingRule.map_rule_builtin]
      simp only [List.forall_mem_map, DeletingRule.matches_iff]
    have hsize := hdeletes.eq_zero_iff_utf8ByteSize
    rw [List.length_eq_zero_iff] at hchanged hlength hnone hsize
    tfae_have 1 ↔ 2 := hchanged
    tfae_have 2 ↔ 3 := hlength
    tfae_have 2 ↔ 4 := hsize
    tfae_have 2 ↔ 5 := hnone
    tfae_finish
  · rw [← DeletingRule.map_rule_builtin, List.forall_mem_map]
    refine fun d _ => ⟨d.compiled, d.compiles, fun t => ?_⟩
    have hd := d.deletes t
    have hlength := hd.eq_zero_iff_length
    have hshorter := hd.shortens
    rw [String.length_toList, String.length_toList] at hlength hshorter
    omega

end MarkerSweep
