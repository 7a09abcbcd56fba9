import MarkerSweep.Proofs.Clean.Stages
/-!
# Rules one at a time

A table can be cleaned with as a whole, or its rules can be taken out one by one by their names, each
put into a table of its own, compiled, and run on what the one before it left. Both come to the same
(`clean_oneByOne`): a list of rules runs like its first part and then its second part
(`cleanFrom_append`), and a table of one rule compiles to that rule alone, or to nothing if the rule
is turned off. Engines are served from one cache in both cases, and it does not matter which tables
the cache has served before, or which of the tables of one rule it has already seen.
-/

set_option autoImplicit false

namespace MarkerSweep

open CompiledTable
open Pattern (Builder)

namespace RuleTable

/-- The table without the rules that are turned off. -/
def withoutDisabled (t : RuleTable) : RuleTable := ⟨t.rules.filter (·.isEnabled)⟩

theorem only_of_nodup {t : RuleTable} (hnames : (t.rules.map Rule.name).Nodup) {r : Rule}
    (hr : r ∈ t.rules) : t.only r.name = .ok ⟨[r]⟩ := by
  rw [only, rule?_of_nodup hnames hr]

end RuleTable

namespace RuleCache

variable [Builder]

/-- The cache after some tables have been served, one after another. -/
def served (tables : List RuleTable) : RuleCache := (empty.fetchAll tables).1

/-- The engine of a table, from the cache if it is there. -/
def engine (c : RuleCache) (t : RuleTable) : RuleCache × Except Failure Engine :=
  let answer := c.fetch t
  let compiled := answer.2.value.mapError
    (·.within "Failed to compile cleaning rules for RegexEngine")
  (answer.1, compiled.map (·.table.engine))

/-- Cleans a text with a whole table. -/
def cleanWhole (c : RuleCache) (t : RuleTable) (source text : String) :
    Except Failure (String × Summary) := do
  let e ← (c.engine t).2
  (e.clean text source).value

/-- Cleans a text with the rules of some names, one after another, each in a table of its own and with
an engine of its own. -/
def cleanEach (c : RuleCache) (t : RuleTable) (source text : String) :
    List String → Except Failure (String × Summary)
  | [] => .ok (text, [])
  | name :: names => do
    let single ← t.only name
    let (c, built) := c.engine single
    let e ← built
    let (next, hits) ← (e.clean text source).value
    let (final, more) ← c.cleanEach t source next names
    return (final, hits ++ more)

theorem sound_served (tables : List RuleTable) : (served tables).Sound :=
  sound_fetchAll sound_empty tables

variable {c : RuleCache} {t : RuleTable} {rs : List CompiledRule}

theorem engine_sound (hc : c.Sound) (h : compileRules t.rules = .ok ⟨rs⟩) :
    ∃ c' : RuleCache, c'.Sound ∧ c.engine t = (c', .ok (CompiledTable.engine ⟨rs⟩)) := by
  obtain ⟨hsound, hfetch⟩ := fetch_sound hc t
  obtain ⟨number, hvalue⟩ := hfetch ⟨rs⟩ h
  refine ⟨_, hsound, ?_⟩
  simp only [engine, hvalue]
  rfl

theorem cleanWhole_eq (hc : c.Sound) (h : compileRules t.rules = .ok ⟨rs⟩) (source text : String) :
    c.cleanWhole t source text = .ok (cleanFrom text rs) := by
  obtain ⟨c', -, hengine⟩ := engine_sound hc h
  rw [cleanWhole, hengine]
  rfl

theorem cleanEach_eq (hc : c.Sound) (source text : String) {rules : List Rule}
    (honly : ∀ r ∈ rules, t.only r.name = .ok ⟨[r]⟩)
    (hrs : (rules.filter (·.isEnabled)).map Rule.compile = rs.map .ok) :
    c.cleanEach t source text (rules.map Rule.name) = .ok (cleanFrom text rs) := by
  induction rules generalizing c text rs with
  | nil =>
    obtain rfl : rs = [] := by simpa using hrs
    rfl
  | cons r rules ih =>
    obtain ⟨hfirst, hrest⟩ := List.forall_mem_cons.mp honly
    -- the table of the first rule compiles to the first of the compiled rules, or to nothing
    rw [← List.singleton_append, List.filter_append, List.map_append, eq_comm,
      List.map_eq_append_iff] at hrs
    obtain ⟨own, others, rfl, hown, hothers⟩ := hrs
    have hsingle : compileRules [r] = .ok ⟨own⟩ := compileRules_eq_ok_iff.mpr hown.symm
    obtain ⟨c', hsound, hengine⟩ := engine_sound (t := ⟨[r]⟩) hc hsingle
    have hnext := ih hsound (cleanFrom text own).1 hrest hothers.symm
    rw [List.map_cons, cleanEach, hfirst, cleanFrom_append]
    simp only [bind, Except.bind, hengine, CompiledTable.engine, CompiledTable.clean, hnext]
    rfl

end RuleCache

/-! ## What is reported -/

theorem CompiledRule.count_applyCounted (r : CompiledRule) (text : String) :
    (r.applyCounted text).2 = (r.regex.findAll text.toList).length := by
  rw [CompiledRule.applyCounted]
  split
  · rename_i h
    exact h.symm
  · rename_i h
    exact h.symm

namespace CompiledTable

theorem names_cleanFrom (text : String) (rs : List CompiledRule) :
    ((cleanFrom text rs).2.map Hit.rule).Sublist (rs.map CompiledRule.name) := by
  induction rs generalizing text with
  | nil => exact List.Sublist.refl _
  | cons r rs ih =>
    rw [cleanFrom_cons]
    split
    · exact (ih _).cons _
    · exact (ih _).cons_cons _

/-- Every hit is that of a rule, which found as many matches in the text that was left to it. -/
theorem exists_of_mem_cleanFrom {text : String} {rs : List CompiledRule} {h : Hit}
    (hmem : h ∈ (cleanFrom text rs).2) : 1 ≤ h.count ∧ ∃ before r after, rs = before ++ r :: after ∧
      h.rule = r.name ∧
      h.count = (r.regex.findAll (cleanFrom text before).1.toList).length := by
  induction rs generalizing text with
  | nil => cases hmem
  | cons r rs ih =>
    rw [cleanFrom_cons] at hmem
    have hcases : ((r.applyCounted text).2 ≠ 0 ∧ h = ⟨r.name, (r.applyCounted text).2⟩) ∨
        h ∈ (cleanFrom (r.applyCounted text).1 rs).2 := by
      split at hmem
      · exact .inr hmem
      · rename_i hcount
        exact (List.mem_cons.mp hmem).imp_left fun heq => ⟨hcount, heq⟩
    rcases hcases with ⟨hcount, rfl⟩ | hlater
    · exact ⟨Nat.pos_of_ne_zero hcount, [], r, rs, rfl, rfl, r.count_applyCounted text⟩
    · obtain ⟨hpos, before, r', after, rfl, hrule, hcount⟩ := ih hlater
      refine ⟨hpos, r :: before, r', after, rfl, hrule, ?_⟩
      rw [cleanFrom_cons]
      exact hcount

end CompiledTable

/-- A compiled rule comes from an enabled rule, and those before it from those before that one. -/
theorem exists_rule_of_compiled [Builder] {rules : List Rule} {before after : List CompiledRule}
    {k : CompiledRule}
    (h : (rules.filter (·.isEnabled)).map Rule.compile = (before ++ k :: after).map .ok) :
    ∃ rules₁ r rules₂, rules = rules₁ ++ r :: rules₂ ∧ r.isEnabled = true ∧ r.compile = .ok k ∧
      (rules₁.filter (·.isEnabled)).map Rule.compile = before.map .ok := by
  rw [List.map_append, List.map_cons, List.map_eq_append_iff] at h
  obtain ⟨enabled₁, enabled, henabled, hbefore, h⟩ := h
  obtain ⟨r, enabled₂, rfl, hr, -⟩ := List.map_eq_cons_iff.mp h
  obtain ⟨rules₁, rest, rfl, rfl, hrest⟩ := List.filter_eq_append_iff.mp henabled
  obtain ⟨disabled, rules₂, rfl, hdisabled, hactive, -⟩ := List.filter_eq_cons_iff.mp hrest
  refine ⟨rules₁ ++ disabled, r, rules₂, by simp, hactive, hr, ?_⟩
  rw [List.filter_append, List.filter_eq_nil_iff.mpr hdisabled, List.append_nil, hbefore]

theorem names_of_compiles [Builder] {rules : List Rule} {rs : List CompiledRule}
    (h : rules.map Rule.compile = rs.map .ok) : rs.map CompiledRule.name = rules.map Rule.name := by
  induction rules generalizing rs with
  | nil =>
    obtain rfl : rs = [] := by simpa using h
    rfl
  | cons r rules ih =>
    obtain ⟨k, rs, rfl, hk, hrs⟩ := List.map_eq_cons_iff.mp h.symm
    rw [List.map_cons, List.map_cons, ih hrs.symm, Rule.name_of_compile hk.symm]

open RuleCache

/-- Cleaning a text with a table comes to the same as a whole and rule by rule, with the disabled rules
of the table and without them, and what it reports is what the enabled rules found. -/
structure OneByOne [Builder] (c : RuleCache) (t : RuleTable) (source text final : String)
    (summary : Summary) : Prop where
  whole : c.cleanWhole t source text = .ok (final, summary)
  each : c.cleanEach t source text (t.rules.map Rule.name) = .ok (final, summary)
  wholeEnabled : c.cleanWhole t.withoutDisabled source text = .ok (final, summary)
  eachEnabled : c.cleanEach t.withoutDisabled source text (t.withoutDisabled.rules.map Rule.name) =
    .ok (final, summary)
  inOrder : (summary.map Hit.rule).Sublist (t.withoutDisabled.rules.map Rule.name)
  distinct : (summary.map Hit.rule).Nodup
  /-- A rule is counted with its matches in the text that the rules before it leave. -/
  counted : ∀ h ∈ summary, 1 ≤ h.count ∧ ∃ before r after k received earlier,
    t.rules = before ++ r :: after ∧ r.isEnabled = true ∧ r.name = h.rule ∧ r.compile = .ok k ∧
      c.cleanWhole ⟨before⟩ source text = .ok (received, earlier) ∧
      h.count = (k.regex.findAll received.toList).length

/-- A table whose names are distinct and which compiles may be run one rule at a time, whichever tables
the cache has served before. -/
theorem clean_oneByOne [Builder] (tables : List RuleTable) (t : RuleTable) (source text : String)
    (hnames : (t.rules.map Rule.name).Nodup) (hcompiles : ∃ table, t.compile.value = .ok table) :
    ∃ final summary, OneByOne (served tables) t source text final summary := by
  have hc := sound_served tables
  obtain ⟨⟨rs⟩, hvalue⟩ := hcompiles
  have hall : compileRules t.rules = .ok ⟨rs⟩ := RuleTable.compile_eq_ok_iff.mp hvalue
  have henabled : compileRules t.withoutDisabled.rules = .ok ⟨rs⟩ := by
    rw [RuleTable.withoutDisabled, compileRules_filter, hall]
  have hrs := compileRules_eq_ok_iff.mp hall
  have hnames' : (t.withoutDisabled.rules.map Rule.name).Nodup :=
    hnames.sublist (List.filter_sublist.map _)
  have hsublist : ((cleanFrom text rs).2.map Hit.rule).Sublist
      (t.withoutDisabled.rules.map Rule.name) := by
    have hcompiled : rs.map CompiledRule.name = t.withoutDisabled.rules.map Rule.name :=
      names_of_compiles hrs
    rw [← hcompiled]
    exact names_cleanFrom text rs
  refine ⟨(cleanFrom text rs).1, (cleanFrom text rs).2, ?_⟩
  constructor
  · exact cleanWhole_eq hc hall source text
  · exact cleanEach_eq hc source text (fun r hr => RuleTable.only_of_nodup hnames hr) hrs
  · exact cleanWhole_eq hc henabled source text
  · exact cleanEach_eq hc source text (fun r hr => RuleTable.only_of_nodup hnames' hr)
      (compileRules_eq_ok_iff.mp henabled)
  · exact hsublist
  · exact hnames'.sublist hsublist
  · intro h hmem
    obtain ⟨hpos, before, k, after, rfl, hrule, hcount⟩ := exists_of_mem_cleanFrom hmem
    obtain ⟨rules₁, r, rules₂, hsplit, hactive, hk, hbefore⟩ := exists_rule_of_compiled hrs
    have hname : r.name = h.rule := by rw [hrule, Rule.name_of_compile hk]
    exact ⟨hpos, rules₁, r, rules₂, k, (cleanFrom text before).1, (cleanFrom text before).2, hsplit,
      hactive, hname, hk, cleanWhole_eq hc (compileRules_eq_ok_iff.mpr hbefore) source text, hcount⟩

/-- A table with a rule that would not compile if it were not turned off, between two others of which
the second finds what the first one leaves. -/
def letterTable : RuleTable where
  rules := [{ name := "first", pattern := "a", replaceWith := "b" },
    { name := "off", pattern := "(", enabled := some false },
    { name := "second", pattern := "b+", replaceWith := "c" }]

theorem clean_oneByOne_letters : (letterTable.rules.map Rule.name).Nodup ∧
    (∃ table, letterTable.compile.value = .ok table) ∧
    ∃ final summary,
      OneByOne (served [letterTable, .builtin]) letterTable memorySource "aba" final summary := by
  have hnames : (letterTable.rules.map Rule.name).Nodup := by decide
  have hcompiles : ∃ table, letterTable.compile.value = .ok table := by
    have hok : letterTable.compile.value.isOk = true := by decide +kernel
    cases hvalue : letterTable.compile.value with
    | ok table => exact ⟨table, rfl⟩
    | error f => simp [hvalue, Except.isOk, Except.toBool] at hok
  exact ⟨hnames, hcompiles, clean_oneByOne _ _ _ _ hnames hcompiles⟩

example : letterTable.clean "aba" =
    .ok ⟨"c", true, [⟨"first", 2⟩, ⟨"second", 1⟩]⟩ := by
  decide +kernel

end MarkerSweep
