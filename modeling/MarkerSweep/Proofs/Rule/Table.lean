import MarkerSweep.Engine
import MarkerSweep.Rule.Cache
/-!
# Compiling tables

A table compiles exactly if all its enabled rules do, and then to what they compile to, in their order
(`compileRules_eq_ok_iff`). So neither the disabled rules of a table nor its descriptions bear on
what it compiles to. The cache relies on the second: under every key it keeps what the tables of that
key compile to (`RuleCache.Sound`), whichever tables it has served before, and so a table that is
served is the table compiled (`RuleCache.fetch_sound`). All of this holds whatever the builder takes to
be too big.
-/

set_option autoImplicit false

namespace MarkerSweep

open Pattern

/-! ## Finding a rule -/

/-- A rule whose name no other rule has is found by it. -/
theorem RuleTable.rule?_of_nodup {t : RuleTable} (hnames : (t.rules.map Rule.name).Nodup) {r : Rule}
    (hr : r ∈ t.rules) : t.rule? r.name = some r := by
  obtain ⟨before, after, hrules⟩ := List.append_of_mem hr
  rw [hrules, List.map_append, List.map_cons] at hnames
  have hbefore : ∀ r' ∈ before, r'.name ≠ r.name := fun r' hr' =>
    (List.nodup_append.mp hnames).2.2 _ (List.mem_map_of_mem hr') _ List.mem_cons_self
  rw [rule?, hrules, List.find?_append, List.find?_eq_none.mpr (by simpa using hbefore)]
  simp

/-! ## Sorting attempts -/

theorem partitionResults_ok {ε α : Type} : ∀ l : List α,
    partitionResults (l.map (Except.ok : α → Except ε α)) = ([], l)
  | [] => rfl
  | a :: l => by
    rw [List.map_cons, partitionResults, partitionResults_ok l]

theorem eq_map_ok_of_partitionResults {ε α : Type} : ∀ {l : List (Except ε α)},
    (partitionResults l).1 = [] → l = (partitionResults l).2.map .ok
  | [], _ => rfl
  | .ok a :: l, h => by
    rw [partitionResults] at h ⊢
    rw [List.map_cons, ← eq_map_ok_of_partitionResults h]
  | .error e :: l, h => by
    rw [partitionResults] at h
    cases h

theorem mapError_eq_ok_iff {ε ε' α : Type} {f : ε → ε'} {x : Except ε α} {a : α} :
    x.mapError f = .ok a ↔ x = .ok a := by
  cases x with
  | error e =>
    change Except.error (f e) = .ok a ↔ Except.error e = .ok a
    simp
  | ok b =>
    change Except.ok b = .ok a ↔ Except.ok b = .ok a
    simp

variable [Builder]

/-! ## Compiling a rule -/

namespace Pattern.Regex

variable {pattern : String} {lines : Bool}

theorem compile_of_expr {e : Expr} (h : expr pattern lines = .ok e) :
    compile pattern lines = if Builder.fits pattern lines e then
      .ok ⟨pattern, lines, Program.ofExpr e⟩ else .error (.tooBig memoryLimit) := by
  rw [compile, h]
  rfl

theorem compile_of_fault {fault : CompileError} (h : expr pattern lines = .error fault) :
    compile pattern lines = .error fault := by
  rw [compile, h]
  rfl

end Pattern.Regex

/-- What a rule compiles to is the program of its pattern, with the name and the replacement of the
rule. -/
theorem Rule.exists_expr_of_compile {r : Rule} {k : CompiledRule} (h : r.compile = .ok k) :
    ∃ pattern e, r.pattern = some pattern ∧ Regex.expr pattern r.multiline = .ok e ∧
      k = ⟨r.name, ⟨pattern, r.multiline, Program.ofExpr e⟩, r.replaceWith⟩ := by
  unfold Rule.compile at h
  split at h
  · cases h
  rename_i pattern hpattern
  split at h
  · cases h
  cases hexpr : Regex.expr pattern r.multiline with
  | error fault =>
    rw [Regex.compile_of_fault hexpr] at h
    cases h
  | ok e =>
    refine ⟨pattern, e, hpattern, hexpr, ?_⟩
    rw [Regex.compile_of_expr hexpr] at h
    by_cases hfits : Builder.fits pattern r.multiline e
    · rw [if_pos hfits] at h
      exact (Except.ok.inj h).symm
    · rw [if_neg hfits] at h
      cases h

theorem Rule.name_of_compile {r : Rule} {k : CompiledRule} (h : r.compile = .ok k) :
    k.name = r.name := by
  obtain ⟨_, _, -, -, rfl⟩ := exists_expr_of_compile h
  rfl

/-! ## Compiling a table -/

theorem compileRules_eq_ok_iff {rules : List Rule} {c : CompiledTable} :
    compileRules rules = .ok c ↔
      (rules.filter (·.isEnabled)).map Rule.compile = c.rules.map .ok := by
  rw [compileRules]
  constructor
  · intro h
    have hall := eq_map_ok_of_partitionResults
      (l := (rules.filter (·.isEnabled)).map Rule.compile)
    generalize partitionResults ((rules.filter (·.isEnabled)).map Rule.compile) = answer at h hall
    obtain ⟨faults, compiled⟩ := answer
    cases faults with
    | nil =>
      rw [← Except.ok.inj h]
      exact hall rfl
    | cons => cases h
  · intro h
    rw [h, partitionResults_ok]
    rfl

theorem RuleTable.compile_eq_ok_iff {t : RuleTable} {c : CompiledTable} :
    t.compile.value = .ok c ↔ compileRules t.rules = .ok c := by
  cases h : compileRules t.rules <;> simp [RuleTable.compile, h]

theorem RuleTable.prepare_eq_ok_iff {t : RuleTable} {c : CompiledTable} :
    t.prepare.value = .ok c ↔ compileRules t.rules = .ok c :=
  mapError_eq_ok_iff.trans compile_eq_ok_iff

/-- A table whose enabled rules all compile is ready with the compiled rules in their order. -/
theorem RuleTable.prepare_of_compiles {t : RuleTable} {rs : List CompiledRule}
    (h : (t.rules.filter (·.isEnabled)).map Rule.compile = rs.map Except.ok) :
    t.prepare.value = .ok ⟨rs⟩ :=
  prepare_eq_ok_iff.mpr (compileRules_eq_ok_iff.mpr h)

/-- Disabled rules are not looked at. -/
theorem compileRules_filter (rules : List Rule) :
    compileRules (rules.filter (·.isEnabled)) = compileRules rules := by
  simp only [compileRules, List.filter_filter, Bool.and_self]

/-- Descriptions are not looked at either. -/
theorem compileRules_key (t : RuleTable) : compileRules t.key = compileRules t.rules := by
  have hcompile : ∀ r : Rule, Rule.compile { r with description := none } = r.compile := fun _ => rfl
  have henabled : ∀ r : Rule, Rule.isEnabled { r with description := none } = r.isEnabled :=
    fun _ => rfl
  simp only [compileRules, RuleTable.key, List.filter_map, List.map_map, Function.comp_def, hcompile,
    henabled]

/-! ## Serving compiled tables -/

/-- What serving a table can come to: its entry is there; or it compiles and is entered; or it does not
compile. -/
theorem TableCache.fetch_cases {κ : Type} [DecidableEq κ] {k : Keying κ} (c : TableCache k)
    (t : RuleTable) :
    (∃ s, c.find? (k.key t) = some s ∧ (c.fetch t).1 = c ∧ (c.fetch t).2.value = .ok s) ∨
    (∃ table, c.find? (k.key t) = none ∧ t.compile.value = .ok table ∧
      (c.fetch t).1 = ⟨c.entries ++ [(k.key t, table)]⟩ ∧
      (c.fetch t).2.value = .ok ⟨c.entries.length, table⟩) ∨
    ∃ e, c.find? (k.key t) = none ∧ t.compile.value = .error e ∧ (c.fetch t).1 = c ∧
      (c.fetch t).2.value = .error e := by
  rw [fetch]
  cases hfind : c.find? (k.key t) with
  | some s => exact .inl ⟨s, rfl, rfl, rfl⟩
  | none =>
    obtain ⟨value, records⟩ := t.compile
    cases value with
    | ok table => exact .inr (.inl ⟨table, rfl, rfl, rfl, rfl⟩)
    | error e => exact .inr (.inr ⟨e, rfl, rfl, rfl, rfl⟩)

/-- The first table that is served is compiled. -/
theorem TableCache.fetch_empty {κ : Type} [DecidableEq κ] {k : Keying κ} {t : RuleTable}
    {table : CompiledTable} (h : compileRules t.rules = .ok table) :
    ((empty : TableCache k).fetch t).2.value = .ok ⟨0, table⟩ := by
  have hcompile := RuleTable.compile_eq_ok_iff.mpr h
  obtain ⟨s, hfind, -⟩ | ⟨table', -, hcompile', -, hvalue⟩ | ⟨e, -, herror, -⟩ :=
    (empty : TableCache k).fetch_cases t
  · cases hfind
  · rw [hvalue, Except.ok.inj (hcompile.symm.trans hcompile')]
    rfl
  · rw [hcompile] at herror
    cases herror

namespace RuleCache

open SharedTable

/-- Under every key there is what the rules of the key compile to. -/
def Sound (c : RuleCache) : Prop := ∀ entry ∈ c.entries, compileRules entry.1 = .ok entry.2

theorem sound_empty : empty.Sound := fun _ hentry => nomatch hentry

theorem compileRules_of_findFrom {key : List Rule} {s : SharedTable} :
    ∀ {entries : List (List Rule × CompiledTable)} {number : Nat},
      (∀ entry ∈ entries, compileRules entry.1 = .ok entry.2) →
      findFrom key number entries = some s → compileRules key = .ok s.table
  | [], _, _, h => by cases h
  | (k, table) :: rest, number, hsound, h => by
    obtain ⟨hfirst, hrest⟩ := List.forall_mem_cons.mp hsound
    rw [findFrom] at h
    split at h
    · rename_i hkey
      obtain rfl := Option.some.inj h
      rw [← hkey]
      exact hfirst
    · exact compileRules_of_findFrom hrest h

/-- An entry that is found for a table is what the table compiles to. -/
theorem compileRules_of_find? {c : RuleCache} (hc : c.Sound) {t : RuleTable} {s : SharedTable}
    (h : c.find? t.key = some s) : compileRules t.rules = .ok s.table :=
  (compileRules_key t).symm.trans (compileRules_of_findFrom hc h)

/-- Serving a table gives what it compiles to, and leaves a sound cache behind. -/
theorem fetch_sound {c : RuleCache} (hc : c.Sound) (t : RuleTable) : Sound (c.fetch t).1 ∧
    ∀ table, compileRules t.rules = .ok table →
      ∃ number, (c.fetch t).2.value = .ok ⟨number, table⟩ := by
  obtain ⟨s, hfind, hcache, hvalue⟩ | ⟨table, -, hcompile, hcache, hvalue⟩ |
    ⟨e, -, hcompile, hcache, -⟩ := c.fetch_cases t <;> rw [hcache]
  · refine ⟨hc, fun table htable => ⟨s.number, ?_⟩⟩
    obtain rfl := Except.ok.inj ((compileRules_of_find? hc hfind).symm.trans htable)
    exact hvalue
  · have htable := RuleTable.compile_eq_ok_iff.mp hcompile
    refine ⟨List.forall_mem_append.mpr ⟨hc, ?_⟩, fun table' htable' => ⟨c.entries.length, ?_⟩⟩
    · exact List.forall_mem_singleton.mpr ((compileRules_key t).trans htable)
    · rw [hvalue, Except.ok.inj (htable.symm.trans htable')]
  · refine ⟨hc, fun table htable => ?_⟩
    rw [RuleTable.compile_eq_ok_iff.mpr htable] at hcompile
    cases hcompile

theorem sound_fetchAll {c : RuleCache} (hc : c.Sound) (tables : List RuleTable) :
    Sound (c.fetchAll tables).1 := by
  induction tables generalizing c with
  | nil => exact hc
  | cons t rest ih => exact ih (fetch_sound hc t).1

end RuleCache

end MarkerSweep
