import Mathlib.Data.List.Forall2
import MarkerSweep.Proofs.Pattern.Anchors
import MarkerSweep.Proofs.Rule.Accepted
/-!
# Tables that load

A table is accepted when each of its patterns compiles, but the patterns are then tried without line
anchors, whichever way their rules read them. That settles all but one thing. The pattern of an
accepted rule also means something with line anchors, because no fault depends on them
(`Regex.expr_alike`), so the rule can only fail to compile because the builder finds its pattern too big
when it is read as the rule reads it (`Rule.outgrows`). An accepted table compiles exactly if this
happens to none of its enabled rules, whatever the builder finds too big
(`RuleTable.compiles_of_ofYaml`). For the builder that goes by the footprint there are accepted tables
where it does happen (`compiles_of_ofYaml_twice`).
-/

set_option autoImplicit false

namespace MarkerSweep

open Pattern

/-! ## One rule -/

namespace Rule

/-- Whether the pattern is too big for the builder, read as the rule reads it. -/
def outgrows [Builder] (r : Rule) : Bool :=
  r.pattern.any fun pattern => Regex.compile pattern r.multiline = .error (.tooBig memoryLimit)

/-- The fault of a rule whose pattern is too big. -/
def tooBig (r : Rule) : RuleFault := .pattern r.name (.tooBig memoryLimit)

/-- What compiles from a rule has the name, the pattern, the anchors and the replacement of the rule. -/
structure CompilesTo [Builder] (r : Rule) (k : CompiledRule) : Prop where
  compile : r.compile = .ok k
  name : k.name = r.name
  pattern : r.pattern = some k.regex.pattern
  multiLine : k.regex.multiLine = r.multiline
  replaceWith : k.replaceWith = r.replaceWith

variable [Builder] {r : Rule}

/-- A rule without a fault has a pattern of allowed length that means something and is not too big, as
long as its anchors do not look at lines. -/
theorem expr_of_patternFault? (h : r.patternFault? = none) :
    ∃ pattern e, r.pattern = some pattern ∧ pattern.utf8ByteSize ≤ maxPatternLength ∧
      Regex.expr pattern false = .ok e ∧ Builder.fits pattern false e := by
  obtain ⟨pattern, regex, hpattern, -, hlength, hcompile⟩ := r.patternRemark.eq_none_iff.mp h
  cases hexpr : Regex.expr pattern false with
  | error fault =>
    rw [Regex.compile_of_fault hexpr] at hcompile
    cases hcompile
  | ok e =>
    rw [Regex.compile_of_expr hexpr] at hcompile
    split at hcompile
    · exact ⟨pattern, e, hpattern, hlength, hexpr, ‹_›⟩
    · cases hcompile

/-- A rule without a fault fails to compile if its pattern is too big, and only then. -/
theorem compile_of_patternFault? (h : r.patternFault? = none) :
    if r.outgrows then r.compile = .error r.tooBig else ∃ k, r.CompilesTo k := by
  obtain ⟨pattern, e, hpattern, hlength, hexpr, -⟩ := expr_of_patternFault? h
  obtain ⟨_, herror, -⟩ | ⟨_, e', -, hread⟩ := Regex.expr_alike pattern r.multiline
  · rw [hexpr] at herror
    cases herror
  · have hcompile := Regex.compile_of_expr hread
    cases hfits : Builder.fits pattern r.multiline e' with
    | false =>
      rw [hfits, if_neg Bool.false_ne_true] at hcompile
      simp [outgrows, hpattern, hcompile, compile, Nat.not_lt.mpr hlength, tooBig]
    | true =>
      rw [hfits, if_pos rfl] at hcompile
      have hsmall : r.outgrows = false := by simp [outgrows, hpattern, hcompile]
      rw [hsmall, if_neg Bool.false_ne_true]
      refine ⟨⟨r.name, ⟨pattern, r.multiline, Program.ofExpr e'⟩, r.replaceWith⟩, ?_, rfl, hpattern,
        rfl, rfl⟩
      simp only [compile, hpattern, Nat.not_lt.mpr hlength, if_false, hcompile]

/-- Only by looking at lines can the pattern of a rule without a fault be too big. -/
theorem multiline_of_outgrows (h : r.patternFault? = none) (hbig : r.outgrows = true) :
    r.multiline = true := by
  obtain ⟨pattern, e, hpattern, -, hexpr, hfits⟩ := expr_of_patternFault? h
  cases hlines : r.multiline with
  | true => rfl
  | false => simp [outgrows, hpattern, hlines, Regex.compile_of_expr hexpr, hfits] at hbig

end Rule

/-! ## Tables -/

/-- If it is known which attempts fail, the faults are those of these attempts and the values those of
the others, both in order. -/
theorem partitionResults_sorted {ε α β : Type} {f : α → Except ε β} {bad : α → Bool}
    {P : α → ε → Prop} {Q : α → β → Prop} {l : List α}
    (h : ∀ a ∈ l, if bad a then ∃ e, f a = .error e ∧ P a e else ∃ b, f a = .ok b ∧ Q a b) :
    List.Forall₂ P (l.filter bad) (partitionResults (l.map f)).1 ∧
      List.Forall₂ Q (l.filter (!bad ·)) (partitionResults (l.map f)).2 := by
  induction l with
  | nil => exact ⟨.nil, .nil⟩
  | cons a l ih =>
    obtain ⟨hfirst, hrest⟩ := List.forall_mem_cons.mp h
    obtain ⟨hfaults, hvalues⟩ := ih hrest
    rw [List.map_cons]
    cases hbad : bad a with
    | true =>
      rw [hbad, if_pos rfl] at hfirst
      obtain ⟨e, he, hP⟩ := hfirst
      simp only [he, partitionResults, List.filter_cons, hbad, Bool.not_true, if_true,
        Bool.false_eq_true, if_false]
      exact ⟨.cons hP hfaults, hvalues⟩
    | false =>
      rw [hbad, if_neg Bool.false_ne_true] at hfirst
      obtain ⟨b, hb, hQ⟩ := hfirst
      simp only [hb, partitionResults, List.filter_cons, hbad, Bool.not_false, if_true,
        Bool.false_eq_true, if_false]
      exact ⟨hfaults, .cons hQ hvalues⟩

namespace RuleTable

/-- The enabled rules. -/
def active (t : RuleTable) : List Rule := t.rules.filter (·.isEnabled)

variable [Builder] {t : RuleTable}

theorem patternFault?_of_ofYaml {text : String} (h : ofYaml text = .ok t) :
    ∀ r ∈ t.rules, r.patternFault? = none :=
  fun r hr => r.patternRemark.eq_none_iff.mpr ((acceptable_of_ofYaml h).patterns r hr)

/-- The enabled rules whose patterns are too big. -/
def outgrown (t : RuleTable) : List Rule := t.active.filter (·.outgrows)

/-- Why there is no engine for an accepted table. -/
def outgrownFailure (t : RuleTable) : Failure :=
  (Failure.ofCause (.rules (t.outgrown.map Rule.tooBig))).within
    "Failed to compile cleaning rules for RegexEngine"

/-- The compiled rules of a table stand in the order of its enabled rules. -/
theorem compilesTo_of_compileRules {c : CompiledTable} (h : compileRules t.rules = .ok c)
    (hrules : ∀ r ∈ t.active, ∃ k, r.CompilesTo k) :
    List.Forall₂ Rule.CompilesTo t.active c.rules := by
  have hall : t.active.map Rule.compile = c.rules.map .ok := compileRules_eq_ok_iff.mp h
  have hsame : List.Forall₂ (fun r k => r.compile = .ok k) t.active c.rules := by
    rwa [← List.forall₂_map_left_iff (f := Rule.compile) (R := fun x k => x = .ok k),
      ← List.forall₂_map_right_iff (f := Except.ok) (R := Eq), List.forall₂_eq_eq_eq]
  refine List.forall₂_iff_zip.mpr ⟨hsame.length_eq, fun {r k} hrk => ?_⟩
  have hk : r.compile = .ok k := (List.forall₂_iff_zip.mp hsame).2 hrk
  obtain ⟨k', hto⟩ := hrules r (List.of_mem_zip hrk).1
  obtain rfl : k = k' := Except.ok.inj (hk.symm.trans hto.compile)
  exact hto

/-- If it is known which of its enabled rules fail, a table compiles if none does, and otherwise reports
the faults of those that do, in order. -/
theorem compileRules_sorted {bad : Rule → Bool} {P : Rule → RuleFault → Prop}
    {Q : Rule → CompiledRule → Prop}
    (h : ∀ r ∈ t.active, if bad r then ∃ fault, r.compile = .error fault ∧ P r fault
      else ∃ k, r.compile = .ok k ∧ Q r k) : ∃ faults compiled,
    List.Forall₂ P (t.active.filter bad) faults ∧
      List.Forall₂ Q (t.active.filter (!bad ·)) compiled ∧
      compileRules t.rules = if t.active.filter bad = [] then .ok ⟨compiled⟩ else .error faults := by
  obtain ⟨hfaults, hcompiled⟩ := partitionResults_sorted h
  refine ⟨_, _, hfaults, hcompiled, ?_⟩
  have hempty : (partitionResults (t.active.map Rule.compile)).1 = [] ↔ t.active.filter bad = [] := by
    rw [← List.length_eq_zero_iff, ← hfaults.length_eq, List.length_eq_zero_iff]
  have hcompile : compileRules t.rules =
      if (partitionResults (t.active.map Rule.compile)).1.isEmpty then
        .ok ⟨(partitionResults (t.active.map Rule.compile)).2⟩
      else .error (partitionResults (t.active.map Rule.compile)).1 := rfl
  rw [hcompile]
  simp only [List.isEmpty_iff, hempty]

/-- The faults that compiling an accepted table reports are those of its outgrown rules. -/
theorem compileRules_of_fine (hfine : ∀ r ∈ t.rules, r.patternFault? = none) :
    if t.outgrown.isEmpty then ∃ c, compileRules t.rules = .ok c
    else compileRules t.rules = .error (t.outgrown.map Rule.tooBig) := by
  have hactive : ∀ r ∈ t.active,
      if r.outgrows then ∃ fault, r.compile = .error fault ∧ r.tooBig = fault
      else ∃ k, r.compile = .ok k ∧ r.CompilesTo k := by
    intro r hr
    have h := Rule.compile_of_patternFault? (hfine r (List.mem_of_mem_filter hr))
    split
    · rw [if_pos ‹_›] at h
      exact ⟨_, h, rfl⟩
    · rw [if_neg ‹_›] at h
      obtain ⟨k, hk⟩ := h
      exact ⟨k, hk.compile, hk⟩
  obtain ⟨faults, compiled, hfaults, -, hcompile⟩ := compileRules_sorted hactive
  have hmap : t.outgrown.map Rule.tooBig = faults := by
    rwa [← List.forall₂_eq_eq_eq, List.forall₂_map_left_iff]
  split
  · exact ⟨_, hcompile.trans (if_pos (List.isEmpty_iff.mp ‹_›))⟩
  · rw [hmap]
    exact hcompile.trans (if_neg (mt List.isEmpty_iff.mpr ‹_›))

/-- An accepted table compiles if none of its enabled rules is too big as it is read, each of these rules
to a compiled rule, in order, and an engine runs it. For the other accepted tables there is no engine,
and the failure names all rules that are too big; every one of them is read by lines. -/
theorem compiles_of_ofYaml {text : String} (h : ofYaml text = .ok t) :
    (∀ r ∈ t.outgrown, r.multiline = true) ∧
      (t.outgrown = [] → ∃ c, compileRules t.rules = .ok c ∧ t.prepare.value = .ok c ∧
        List.Forall₂ Rule.CompilesTo t.active c.rules) ∧
      (t.outgrown ≠ [] → compileRules t.rules = .error (t.outgrown.map Rule.tooBig) ∧
        t.prepare.value = .error t.outgrownFailure) := by
  have hfine := patternFault?_of_ofYaml h
  have hactive : ∀ r ∈ t.active, r.patternFault? = none :=
    fun r hr => hfine r (List.mem_of_mem_filter hr)
  have hcompile := compileRules_of_fine hfine
  refine ⟨fun r hr => ?_, fun hnone => ?_, fun hsome => ?_⟩
  · obtain ⟨hr, hbig⟩ := List.mem_filter.mp hr
    exact Rule.multiline_of_outgrows (hactive r hr) hbig
  · rw [hnone, if_pos List.isEmpty_nil] at hcompile
    obtain ⟨c, hc⟩ := hcompile
    refine ⟨c, hc, prepare_eq_ok_iff.mpr hc, compilesTo_of_compileRules hc fun r hr => ?_⟩
    have hr' := Rule.compile_of_patternFault? (hactive r hr)
    rwa [if_neg (List.filter_eq_nil_iff.mp hnone r hr)] at hr'
  · rw [if_neg (mt List.isEmpty_iff.mp hsome)] at hcompile
    refine ⟨hcompile, ?_⟩
    rw [prepare, compile, hcompile]
    rfl

end RuleTable

namespace RuleTable

/-- Without line anchors `^` and `\A` are the same, so both branches share their long beginning. With
line anchors they do not, and the pattern takes up twice the memory. -/
def twice : Rule where
  name := "twice"
  pattern := some
    "^(?:a\x7b1000\x7d)\x7b163\x7da\x7b835\x7d|\\A(?:a\x7b1000\x7d)\x7b163\x7da\x7b835\x7d"

/-- A table that loads and has no engine. -/
theorem compiles_of_ofYaml_twice :
    ofYaml ("rules:\n- name: twice\n  pattern: '" ++ twice.pattern.getD "" ++ "'\n") =
        .ok ⟨[twice]⟩ ∧
      compileRules [twice] = .error [twice.tooBig] ∧
      (prepare ⟨[twice]⟩).value = .error (outgrownFailure ⟨[twice]⟩) := by
  have hload : ofYaml ("rules:\n- name: twice\n  pattern: '" ++ twice.pattern.getD "" ++ "'\n") =
      .ok ⟨[twice]⟩ := by decide +kernel
  have hbig : outgrown ⟨[twice]⟩ = [twice] := by decide +kernel
  obtain ⟨-, -, hfail⟩ := compiles_of_ofYaml hload
  rw [hbig] at hfail
  exact ⟨hload, hfail (List.cons_ne_nil _ _)⟩

end RuleTable

end MarkerSweep
