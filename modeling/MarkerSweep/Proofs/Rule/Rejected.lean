import MarkerSweep.Proofs.Rule.Loading
/-!
# Tables that do not compile

What keeps a rule from compiling is told by its pattern alone (`Rule.Objection`): there is none, it is
too long, or it is refused as the rule reads it. Several objections can hold at once, and then the first
of them is the one that is reported (`Rule.compile_cases`). Compiling goes through the enabled
rules one by one and sorts what comes of them into faults and compiled rules. So either all enabled rules
have compiled, or every one that has not is in the report, in order (`RuleTable.compile_wholly`).
-/

set_option autoImplicit false

namespace MarkerSweep

open Pattern

/-! ## Objections -/

/-- The order in which objections come. -/
def RuleFault.rank : RuleFault → Nat
  | missingPattern _ => 0
  | tooLong _ _ => 1
  | pattern _ _ => 2

/-- The text has the name in quotation marks. -/
def Quotes (text name : String) : Prop := ∃ front back, text = front ++ "'" ++ name ++ "'" ++ back

namespace Rule

/-- What there is against compiling a rule. -/
inductive Objection [Builder] (r : Rule) : RuleFault → Prop
  | noPattern : r.pattern = none → Objection r (.missingPattern r.name)
  | tooLong {pattern : String} : r.pattern = some pattern →
      maxPatternLength < pattern.utf8ByteSize → Objection r (.tooLong r.name pattern.utf8ByteSize)
  | refused {pattern : String} {error : CompileError} : r.pattern = some pattern →
      Regex.compile pattern r.multiline = .error error → Objection r (.pattern r.name error)

/-- The fault is the first objection to the rule, and its message names the rule. -/
structure ReportedAs [Builder] (r : Rule) (fault : RuleFault) : Prop where
  objection : r.Objection fault
  first : ∀ other, r.Objection other → fault.rank ≤ other.rank
  named : Quotes fault.message r.name

/-- Whether a rule has no pattern, or one that is too long, or one that is refused. -/
def isRejected [Builder] (r : Rule) : Bool :=
  match r.pattern with
  | none => true
  | some pattern =>
    maxPatternLength < pattern.utf8ByteSize || !(Regex.compile pattern r.multiline).isOk

variable [Builder] {r : Rule} {fault : RuleFault}

theorem isRejected_iff : r.isRejected = true ↔ ∃ fault, r.Objection fault := by
  unfold isRejected
  constructor
  · intro h
    cases hpattern : r.pattern with
    | none => exact ⟨_, .noPattern hpattern⟩
    | some pattern =>
      simp only [hpattern, Bool.or_eq_true, decide_eq_true_eq] at h
      rcases h with hlong | hrefused
      · exact ⟨_, .tooLong hpattern hlong⟩
      · cases hcompile : Regex.compile pattern r.multiline with
        | error error => exact ⟨_, .refused hpattern hcompile⟩
        | ok regex => simp [hcompile, Except.isOk, Except.toBool] at hrefused
  · rintro ⟨fault, hfault⟩
    cases hfault with
    | noPattern hpattern => simp [hpattern]
    | tooLong hpattern hlong => simp [hpattern, hlong]
    | refused hpattern hcompile => simp [hpattern, hcompile, Except.isOk, Except.toBool]

/-- Whatever the objection, its message names the rule. -/
theorem Objection.quotes (h : r.Objection fault) : Quotes fault.message r.name := by
  cases h with
  | noPattern =>
    refine ⟨"Rule ", " has no pattern", ?_⟩
    show "Rule '" ++ r.name ++ "' has no pattern" = _
    simp [← String.toList_inj]
  | @tooLong pattern =>
    refine ⟨"Rule ", ": pattern length (" ++ toString pattern.utf8ByteSize ++
      ") exceeds maximum allowed (" ++ toString maxPatternLength ++ ")", ?_⟩
    show "Rule '" ++ r.name ++ "': pattern length (" ++ toString pattern.utf8ByteSize ++
      ") exceeds maximum allowed (" ++ toString maxPatternLength ++ ")" = _
    simp [← String.toList_inj]
  | @refused pattern error =>
    refine ⟨"Failed to compile cleaning rule ", ": " ++ error.message, ?_⟩
    show "Failed to compile cleaning rule '" ++ r.name ++ "': " ++ error.message = _
    simp [← String.toList_inj]

theorem compilesTo_of_compile {k : CompiledRule} (h : r.compile = .ok k) : r.CompilesTo k := by
  obtain ⟨pattern, e, hpattern, -, rfl⟩ := exists_expr_of_compile h
  exact ⟨h, rfl, hpattern, rfl, rfl⟩

/-- A rule is reported as its first objection, or there is none and it compiles. -/
theorem compile_cases (r : Rule) : (∃ fault, r.compile = .error fault ∧ r.ReportedAs fault) ∨
    (∀ fault, ¬ r.Objection fault) ∧ ∃ k, r.compile = .ok k ∧ r.CompilesTo k := by
  have hreported : ∀ {fault}, r.Objection fault →
      (∀ other, r.Objection other → fault.rank ≤ other.rank) → r.ReportedAs fault :=
    fun hfault hfirst => ⟨hfault, hfirst, hfault.quotes⟩
  cases hpattern : r.pattern with
  | none =>
    have hcompile : r.compile = .error (.missingPattern r.name) := by simp [compile, hpattern]
    exact .inl ⟨_, hcompile, hreported (.noPattern hpattern) fun _ _ => Nat.zero_le _⟩
  | some pattern =>
    by_cases hlong : maxPatternLength < pattern.utf8ByteSize
    · have hcompile : r.compile = .error (.tooLong r.name pattern.utf8ByteSize) := by
        simp [compile, hpattern, hlong]
      refine .inl ⟨_, hcompile, hreported (.tooLong hpattern hlong) fun other hother => ?_⟩
      cases hother with
      | noPattern hnone => simp [hpattern] at hnone
      | tooLong => exact Nat.le_refl 1
      | refused => exact Nat.le_succ 1
    · cases hregex : Regex.compile pattern r.multiline with
      | error error =>
        have hcompile : r.compile = .error (.pattern r.name error) := by
          simp [compile, hpattern, hlong, hregex]
        refine .inl ⟨_, hcompile, hreported (.refused hpattern hregex) fun other hother => ?_⟩
        cases hother with
        | noPattern hnone => simp [hpattern] at hnone
        | tooLong hsome hlong' =>
          obtain rfl : pattern = _ := Option.some.inj (hpattern.symm.trans hsome)
          exact absurd hlong' hlong
        | refused => exact Nat.le_refl _
      | ok regex =>
        have hcompile : r.compile = .ok ⟨r.name, regex, r.replaceWith⟩ := by
          simp [compile, hpattern, hlong, hregex]
        refine .inr ⟨fun fault hfault => ?_, _, hcompile, compilesTo_of_compile hcompile⟩
        cases hfault with
        | noPattern hnone => simp [hpattern] at hnone
        | tooLong hsome hlong' =>
          obtain rfl : pattern = _ := Option.some.inj (hpattern.symm.trans hsome)
          exact hlong hlong'
        | refused hsome herror =>
          obtain rfl : pattern = _ := Option.some.inj (hpattern.symm.trans hsome)
          simp [hregex] at herror

theorem compile_of_isRejected (r : Rule) :
    if r.isRejected then ∃ fault, r.compile = .error fault ∧ r.ReportedAs fault
    else ∃ k, r.compile = .ok k ∧ r.CompilesTo k := by
  rcases r.compile_cases with ⟨fault, hcompile, hreported⟩ | ⟨hnone, hcompiles⟩
  · rw [if_pos (isRejected_iff.mpr ⟨fault, hreported.objection⟩)]
    exact ⟨fault, hcompile, hreported⟩
  · rw [if_neg fun h => (isRejected_iff.mp h).elim hnone]
    exact hcompiles

end Rule

/-! ## Tables -/

namespace RuleTable

/-- The enabled rules to which there is an objection. -/
def rejected [Builder] (t : RuleTable) : List Rule := t.active.filter (·.isRejected)

/-- What the report of some faults says, with the number of rules it is about. -/
def reportText (number : Nat) (faults : List RuleFault) : String :=
  "A fatal error occurred: Failed to compile " ++ toString number ++ " rule(s):\n" ++
    String.intercalate "\n" (faults.map RuleFault.message)

theorem message_rules {number : Nat} {faults : List RuleFault} (h : number = faults.length) :
    (Failure.ofCause (.rules faults)).message = reportText number faults := by
  have hlinks : (Failure.ofCause (.rules faults)).message =
      String.intercalate ": " [(Cause.rules faults).message] := rfl
  rw [hlinks, String.intercalate_singleton, h]
  rfl

/-- A table compiles as a whole or not at all. If there is no objection to an enabled rule, all of them
have compiled, in order; otherwise the failure reports every rule to which there is one, in order and
each with the first objection. Only the enabled rules matter. -/
theorem compile_wholly [Builder] (t : RuleTable) :
    (if t.rejected = [] then
        ∃ c, t.compile.value = .ok c ∧ List.Forall₂ Rule.CompilesTo t.active c.rules
      else ∃ faults, t.compile.value = .error (Failure.ofCause (.rules faults)) ∧
        List.Forall₂ Rule.ReportedAs t.rejected faults ∧
        (Failure.ofCause (.rules faults)).message = reportText t.rejected.length faults) ∧
      ∀ u : RuleTable, u.active = t.active → u.compile.value = t.compile.value := by
  refine ⟨?_, fun u hu => ?_⟩
  · obtain ⟨faults, compiled, hfaults, hcompiled, hcompile⟩ :=
      compileRules_sorted (t := t) fun r _ => r.compile_of_isRejected
    rw [← rejected] at hfaults hcompile
    split
    · rename_i hnone
      rw [if_pos hnone] at hcompile
      have hall : t.active.filter (!·.isRejected) = t.active := by
        rw [List.filter_eq_self]
        intro r hr
        simpa using List.filter_eq_nil_iff.mp hnone r hr
      rw [hall] at hcompiled
      exact ⟨_, compile_eq_ok_iff.mpr hcompile, hcompiled⟩
    · rename_i hsome
      rw [if_neg hsome] at hcompile
      exact ⟨faults, by rw [compile, hcompile], hfaults, message_rules hfaults.length_eq⟩
  · have hrules : compileRules u.rules = compileRules t.rules := by
      rw [← compileRules_filter u.rules, ← compileRules_filter t.rules]
      exact congrArg compileRules hu
    simp only [compile, hrules]

example : (compileRules [{ name := "kept", pattern := "a" }, { name := "bare" },
      { name := "off", pattern := "(", enabled := some false }, { name := "open", pattern := "(" }]
    ).mapError (·.map RuleFault.rule) = .error ["bare", "open"] := by
  decide +kernel

end RuleTable

end MarkerSweep
