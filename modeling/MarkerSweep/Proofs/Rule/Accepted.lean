import Mathlib.Data.List.Nodup
import MarkerSweep.Proofs.Rule.Table
import MarkerSweep.Rule.Load
/-!
# Which tables are accepted

A table is looked through once, with the names met so far, and each rule gets up to two remarks: one on
its name and one on its pattern (`Remarks`). Neither remark bears on the other or on those of other
rules. So a table is accepted exactly if its names are distinct and not empty and all its patterns are
fine (`RuleTable.faults_eq_nil_iff`), and of the uses of a name all but the first are remarked on as
duplicates (`count_duplicateName`). Rules without a name are not: the remark on the missing name stands
in for that (`RuleTable.ofYaml_nameless`).
-/

set_option autoImplicit false

namespace MarkerSweep

open Pattern

/-! ## One rule -/

namespace Rule

/-- The rule has a pattern that is not empty and not too long, and that compiles as long as its anchors
do not look at lines. -/
def HasFinePattern [Builder] (r : Rule) : Prop :=
  ∃ pattern regex, r.pattern = some pattern ∧ pattern ≠ "" ∧
    pattern.utf8ByteSize ≤ maxPatternLength ∧ Regex.compile pattern false = .ok regex

/-- What is said of the name of a rule, given the names of the rules before it. -/
inductive NameRemark (earlier : List String) (r : Rule) : Option TableFault → Prop
  | empty : r.name = "" → NameRemark earlier r (some .emptyName)
  | repeated : r.name ≠ "" → r.name ∈ earlier → NameRemark earlier r (some (.duplicateName r.name))
  | fine : r.name ≠ "" → r.name ∉ earlier → NameRemark earlier r none

/-- What is said of the pattern of a rule. -/
inductive PatternRemark [Builder] (r : Rule) : Option TableFault → Prop
  | missing : r.pattern = none → PatternRemark r (some (.missingPattern r.name))
  | empty : r.pattern = some "" → PatternRemark r (some (.emptyPattern r.name))
  | tooLong {pattern : String} : r.pattern = some pattern →
      maxPatternLength < pattern.utf8ByteSize →
      PatternRemark r (some (.tooLong r.name pattern.utf8ByteSize))
  | refused {pattern : String} {error : CompileError} : r.pattern = some pattern → pattern ≠ "" →
      pattern.utf8ByteSize ≤ maxPatternLength → Regex.compile pattern false = .error error →
      PatternRemark r (some (.pattern r.name error))
  | fine : r.HasFinePattern → PatternRemark r none

variable {r : Rule} {earlier : List String} {remark : Option TableFault}

theorem nameRemark (earlier : List String) (r : Rule) :
    r.NameRemark earlier (r.nameFault? earlier) := by
  unfold nameFault?
  split
  · exact .empty (String.isEmpty_iff.mp ‹_›)
  · have hname : r.name ≠ "" := by simpa using ‹¬ r.name.isEmpty = true›
    split
    · exact .repeated hname (by simpa using ‹earlier.contains r.name = true›)
    · exact .fine hname (by simpa using ‹¬ earlier.contains r.name = true›)

theorem NameRemark.eq_none_iff (h : r.NameRemark earlier remark) :
    remark = none ↔ r.name ≠ "" ∧ r.name ∉ earlier := by
  cases h with
  | empty hempty => simp [hempty]
  | repeated _ hmem => simp [hmem]
  | fine hne hnew => simp [hne, hnew]

theorem NameRemark.count_emptyName (h : r.NameRemark earlier remark) :
    remark.toList.count .emptyName = if r.name = "" then 1 else 0 := by
  cases h with
  | empty hempty => simp [hempty]
  | repeated hne => simp [hne]
  | fine hne => simp [hne]

theorem NameRemark.count_duplicateName (h : r.NameRemark earlier remark) (name : String) :
    remark.toList.count (.duplicateName name) =
      if r.name = name ∧ name ≠ "" ∧ name ∈ earlier then 1 else 0 := by
  cases h with
  | empty hempty =>
    simp only [Option.toList_some, List.count_singleton]
    grind
  | repeated hne hmem =>
    simp only [Option.toList_some, List.count_singleton]
    grind
  | fine hne hnew =>
    simp only [Option.toList_none, List.count_nil]
    grind

variable [Builder]

theorem patternRemark (r : Rule) : r.PatternRemark r.patternFault? := by
  unfold patternFault?
  split
  · exact .missing ‹_›
  · rename_i pattern hpattern
    split
    · rename_i hempty
      rw [String.isEmpty_iff.mp hempty] at hpattern
      exact .empty hpattern
    · rename_i hempty
      have hne : pattern ≠ "" := by simpa using hempty
      split
      · exact .tooLong hpattern ‹_›
      · have hlength := Nat.not_lt.mp ‹_›
        split
        · exact .fine ⟨pattern, _, hpattern, hne, hlength, ‹_›⟩
        · exact .refused hpattern hne hlength ‹_›

theorem PatternRemark.eq_none_iff (h : r.PatternRemark remark) :
    remark = none ↔ r.HasFinePattern := by
  cases h with
  | fine hfine => exact iff_of_true rfl hfine
  | missing hpattern =>
    refine iff_of_false (by simp) ?_
    rintro ⟨pattern, _, hsome, -⟩
    simp [hpattern] at hsome
  | empty hpattern =>
    refine iff_of_false (by simp) ?_
    rintro ⟨pattern, _, hsome, hne, -⟩
    exact hne (Option.some.inj (hsome.symm.trans hpattern))
  | tooLong hpattern hlong =>
    refine iff_of_false (by simp) ?_
    rintro ⟨pattern, _, hsome, -, hlength, -⟩
    obtain rfl := Option.some.inj (hsome.symm.trans hpattern)
    exact absurd hlong (Nat.not_lt.mpr hlength)
  | refused hpattern _ _ herror =>
    refine iff_of_false (by simp) ?_
    rintro ⟨pattern, regex, hsome, -, -, hok⟩
    obtain rfl := Option.some.inj (hsome.symm.trans hpattern)
    rw [herror] at hok
    cases hok

/-- A remark on a pattern says nothing of names. -/
theorem PatternRemark.not_name (h : r.PatternRemark remark) :
    .emptyName ∉ remark.toList ∧ ∀ name, .duplicateName name ∉ remark.toList := by
  cases h <;> simp

end Rule

/-! ## Lists of rules -/

/-- The remarks on a list of rules, given the names before it, are the remarks on its rules, in their
order: of each rule first the one on its name and then the one on its pattern. -/
inductive Remarks [Builder] : List String → List Rule → List TableFault → Prop
  | nil {earlier : List String} : Remarks earlier [] []
  | cons {earlier : List String} {r : Rule} {rest : List Rule} {faults : List TableFault}
      {name pattern : Option TableFault} : r.NameRemark earlier name → r.PatternRemark pattern →
      Remarks (r.name :: earlier) rest faults →
      Remarks earlier (r :: rest) (name.toList ++ pattern.toList ++ faults)

theorem remarks_tableFaultsFrom [Builder] : ∀ (earlier : List String) (rules : List Rule),
    Remarks earlier rules (tableFaultsFrom earlier rules)
  | _, [] => .nil
  | earlier, r :: rest =>
    .cons (r.nameRemark earlier) r.patternRemark (remarks_tableFaultsFrom (r.name :: earlier) rest)

namespace Remarks

variable [Builder] {earlier : List String} {rules : List Rule} {faults : List TableFault}

theorem eq_nil_iff (h : Remarks earlier rules faults) : faults = [] ↔
    (∀ r ∈ rules, r.name ≠ "" ∧ r.HasFinePattern) ∧ (rules.map Rule.name).Nodup ∧
      ∀ r ∈ rules, r.name ∉ earlier := by
  induction h with
  | nil => simp
  | @cons earlier r rest faults name pattern hname hpattern _ ih =>
    simp only [List.append_eq_nil_iff, Option.toList_eq_nil_iff, hname.eq_none_iff,
      hpattern.eq_none_iff, ih, List.map_cons, List.nodup_cons, List.mem_cons,
      List.mem_map, not_or]
    grind

/-- Every rule without a name is remarked on once. -/
theorem count_emptyName (h : Remarks earlier rules faults) :
    faults.count .emptyName = (rules.map Rule.name).count "" := by
  induction h with
  | nil => rfl
  | @cons earlier r rest faults name pattern hname hpattern _ ih =>
    rw [List.count_append, List.count_append, hname.count_emptyName,
      List.count_eq_zero.mpr hpattern.not_name.1, ih, List.map_cons, List.count_cons]
    simp only [beq_iff_eq]
    omega

/-- Of the rules of a name, all but the first one are remarked on, and that one too if there are rules of
the name before the list. -/
theorem count_duplicateName (h : Remarks earlier rules faults) {name : String} (hne : name ≠ "") :
    faults.count (.duplicateName name) =
      (rules.map Rule.name).count name - if name ∈ earlier then 0 else 1 := by
  induction h with
  | nil => simp
  | @cons earlier r rest faults remark pattern hname hpattern _ ih =>
    rw [List.count_append, List.count_append, hname.count_duplicateName,
      List.count_eq_zero.mpr (hpattern.not_name.2 name), ih, List.map_cons, List.count_cons]
    by_cases hsame : r.name = name
    · by_cases hmem : name ∈ earlier <;> simp [hsame, hne, hmem]
      omega
    · by_cases hmem : name ∈ earlier <;> simp [hsame, hmem, Ne.symm hsame]

theorem count_duplicateName_empty (h : Remarks earlier rules faults) :
    faults.count (.duplicateName "") = 0 := by
  induction h with
  | nil => rfl
  | cons hname hpattern _ ih =>
    rw [List.count_append, List.count_append, hname.count_duplicateName,
      List.count_eq_zero.mpr (hpattern.not_name.2 ""), ih]
    simp

end Remarks

/-! ## Tables -/

namespace RuleTable

variable [Builder]

/-- What a table must be like to be accepted. -/
structure Acceptable (t : RuleTable) : Prop where
  named : ∀ r ∈ t.rules, r.name ≠ ""
  distinct : (t.rules.map Rule.name).Nodup
  patterns : ∀ r ∈ t.rules, r.HasFinePattern

/-- The failure that reports some faults. -/
def refusal (faults : List TableFault) : Failure :=
  Failure.other ("Rule validation failed:\n" ++
    String.intercalate "\n" (faults.map TableFault.message))

/-- The faults are all there is to say against a table. -/
structure Refused (t : RuleTable) (faults : List TableFault) : Prop where
  nonempty : faults ≠ []
  remarks : Remarks [] t.rules faults
  duplicates : ∀ name, faults.count (.duplicateName name) =
    if name = "" then 0 else (t.rules.map Rule.name).count name - 1
  nameless : faults.count .emptyName = (t.rules.map Rule.name).count ""

variable {t : RuleTable}

theorem faults_eq_nil_iff : t.faults = [] ↔ t.Acceptable := by
  rw [faults, (remarks_tableFaultsFrom [] t.rules).eq_nil_iff]
  constructor
  · rintro ⟨hrules, hdistinct, -⟩
    exact ⟨fun r hr => (hrules r hr).1, hdistinct, fun r hr => (hrules r hr).2⟩
  · rintro ⟨hnamed, hdistinct, hpatterns⟩
    exact ⟨fun r hr => ⟨hnamed r hr, hpatterns r hr⟩, hdistinct, by simp⟩

theorem check_of_acceptable (h : t.Acceptable) : t.check = .ok t := by
  rw [check, faults_eq_nil_iff.mpr h]
  rfl

theorem check_of_not_acceptable (h : ¬ t.Acceptable) : t.check = .error (refusal t.faults) := by
  rw [check, if_neg (by simpa [faults_eq_nil_iff] using h), refusal]

theorem acceptable_of_check {u : RuleTable} (h : u.check = .ok t) : u = t ∧ t.Acceptable := by
  rw [check] at h
  split at h
  · obtain rfl := Except.ok.inj h
    exact ⟨rfl, faults_eq_nil_iff.mp (List.isEmpty_iff.mp ‹_›)⟩
  · cases h

theorem acceptable_of_ofYaml {text : String} (h : ofYaml text = .ok t) : t.Acceptable := by
  rw [ofYaml] at h
  split at h
  · exact (acceptable_of_check h).2
  · cases h

theorem refused_faults (h : ¬ t.Acceptable) : t.Refused t.faults := by
  have hremarks : Remarks [] t.rules t.faults := remarks_tableFaultsFrom [] t.rules
  refine ⟨mt faults_eq_nil_iff.mp h, hremarks, fun name => ?_, hremarks.count_emptyName⟩
  split
  · rename_i hempty
    rw [hempty]
    exact hremarks.count_duplicateName_empty
  · rename_i hne
    simpa using hremarks.count_duplicateName hne

/-- Each rule of an acceptable table makes an acceptable table of its own. -/
theorem Acceptable.single (h : t.Acceptable) {r : Rule} (hr : r ∈ t.rules) :
    Acceptable ⟨[r]⟩ where
  named := by simpa using h.named r hr
  distinct := List.nodup_singleton _
  patterns := by simpa using h.patterns r hr

/-- The table that a text holds is accepted as it is if it is acceptable, and only then; otherwise the
failure reports all there is to say against it. In an accepted table each rule is found by its name, and
makes a table of its own that is accepted too. -/
theorem ofYaml_accepts {text : String} (h : parse text = .ok t) :
    (ofYaml text = .ok t ↔ t.Acceptable) ∧
      (¬ t.Acceptable → ∃ faults, ofYaml text = .error (refusal faults) ∧ t.Refused faults) ∧
      (t.Acceptable → ∀ r ∈ t.rules, t.rule? r.name = some r ∧ t.only r.name = .ok ⟨[r]⟩ ∧
        check ⟨[r]⟩ = .ok ⟨[r]⟩) := by
  have hcheck : ofYaml text = t.check := by rw [ofYaml, h]
  rw [hcheck]
  refine ⟨⟨fun hok => (acceptable_of_check hok).2, check_of_acceptable⟩, fun hbad => ?_, fun hgood r hr => ?_⟩
  · exact ⟨t.faults, check_of_not_acceptable hbad, refused_faults hbad⟩
  · have hrule : t.rule? r.name = some r := rule?_of_nodup hgood.distinct hr
    exact ⟨hrule, by rw [only, hrule], check_of_acceptable (hgood.single hr)⟩

end RuleTable

namespace RuleTable

/-- Two rules against which there is nothing to say. -/
def pair : RuleTable :=
  ⟨[{ name := "x", pattern := "a" }, { name := "y", pattern := "b", enabled := some false }]⟩

def pairText : String :=
  "rules:\n- name: x\n  pattern: a\n- name: y\n  pattern: b\n  enabled: false\n"

/-- A name that is used three times, once without a pattern and once with a broken one, and a rule that
says nothing at all. -/
def mixed : RuleTable :=
  ⟨[{ name := "x", pattern := "a" }, { name := "x" }, { name := "x", pattern := "(" }, {}]⟩

def mixedText : String :=
  "rules:\n- name: x\n  pattern: a\n- name: x\n- name: x\n  pattern: '('\n- \x7b\x7d\n"

theorem ofYaml_accepts_pair :
    (ofYaml pairText = .ok pair ∧ ∀ r ∈ pair.rules, pair.only r.name = .ok ⟨[r]⟩) ∧
      ∃ faults, ofYaml mixedText = .error (refusal faults) ∧ mixed.Refused faults ∧
        faults.count (.duplicateName "x") = 2 := by
  have hpair : parse pairText = .ok pair := by decide +kernel
  have hmixed : parse mixedText = .ok mixed := by decide +kernel
  obtain ⟨hiff, -, hfound⟩ := ofYaml_accepts hpair
  have hok : ofYaml pairText = .ok pair := by decide +kernel
  refine ⟨⟨hok, fun r hr => (hfound (hiff.mp hok) r hr).2.1⟩, ?_⟩
  obtain ⟨-, hrefused, -⟩ := ofYaml_accepts hmixed
  have hbad : ¬ mixed.Acceptable := fun h => absurd h.distinct (by decide)
  obtain ⟨faults, herror, h⟩ := hrefused hbad
  exact ⟨faults, herror, h, h.duplicates "x"⟩

/-- Two rules without a name. -/
def nameless : RuleTable := ⟨[{ pattern := "a" }, { pattern := "b" }]⟩

def namelessText : String := "rules:\n- pattern: a\n- pattern: b\n"

/-- Rules without a name are not said to share one. -/
theorem ofYaml_nameless :
    parse namelessText = .ok nameless ∧
      ofYaml namelessText = .error (refusal [.emptyName, .emptyName]) ∧
      (refusal [.emptyName, .emptyName]).message = "Rule validation failed:\n" ++
        "A rule has an empty `name` field.\nA rule has an empty `name` field." ∧
      [TableFault.emptyName, .emptyName].count (.duplicateName "") ≠
        (nameless.rules.map Rule.name).count "" - 1 := by
  decide +kernel

end RuleTable

end MarkerSweep
