import Mathlib.Algebra.GroupWithZero.Nat
import MarkerSweep.Proofs.Clean.BlankLines
import MarkerSweep.Proofs.Clean.Deletion
import MarkerSweep.Proofs.Marker.CodeLines
/-!
# Cleaning is local between code lines

Where a code line is followed by another one, a text can be cut and its halves cleaned by themselves
(`clean_append_of_code`). Every marker rule splits there, since the two lines are foreign to it, and
it leaves both where they are, so that the rule after it finds the same situation. The line feed
between them is a run by itself, so blank lines are collapsed on either side as well.

That both lines stand there is needed. After a `//` alone, or before a report alone, a marker may
reach over the cut.
-/

set_option autoImplicit false

namespace MarkerSweep

open Pattern Text CompiledTable

/-- The text ends with a code line and its line feed. -/
def EndsWithCode (text : List Char) : Prop :=
  ∃ x line, text = x ++ (line ++ ['\n']) ∧ AtLineStart (lastOr none x) ∧ CodeLine line

/-- The first line of the text is a code line. -/
def StartsWithCode (text : List Char) : Prop :=
  ∃ line v, text = line ++ v ∧ AtLineEnd v ∧ CodeLine line

/-- How often a rule matched according to a summary; never, if it is not listed. -/
def Summary.occurrences (s : Summary) (name : String) : Nat :=
  ((s.filter (·.rule = name)).map (·.count)).sum

theorem Summary.occurrences_cons (rule name : String) (count : Nat) (s : Summary) :
    occurrences (⟨rule, count⟩ :: s) name =
      (if rule = name then count else 0) + s.occurrences name := by
  by_cases h : rule = name <;> simp [occurrences, h]

/-! ## The stages -/

namespace MarkerRule

variable {k : MarkerRule} {left right text : String}

theorem splits (hk : k ∈ builtin) (hl : EndsWithCode left.toList)
    (hr : StartsWithCode right.toList) : k.compiled.Splits left right := by
  obtain ⟨x, line, hleft, hx, hline⟩ := hl
  obtain ⟨line', v, hright, hv, hline'⟩ := hr
  have hseam := (hline.foreign hk).seam (hline'.foreign hk) hx hv
  rw [← hright] at hseam
  rw [← List.append_assoc] at hleft
  exact CompiledRule.splits_of_seam rfl k.loopsConsume k.consumes hleft hseam

theorem endsWithCode (hk : k ∈ builtin) (h : EndsWithCode text.toList) :
    EndsWithCode (k.compiled.applyCounted text).1.toList := by
  obtain ⟨x, line, htext, hx, hline⟩ := h
  obtain ⟨cuts, last, hsweep, happly⟩ := k.applyCounted_sweep text
  obtain ⟨x', hweave, hx'⟩ := (hline.foreign hk).exists_weave_append hsweep x htext hx
  rw [happly, String.toList_ofList]
  exact ⟨x', line, hweave, hx', hline⟩

theorem startsWithCode (hk : k ∈ builtin) (h : StartsWithCode text.toList) :
    StartsWithCode (k.compiled.applyCounted text).1.toList := by
  obtain ⟨line, v, htext, hv, hline⟩ := h
  obtain ⟨cuts, last, hsweep, happly⟩ := k.applyCounted_sweep text
  obtain ⟨v', hweave, hv'⟩ :=
    (hline.foreign hk).exists_append_weave hsweep htext atLineStart_none hv
  rw [happly, String.toList_ofList]
  exact ⟨line, v', hweave, hv', hline⟩

end MarkerRule

theorem splits_collapse {left right : String} (hl : EndsWithCode left.toList)
    (hr : StartsWithCode right.toList) : collapseCompiled.Splits left right := by
  obtain ⟨x, line, hleft, -, -⟩ := hl
  obtain ⟨line', v, hright, hv, hline'⟩ := hr
  -- the first character of a code line is no line feed
  have hmeet : ∀ c ∈ left.toList.getLast?, ∀ d ∈ right.toList.head?, (c = '\n') ≠ (d = '\n') := by
    intro c hc d hd
    obtain rfl : c = '\n' := by simpa [hleft] using hc.symm
    have hd : d ∈ line' := by
      have hne : line' ≠ [] := by
        rintro rfl
        exact hline'.not_blank rfl
      rw [hright, List.head?_append_of_ne_nil _ hne] at hd
      exact List.mem_of_mem_head? hd
    have : d ≠ '\n' := fun h => hline'.oneLine (h ▸ hd)
    simp [this]
  obtain ⟨htext, hcount⟩ := collapsed_append hmeet
  rw [CompiledRule.Splits, applyCounted_collapse, applyCounted_collapse, applyCounted_collapse,
    String.toList_append, htext, hcount, String.ofList_append]

/-! ## All of them -/

/-- What is made of two texts put together is what is made of each. -/
structure Joins (left right both : String × Summary) : Prop where
  text : both.1 = left.1 ++ right.1
  occurrences : ∀ name,
    both.2.occurrences name = left.2.occurrences name + right.2.occurrences name

theorem Joins.cons {rule : CompiledRule} {rest : List CompiledRule} {left right : String}
    (h : rule.Splits left right)
    (h' : Joins (cleanFrom (rule.applyCounted left).1 rest)
      (cleanFrom (rule.applyCounted right).1 rest)
      (cleanFrom ((rule.applyCounted left).1 ++ (rule.applyCounted right).1) rest)) :
    Joins (cleanFrom left (rule :: rest)) (cleanFrom right (rule :: rest))
      (cleanFrom (left ++ right) (rule :: rest)) := by
  have hcounted : ∀ text name, (cleanFrom text (rule :: rest)).2.occurrences name =
      (if rule.name = name then (rule.applyCounted text).2 else 0) +
        (cleanFrom (rule.applyCounted text).1 rest).2.occurrences name := by
    intro text name
    rw [cleanFrom_cons]
    by_cases hcount : (rule.applyCounted text).2 = 0
    · simp [hcount]
    · simp only [hcount, if_false, Summary.occurrences_cons]
  constructor
  · simp only [cleanFrom_cons]
    rw [h]
    exact h'.text
  · intro name
    rw [hcounted, hcounted, hcounted, h, h'.occurrences name]
    split <;> omega

theorem joins_cleanFrom : ∀ ks ⊆ MarkerRule.builtin, ∀ left right : String,
    EndsWithCode left.toList → StartsWithCode right.toList →
      Joins (cleanFrom left (ks.map MarkerRule.compiled ++ [collapseCompiled]))
        (cleanFrom right (ks.map MarkerRule.compiled ++ [collapseCompiled]))
        (cleanFrom (left ++ right) (ks.map MarkerRule.compiled ++ [collapseCompiled]))
  | [], _, left, right, hl, hr => Joins.cons (splits_collapse hl hr) ⟨rfl, fun _ => rfl⟩
  | k :: ks, hks, left, right, hl, hr => by
    obtain ⟨hk, hks⟩ := List.cons_subset.mp hks
    exact Joins.cons (MarkerRule.splits hk hl hr)
      (joins_cleanFrom ks hks _ _ (MarkerRule.endsWithCode hk hl) (MarkerRule.startsWithCode hk hr))

/-! ## Cleaning -/

/-- Two texts from which characters were deleted are changed together if one of them is changed. -/
theorem bne_append_of_sublist {u v s t : String} (hu : u.toList.Sublist s.toList)
    (hv : v.toList.Sublist t.toList) : (u ++ v != s ++ t) = (u != s || v != t) := by
  have hboth : u ++ v = s ++ t ↔ u = s ∧ v = t := by
    constructor
    · intro h
      have htext := congrArg String.toList h
      rw [String.toList_append, String.toList_append] at htext
      have hlen := congrArg List.length htext
      have hu := hu.length_le
      have hv := hv.length_le
      rw [List.length_append, List.length_append] at hlen
      obtain ⟨h₁, h₂⟩ := List.append_inj htext (by omega)
      exact ⟨String.toList_inj.mp h₁, String.toList_inj.mp h₂⟩
    · rintro ⟨rfl, rfl⟩
      rfl
  rw [Bool.eq_iff_iff, Bool.or_eq_true, bne_iff_ne, bne_iff_ne, bne_iff_ne, Ne, hboth]
  exact not_and_or

/-- If a text ends with a code line and its line feed, and another one begins with a code line, then
cleaning the two put together is cleaning each: the texts are put together, the matches of every
rule add up, and there is a change if there is one on either side. -/
theorem clean_append_of_code (left right : String) (hl : EndsWithCode left.toList)
    (hr : StartsWithCode right.toList) :
    ∃ o₁ o₂ o, clean left = .ok o₁ ∧ clean right = .ok o₂ ∧ clean (left ++ right) = .ok o ∧
      o.text = o₁.text ++ o₂.text ∧
      (∀ name,
        o.summary.occurrences name = o₁.summary.occurrences name + o₂.summary.occurrences name) ∧
      o.changed = (o₁.changed || o₂.changed) := by
  have hclean := RuleTable.clean_of_prepare prepare_builtin
  have hjoins : Joins (builtinCompiled.clean left) (builtinCompiled.clean right)
      (builtinCompiled.clean (left ++ right)) := by
    simp only [CompiledTable.clean, builtinCompiled]
    exact joins_cleanFrom MarkerRule.builtin (List.Subset.refl _) left right hl hr
  have hdeletes : ∀ text, (builtinCompiled.clean text).1.toList.Sublist text.toList := by
    intro text
    rw [CompiledTable.clean, ← DeletingRule.map_compiled_builtin]
    exact (deletes_cleanFrom DeletingRule.builtin text).sublist
  have hchanged := bne_append_of_sublist (hdeletes left) (hdeletes right)
  rw [← hjoins.text] at hchanged
  have h₁ := hclean left
  have h₂ := hclean right
  have h := hclean (left ++ right)
  -- what the rules answer is not to be computed
  generalize builtinCompiled.clean left = a₁ at hjoins hchanged h₁
  generalize builtinCompiled.clean right = a₂ at hjoins hchanged h₂
  generalize builtinCompiled.clean (left ++ right) = a at hjoins hchanged h
  exact ⟨_, _, _, h₁, h₂, h, hjoins.text, hjoins.occurrences, hchanged⟩

theorem clean_append_calls :
    EndsWithCode "// MF_REPORT_A\n\n\n\nf();\n".toList ∧
      StartsWithCode "g();\n// __MF_REPORT_B__\n".toList ∧
      ∃ o₁ o₂ o, clean "// MF_REPORT_A\n\n\n\nf();\n" = .ok o₁ ∧
        clean "g();\n// __MF_REPORT_B__\n" = .ok o₂ ∧
        clean ("// MF_REPORT_A\n\n\n\nf();\n" ++ "g();\n// __MF_REPORT_B__\n") = .ok o ∧
        o.text = o₁.text ++ o₂.text ∧
        (∀ name, o.summary.occurrences name =
          o₁.summary.occurrences name + o₂.summary.occurrences name) ∧
        o.changed = (o₁.changed || o₂.changed) := by
  have hl : EndsWithCode "// MF_REPORT_A\n\n\n\nf();\n".toList :=
    ⟨"// MF_REPORT_A\n\n\n\n".toList, "f();".toList, by decide, by simp [AtLineStart], by decide⟩
  have hr : StartsWithCode "g();\n// __MF_REPORT_B__\n".toList :=
    ⟨"g();".toList, "\n// __MF_REPORT_B__\n".toList, by decide, by simp, by decide⟩
  exact ⟨hl, hr, clean_append_of_code _ _ hl hr⟩

end MarkerSweep
