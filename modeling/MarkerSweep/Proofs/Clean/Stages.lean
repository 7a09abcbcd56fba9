import MarkerSweep.Proofs.Marker.Builtin
import MarkerSweep.Proofs.Rule.Collapse
import MarkerSweep.Proofs.Rule.Table
/-!
# The stages of cleaning

Cleaning with the built-in rules never fails. It removes the five markers one after another and
collapses blank lines at the end (`exists_stages`). What holds of removing one marker holds of
removing several in a row, because every stage only drops lines that hold pieces of its marker:
`Cleared` says it of a list of marker rules, and the theorems on cleaning are read off it.
-/

set_option autoImplicit false

namespace MarkerSweep

open Pattern Text

namespace CompiledTable

theorem cleanFrom_cons (text : String) (r : CompiledRule) (rest : List CompiledRule) :
    cleanFrom text (r :: rest) =
      ((cleanFrom (r.applyCounted text).1 rest).1,
        if (r.applyCounted text).2 = 0 then (cleanFrom (r.applyCounted text).1 rest).2
        else ⟨r.name, (r.applyCounted text).2⟩ :: (cleanFrom (r.applyCounted text).1 rest).2) := by
  simp only [cleanFrom]

theorem cleanFrom_append (text : String) : ∀ rs rs' : List CompiledRule,
    cleanFrom text (rs ++ rs') =
      ((cleanFrom (cleanFrom text rs).1 rs').1,
        (cleanFrom text rs).2 ++ (cleanFrom (cleanFrom text rs).1 rs').2)
  | [], rs' => by simp [cleanFrom]
  | r :: rs, rs' => by
    simp only [List.cons_append, cleanFrom_cons, cleanFrom_append _ rs rs']
    split <;> simp

end CompiledTable

open CompiledTable

/-- The hits of a rule that matched some number of times. -/
def hits (name : String) (count : Nat) : Summary := if count = 0 then [] else [⟨name, count⟩]

/-- What removing some markers, one after another, makes of a text, and which were there. -/
structure Cleared (ks : List MarkerRule) (t t' : List Char) (hits : Summary) : Prop where
  sublist : (nonemptyLines t').Sublist (nonemptyLines t)
  /-- Lines that hold no piece of any of the markers alone stay. -/
  keeps : ∀ p : List Char → Bool,
    (∀ k ∈ ks, ∀ Qs l, Qs <:+: k.marker.pieces → Spaced Qs l → p l = false) → p [] = false →
      linesWhere p t' = linesWhere p t
  gone : ∀ k ∈ ks, ∀ l ∈ nonemptyLines t', ¬ Spaced k.marker.pieces l
  unchanged : hits = [] → t' = t
  shortens : t'.length + hits.length ≤ t.length
  idle_iff : hits = [] ↔
    ∀ k ∈ ks, ∀ block, block <:+: nonblankLines t → ¬ SpreadOver k.marker.pieces block

theorem Cleared.nil (t : List Char) : Cleared [] t t [] := by
  constructor <;> simp

/-- One more marker, removed first. -/
theorem Cleared.cons {k : MarkerRule} {ks : List MarkerRule} {t u v : List Char} {count : Nat}
    {hits : Summary} (h : Removes k.marker t u count) (h' : Cleared ks u v hits) :
    Cleared (k :: ks) t v (if count = 0 then hits else ⟨k.rule.name, count⟩ :: hits) where
  sublist := h'.sublist.trans h.sublist
  keeps p hp hnil := by
    obtain ⟨hk, hks⟩ := List.forall_mem_cons.mp hp
    rw [h'.keeps p hks hnil, h.keeps p hk]
  gone := by
    refine List.forall_mem_cons.mpr ⟨fun l hl => ?_, h'.gone⟩
    exact h.gone l (h'.sublist.subset hl)
  unchanged hhits := by
    split at hhits
    · rename_i hcount
      rw [h'.unchanged hhits, h.unchanged hcount]
    · cases hhits
  shortens := by
    have hu := h.shortens
    have hv := h'.shortens
    split
    · omega
    · rw [List.length_cons]
      omega
  idle_iff := by
    rw [List.forall_mem_cons, ← h.idle_iff]
    by_cases hcount : count = 0
    · simp only [hcount, if_true, true_and]
      rw [h'.idle_iff, h.unchanged hcount]
    · simp [hcount]

theorem cleared : ∀ (ks : List MarkerRule) (text : String),
    Cleared ks text.toList (cleanFrom text (ks.map MarkerRule.compiled)).1.toList
      (cleanFrom text (ks.map MarkerRule.compiled)).2
  | [], text => Cleared.nil text.toList
  | k :: ks, text => by
    have hfirst := k.removes text
    have hrest := cleared ks (k.compiled.applyCounted text).1
    rw [List.map_cons, cleanFrom_cons]
    -- what the first rule answers is not to be computed
    generalize k.compiled.applyCounted text = answer at hfirst hrest ⊢
    exact Cleared.cons hfirst hrest

/-! ## The built-in table -/

theorem map_compile_markers (ks : List MarkerRule) :
    (ks.map MarkerRule.rule).map Rule.compile = (ks.map MarkerRule.compiled).map Except.ok := by
  rw [List.map_map, List.map_map]
  exact List.map_congr_left fun k _ => k.compiles

/-- The built-in table, compiled. -/
def builtinCompiled : CompiledTable :=
  ⟨MarkerRule.builtin.map MarkerRule.compiled ++ [collapseCompiled]⟩

theorem prepare_builtin : RuleTable.builtin.prepare.value = .ok builtinCompiled := by
  have hrules : RuleTable.builtin.rules.filter (·.isEnabled) =
      MarkerRule.builtin.map MarkerRule.rule ++ [RuleTable.collapseBlankLines] := rfl
  refine RuleTable.prepare_of_compiles ?_
  rw [hrules, List.map_append, List.map_append, map_compile_markers, List.map_singleton,
    List.map_singleton, collapse_compiles]

/-- A table that compiles cleans every text. -/
theorem RuleTable.clean_of_prepare {t : RuleTable} {c : CompiledTable} (h : t.prepare.value = .ok c)
    (text : String) : t.clean text =
      .ok ⟨(c.clean text).1, (c.clean text).1 != text, (c.clean text).2⟩ := by
  rw [RuleTable.clean, h]
  rfl

/-- Cleaning removes the markers and then collapses blank lines. -/
theorem exists_stages (text : String) : ∃ u out hits count,
    Cleared MarkerRule.builtin text.toList u hits ∧ Collapses u out.toList count ∧
      clean text = .ok ⟨out, out != text,
        hits ++ if count = 0 then [] else [⟨collapseCompiled.name, count⟩]⟩ := by
  refine ⟨_, _, _, _, cleared MarkerRule.builtin text, collapses _, ?_⟩
  rw [clean, RuleTable.clean_of_prepare prepare_builtin, CompiledTable.clean, builtinCompiled,
    cleanFrom_append, cleanFrom_cons, cleanFrom]

end MarkerSweep
