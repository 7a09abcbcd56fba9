import Mathlib.Data.List.SplitBy
/-!
# Runs of line feeds

A text is cut into its maximal runs of line feeds and the stretches between them. Whatever is said of
runs of a certain length is said of this list, so "maximal" is settled once, by `List.splitBy`, which
cuts exactly where a line feed meets another character. A `gap` is a run that holds more than one
blank line.
-/

set_option autoImplicit false

namespace MarkerSweep.Text

/-- The maximal runs of line feeds and the stretches between them, in order. -/
def runs (s : List Char) : List (List Char) :=
  s.splitBy fun c d => decide (c = '\n') == decide (d = '\n')

/-- Three or more line feeds, and nothing else. -/
def isGap (run : List Char) : Bool := 3 ≤ run.length && run.all (· = '\n')

/-- The text with two line feeds in the place of every gap. -/
def collapsed (s : List Char) : List Char :=
  (runs s).flatMap fun run => if isGap run then ['\n', '\n'] else run

/-- How many gaps a text has. -/
def gaps (s : List Char) : Nat := (runs s).countP isGap

theorem isGap_iff {m : List Char} : isGap m = true ↔ 3 ≤ m.length ∧ ∀ c ∈ m, c = '\n' := by
  simp [isGap]

@[simp] theorem runs_nil : runs [] = [] := rfl

theorem flatten_runs (s : List Char) : (runs s).flatten = s := List.flatten_splitBy _ s

theorem infix_of_mem_runs {s run : List Char} (h : run ∈ runs s) : run <:+: s := by
  obtain ⟨before, after, hruns⟩ := List.append_of_mem h
  have hs := flatten_runs s
  rw [hruns, List.flatten_append, List.flatten_cons] at hs
  exact ⟨before.flatten, after.flatten, by rw [List.append_assoc, hs]⟩

/-- Where a line feed meets another character, no run goes on. -/
theorem runs_append {x y : List Char}
    (h : ∀ c ∈ x.getLast?, ∀ d ∈ y.head?, (c = '\n') ≠ (d = '\n')) :
    runs (x ++ y) = runs x ++ runs y := by
  refine List.splitBy_append fun c hc d hd => ?_
  have hne := h c hc d hd
  by_cases hc : c = '\n' <;> by_cases hd : d = '\n' <;> simp_all

theorem runs_lineFeeds {m : List Char} (hne : m ≠ []) (hm : ∀ c ∈ m, c = '\n') : runs m = [m] := by
  refine List.splitBy_of_isChain hne ?_
  rw [List.eq_replicate_of_mem hm]
  exact List.isChain_replicate_of_rel _ (by simp)

/-- A gap between stretches that do not touch it with a line feed is a run of its own. -/
theorem runs_gap {g m r : List Char} (hg : ∀ c ∈ g.getLast?, c ≠ '\n') (hne : m ≠ [])
    (hm : ∀ c ∈ m, c = '\n') (hr : ∀ c ∈ r.head?, c ≠ '\n') :
    runs (g ++ (m ++ r)) = runs g ++ m :: runs r := by
  have hleft : runs (g ++ (m ++ r)) = runs g ++ runs (m ++ r) := by
    refine runs_append fun c hc d hd => ?_
    rw [List.head?_append_of_ne_nil _ hne] at hd
    simpa [hm d (List.mem_of_mem_head? hd)] using hg c hc
  have hright : runs (m ++ r) = runs m ++ runs r := by
    refine runs_append fun c hc d hd => ?_
    simpa [hm c (List.mem_of_mem_getLast? hc)] using hr d hd
  rw [hleft, hright, runs_lineFeeds hne hm, List.singleton_append]

/-- Where a line feed meets another character, blank lines are collapsed on either side. -/
theorem collapsed_append {x y : List Char}
    (h : ∀ c ∈ x.getLast?, ∀ d ∈ y.head?, (c = '\n') ≠ (d = '\n')) :
    collapsed (x ++ y) = collapsed x ++ collapsed y ∧ gaps (x ++ y) = gaps x + gaps y := by
  constructor
  · rw [collapsed, runs_append h, List.flatMap_append, ← collapsed, ← collapsed]
  · rw [gaps, runs_append h, List.countP_append, ← gaps, ← gaps]

/-- Without a gap nothing is collapsed. -/
theorem collapsed_of_forall_not_gap {s : List Char} (h : ∀ run ∈ runs s, isGap run = false) :
    collapsed s = s ∧ gaps s = 0 := by
  constructor
  · have hsame : collapsed s = (runs s).flatMap id :=
      List.flatMap_congr fun run hrun => by simp [h run hrun]
    rw [hsame, List.flatMap_id, flatten_runs]
  · exact List.countP_eq_zero.mpr fun run hrun => by simp [h run hrun]

example : collapsed "a\n\n\n\nb\n\nc\n\n\n".toList = "a\n\nb\n\nc\n\n".toList ∧
    gaps "a\n\n\n\nb\n\nc\n\n\n".toList = 2 := by
  decide

end MarkerSweep.Text
