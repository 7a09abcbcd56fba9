import MarkerSweep.Proofs.Pattern.Search
import MarkerSweep.Rule.Compiled
/-!
# Texts that are cut

Applying a rule cuts a text into stretches that are kept and matches that are taken out. A list of
cuts says how, and everything that is read off the numbered matches of a search is said of cuts here:
what text was cut (`joined`), where its matches stand (`spans`), what the text becomes when they are
replaced (`weave`, `substituteFrom_spans`) and what is left of it when they are removed
(`uncoveredFrom_spans`). Nothing here depends on a pattern.
-/

set_option autoImplicit false

namespace MarkerSweep

namespace Pattern

/-- A match, and what is kept between the match before it and itself. -/
structure Cut where
  kept : List Char
  taken : List Char

/-- What a text becomes when every match is replaced. -/
def weave (replacement : List Char) : List Cut → List Char → List Char
  | [], last => last
  | c :: cuts, last => c.kept ++ replacement ++ weave replacement cuts last

/-- Where the matches stand in a text that is cut from a place on. -/
def spans (start : Nat) : List Cut → List Match
  | [] => []
  | c :: cuts =>
    let first := start + c.kept.length
    let last := first + c.taken.length
    ⟨first, last⟩ :: spans last cuts

/-- The text that is cut. -/
def joined : List Cut → List Char → List Char
  | [], last => last
  | c :: cuts, last => c.kept ++ (c.taken ++ joined cuts last)

/-- Where a text is split in two ways, the later split is reached by reading on from the earlier. -/
theorem exists_of_append_eq_append {g g' s s' : List Char} (h : g ++ s = g' ++ s')
    (hlt : g.length < g'.length) : ∃ u, u ≠ [] ∧ g' = g ++ u ∧ s = u ++ s' := by
  obtain ⟨u, rfl⟩ : g <+: g' :=
    List.prefix_of_prefix_length_le ⟨s, h⟩ (List.prefix_append g' s') (Nat.le_of_lt hlt)
  rw [List.append_assoc, List.append_cancel_left_eq] at h
  refine ⟨u, ?_, rfl, h⟩
  rintro rfl
  simp at hlt

theorem length_spans : ∀ (start : Nat) (cuts : List Cut), (spans start cuts).length = cuts.length
  | _, [] => rfl
  | _, _ :: cuts => congrArg Nat.succ (length_spans _ cuts)

theorem le_first_of_mem_spans {m : Match} : ∀ {start : Nat} {cuts : List Cut},
    m ∈ spans start cuts → start ≤ m.first
  | _, c :: cuts, hm => by
    obtain rfl | hm := List.mem_cons.mp hm
    · exact Nat.le_add_right _ _
    · have := le_first_of_mem_spans hm
      omega

/-- Replacing what stands at the matches is weaving the replacement in. -/
theorem substituteFrom_spans (replacement last : List Char) : ∀ (start : Nat) (cuts : List Cut),
    substituteFrom replacement start (joined cuts last) (spans start cuts) =
      weave replacement cuts last
  | _, [] => rfl
  | start, c :: cuts => by
    have htake : (joined (c :: cuts) last).take (start + c.kept.length - start) = c.kept := by
      simp [joined]
    have hdrop : (joined (c :: cuts) last).drop
        (start + c.kept.length + c.taken.length - start) = joined cuts last := by
      rw [show start + c.kept.length + c.taken.length - start = (c.kept ++ c.taken).length by
        simp; omega, joined, ← List.append_assoc, List.drop_left]
    rw [spans, weave]
    simp only [substituteFrom, htake, hdrop, substituteFrom_spans replacement last _ cuts]

/-! ## The characters of the matches -/

/-- The character with a given number lies in the match. -/
def Match.Covers (m : Match) (i : Nat) : Prop := m.first ≤ i ∧ i < m.last

instance (m : Match) (i : Nat) : Decidable (m.Covers i) := inferInstanceAs (Decidable (_ ∧ _))

/-- The characters of a text, numbered from `start` on, that lie in no match. -/
def uncoveredFrom (found : List Match) (start : Nat) (text : List Char) : List Char :=
  ((text.zipIdx start).filter fun x => found.all fun m => ¬ m.Covers x.2).map Prod.fst

/-- The characters of a text that lie in no match. -/
def uncovered (found : List Match) (text : List Char) : List Char := uncoveredFrom found 0 text

theorem uncoveredFrom_append (found : List Match) (start : Nat) (s t : List Char) :
    uncoveredFrom found start (s ++ t) =
      uncoveredFrom found start s ++ uncoveredFrom found (start + s.length) t := by
  simp [uncoveredFrom, List.zipIdx_append]

/-- Characters before all the matches stay. -/
theorem uncoveredFrom_of_before {found : List Match} {start : Nat} {s : List Char}
    (h : ∀ m ∈ found, start + s.length ≤ m.first) : uncoveredFrom found start s = s := by
  rw [uncoveredFrom, List.filter_eq_self.mpr, List.zipIdx_map_fst]
  rintro ⟨c, i⟩ hc
  have hi := (List.mem_zipIdx hc).2.1
  simp only [List.all_eq_true, decide_eq_true_eq]
  intro m hm hcovers
  have := h m hm
  have := hcovers.1
  omega

/-- Characters of a match go. -/
theorem uncoveredFrom_of_covers {found : List Match} {start : Nat} {s : List Char} {m : Match}
    (hm : m ∈ found) (h : m.first ≤ start ∧ start + s.length ≤ m.last) :
    uncoveredFrom found start s = [] := by
  rw [uncoveredFrom, List.filter_eq_nil_iff.mpr, List.map_nil]
  rintro ⟨c, i⟩ hc
  have hi := List.mem_zipIdx hc
  simp only [List.all_eq_true, decide_eq_true_eq, not_forall, not_not]
  exact ⟨m, hm, by omega, by omega⟩

/-- A match that lies before the characters does not matter. -/
theorem uncoveredFrom_cons {found : List Match} {start : Nat} {s : List Char} {m : Match}
    (h : m.last ≤ start) : uncoveredFrom (m :: found) start s = uncoveredFrom found start s := by
  rw [uncoveredFrom, uncoveredFrom]
  refine congrArg _ (List.filter_congr ?_)
  rintro ⟨c, i⟩ hc
  have hi := (List.mem_zipIdx hc).1
  have hm : ¬ m.Covers i := fun hcovers => by
    have := hcovers.2
    omega
  simp [hm]

/-- With nothing woven in, what is left are the characters in no match. -/
theorem uncoveredFrom_spans (last : List Char) : ∀ (start : Nat) (cuts : List Cut),
    uncoveredFrom (spans start cuts) start (joined cuts last) = weave [] cuts last
  | start, [] => uncoveredFrom_of_before fun m hm => absurd hm List.not_mem_nil
  | start, c :: cuts => by
    have hafter : ∀ m ∈ spans start (c :: cuts), start + c.kept.length ≤ m.first := by
      intro m hm
      obtain rfl | hm := List.mem_cons.mp hm
      · exact Nat.le_refl _
      · have := le_first_of_mem_spans hm
        omega
    have htaken : uncoveredFrom (spans start (c :: cuts)) (start + c.kept.length) c.taken = [] :=
      uncoveredFrom_of_covers List.mem_cons_self ⟨Nat.le_refl _, Nat.le_refl _⟩
    rw [joined, weave, List.append_nil, uncoveredFrom_append, uncoveredFrom_append,
      uncoveredFrom_of_before hafter, htaken, List.nil_append, spans,
      uncoveredFrom_cons (Nat.le_refl _), uncoveredFrom_spans last _ cuts]

/-! ## Cutting at numbered places -/

theorem placeAt_add {text : Array Char} {start : Nat} {g r : List Char}
    (h : text.toList.drop start = g ++ r) :
    placeAt text (start + g.length) = ⟨lastOr (placeAt text start).before g, r⟩ := by
  simp only [placeAt, Place.mk.injEq]
  constructor
  · rw [List.take_add, h, List.take_left, lastOr_append]
  · rw [← List.drop_drop, h, List.drop_left]

/-- A later place is reached by reading what lies between. -/
theorem exists_placeAt {text : Array Char} {i j : Nat} (hij : i ≤ j) (hj : j ≤ text.size) :
    ∃ g r, (placeAt text i).rest = g ++ r ∧ g.length = j - i ∧
      placeAt text j = ⟨lastOr (placeAt text i).before g, r⟩ := by
  have hg := (List.take_append_drop (j - i) (placeAt text i).rest).symm
  have hlen : ((placeAt text i).rest.take (j - i)).length = j - i := by
    rw [List.length_take, length_rest_placeAt]
    omega
  refine ⟨_, _, hg, hlen, ?_⟩
  rw [← placeAt_add hg, hlen, Nat.add_sub_cancel' hij]

end Pattern

open Pattern

/-- Applying a rule weaves its replacement into the cuts of the text and counts them. -/
theorem CompiledRule.applyCounted_of_spans {c : CompiledRule} {text : String} {cuts : List Cut}
    {last : List Char} (htext : text.toList = joined cuts last)
    (hfind : c.regex.findAll text.toList = spans 0 cuts) :
    c.applyCounted text = (String.ofList (weave c.replaceWith.toList cuts last), cuts.length) := by
  rw [CompiledRule.applyCounted, hfind, length_spans]
  cases cuts with
  | nil =>
    obtain rfl : text.toList = last := htext
    simp [weave]
  | cons cut cuts =>
    simp only [List.length_cons, substitute, htext, substituteFrom_spans]

end MarkerSweep
