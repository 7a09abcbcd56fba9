import MarkerSweep.Proofs.Diff.Script
/-!
# Comparing comes to an end

The search for a split goes from both corners of the grid, and what it finds lies strictly between them
(`splitPlace_inside`). So both halves are smaller than the whole, and comparing never runs out of fuel
(`compare_eq`). The places of a round can lie outside of the grid, but never by more steps than the
rounds before (`Rounded`), and as long as the two sides have not met, no place of the side that looks for
the other is next to the far corner or beyond it (`Apart`): from there, the other side would have been
met.

The search has all the rounds it takes (`splitPlace_eq`), since each round brings both sides nearer to
each other (`Reaching`), and moving edits together has all the steps it takes
(`compacted_compactKind`).
-/

set_option autoImplicit false

namespace MarkerSweep.Diff

variable {α : Type} [DecidableEq α]

/-! ## Stretches that two arrays share -/

theorem sharedFrom_spec (a b : Array α) (i j : Nat) : ∀ s < sharedFrom a b i j,
    i + s < a.size ∧ j + s < b.size ∧ a[i + s]? = b[j + s]? := by
  fun_induction sharedFrom a b i j with
  | case1 i j hi hj heq ih =>
    intro s hs
    cases s with
    | zero => exact ⟨hi, hj, by rw [Nat.add_zero, Nat.add_zero, Array.getElem?_eq_getElem hi,
        Array.getElem?_eq_getElem hj, heq]⟩
    | succ s =>
      have h := ih s (by omega)
      rw [Nat.add_right_comm, Nat.add_assoc, Nat.add_right_comm j, Nat.add_assoc j] at h
      exact h
  | case2 | case3 | case4 => exact fun s hs => absurd hs (Nat.not_lt_zero s)

theorem sharedFrom_eq_zero {a b : Array α} (h : a[0]? ≠ b[0]?) : sharedFrom a b 0 0 = 0 := by
  refine Nat.eq_zero_of_not_pos fun hpos => h ?_
  simpa using (sharedFrom_spec a b 0 0 0 hpos).2.2

/-- A slide ends where it starts or at a place in the grid, behind a pair of equal items. -/
theorem slide_cases (a b : Array α) (d j x : Nat) : slide a b d j x = x ∨
    (x < slide a b d j x ∧ slide a b d j x ≤ a.size ∧ slide a b d j x + d ≤ b.size + 2 * j ∧
      a[slide a b d j x - 1]? = b[slide a b d j x + d - 2 * j - 1]?) := by
  unfold slide
  split
  · rename_i hj
    have hspec := sharedFrom_spec a b x (x + d - 2 * j)
    generalize sharedFrom a b x (x + d - 2 * j) = n at hspec ⊢
    cases n with
    | zero => exact .inl rfl
    | succ n =>
      obtain ⟨hx, hy, heq⟩ := hspec n (Nat.lt_succ_self n)
      refine .inr ⟨by omega, by omega, by omega, ?_⟩
      have hy' : x + (n + 1) + d - 2 * j - 1 = x + d - 2 * j + n := by omega
      rw [hy', ← heq]
      rfl
  · exact .inl rfl

/-! ## The places of a round -/

/-- What is known of the places of the round before round `d` on a grid of `n` columns and `m` rows:
each is reached by `d - 1` steps that are not free, of which the first one is taken inside the grid. -/
structure Rounded (n m d : Nat) (last : Frontier) : Prop where
  start : d = 0 → last.getD 0 0 = 0
  near : ∀ j < d, 2 * j + 1 ≤ last.getD j 0 + d ∧ last.getD j 0 + 1 < n + d ∧
    last.getD j 0 < m + 2 * j

/-- None of the places of the round before round `d` is next to the far corner or beyond it. -/
def Apart (n m d : Nat) (last : Frontier) : Prop :=
  ∀ j < d, ¬ (n ≤ last.getD j 0 + 1 ∧ m + 2 * j + 1 ≤ last.getD j 0 + d) ∧
    ¬ (n ≤ last.getD j 0 ∧ m + 2 * j ≤ last.getD j 0 + d)

variable {n m d j : Nat} {last : Frontier}

/-- A round reaches a diagonal at the corner, by a step down or by a step right. -/
theorem enter_cases (last : Frontier) (hj : j ≤ d) : (d = 0 ∧ enter last d j = last.getD 0 0) ∨
    (j < d ∧ enter last d j = last.getD j 0) ∨
      ∃ i < d, j = i + 1 ∧ enter last d j = last.getD i 0 + 1 := by
  unfold enter
  dsimp only
  split
  · rename_i hzero
    subst hzero
    rcases Nat.eq_zero_or_pos d with rfl | hpos
    · exact .inl ⟨rfl, rfl⟩
    · exact .inr (.inl ⟨hpos, rfl⟩)
  · split
    · exact .inr (.inr ⟨j - 1, by omega, by omega, rfl⟩)
    · split
      · exact .inr (.inl ⟨by omega, rfl⟩)
      · exact .inr (.inr ⟨j - 1, by omega, by omega, rfl⟩)

/-- Where a round reaches a diagonal, it is as near as the round before was, up to one more step. After
the first round it has left the corner where it started. -/
theorem Rounded.enter_near (h : Rounded n m d last) (hn : 0 < n) (hm : 0 < m) (hj : j ≤ d) :
    2 * j ≤ enter last d j + d ∧ enter last d j < n + d ∧ enter last d j < m + 2 * j ∧
      (0 < d → 2 * j < enter last d j + d ∨ 0 < enter last d j) := by
  obtain ⟨hd, henter⟩ | ⟨hjd, henter⟩ | ⟨i, hi, rfl, henter⟩ := enter_cases last hj <;> rw [henter]
  · rw [h.start hd]
    omega
  · have := h.near j hjd
    omega
  · have := h.near i hi
    omega

/-- If the round before has kept apart from the far corner, the next one does not step onto it. -/
theorem Rounded.enter_apart (h : Rounded n m d last) (hn : 0 < n) (hapart : Apart n m d last)
    (hj : j ≤ d) : ¬ (n ≤ enter last d j ∧ m + 2 * j ≤ enter last d j + d) := by
  obtain ⟨hd, henter⟩ | ⟨hjd, henter⟩ | ⟨i, hi, rfl, henter⟩ := enter_cases last hj <;> rw [henter]
  · rw [h.start hd]
    omega
  · exact (hapart j hjd).2
  · have := (hapart i hi).1
    omega

theorem getD_advance (a b : Array α) (last : Frontier) (hj : j ≤ d) :
    (advance a b d last).getD j 0 = slide a b d j (enter last d j) := by
  simp [advance, Array.getD_eq_getD_getElem?, Nat.lt_succ_of_le hj]

variable {a b : Array α}

/-- Where the arrays begin differently, the first round stays at the corner. -/
theorem Rounded.start_advance (h : Rounded n m 0 last) (hfirst : a[0]? ≠ b[0]?) :
    (advance a b 0 last).getD 0 0 = 0 := by
  have henter : enter last 0 0 = 0 := h.start rfl
  simp [getD_advance a b last (Nat.le_refl 0), henter, slide, sharedFrom_eq_zero hfirst]

theorem Rounded.advance (h : Rounded n m d last) (ha : a.size = n) (hb : b.size = m) (hn : 0 < n)
    (hm : 0 < m) (hfirst : a[0]? ≠ b[0]?) : Rounded n m (d + 1) (advance a b d last) where
  start hd := nomatch hd
  near j hj := by
    rcases Nat.eq_zero_or_pos d with rfl | hd
    · obtain rfl : j = 0 := by omega
      rw [h.start_advance hfirst]
      omega
    · rw [getD_advance a b last (Nat.le_of_lt_succ hj)]
      have henter := h.enter_near hn hm (Nat.le_of_lt_succ hj)
      have hslide := slide_cases a b d j (enter last d j)
      omega

/-! ## Where the two sides meet -/

theorem le_of_meeting? {delta : Int} {e : Nat} {these those : Frontier}
    (h : meeting? n delta d e these those = some j) : j ≤ d ∧
      (delta - (2 * (j : Int) - d)).natAbs ≤ e ∧
      n ≤ these.getD j 0 + those.getD ((delta - (2 * (j : Int) - d) + e).toNat / 2) 0 := by
  have hmem := List.mem_of_find?_eq_some h
  have hmeet := List.find?_some h
  simp only [List.mem_reverse, List.mem_range, Bool.and_eq_true, decide_eq_true_eq] at hmem hmeet
  exact ⟨Nat.le_of_lt_succ hmem, hmeet⟩

/-- As long as a side has not met the other one, which is in the same round if the grid has as many
columns as rows up to an even number and in the round before if not, it is apart from the far corner. -/
theorem apart_of_meeting? {these those : Frontier} {e : Nat} (h : Rounded n m (d + 1) these)
    (h' : Rounded n m (e + 1) those) (he : e = d ∧ ((n : Int) - m) % 2 = 0 ∨
      e + 1 = d ∧ ((n : Int) - m) % 2 ≠ 0)
    (hnone : meeting? n ((n : Int) - m) d e these those = none) : Apart n m (d + 1) these := by
  intro j hj
  have hmeet := List.find?_eq_none.mp hnone j (by simpa using hj)
  simp only [Bool.and_eq_true, decide_eq_true_eq] at hmeet
  have hnear := h.near j hj
  -- a place next to the corner is on a diagonal that the other side has reached far enough
  refine Decidable.byContradiction fun hbad => hmeet ⟨by omega, ?_⟩
  have hnear' := h'.near (((n : Int) - m - (2 * (j : Int) - d) + e).toNat / 2) (by omega)
  omega

/-- What is known before round `d` of the search: of the two sides, the one that looks for the other has
kept apart from the far corner. -/
structure Searching (n m d : Nat) (forth back : Frontier) : Prop where
  roundForth : Rounded n m d forth
  roundBack : Rounded n m d back
  apartForth : ((n : Int) - m) % 2 ≠ 0 → Apart n m d forth
  apartBack : ((n : Int) - m) % 2 = 0 → Apart n m d back

theorem searching_start (n m : Nat) : Searching n m 0 #[] #[] where
  roundForth := ⟨fun _ => rfl, fun _ h => nomatch h⟩
  roundBack := ⟨fun _ => rfl, fun _ h => nomatch h⟩
  apartForth _ _ h := nomatch h
  apartBack _ _ h := nomatch h

/-- The place is in the grid, but at neither of the two corners between which the search goes. -/
def Inside (n m : Nat) (place : Nat × Nat) : Prop :=
  0 < place.1 + place.2 ∧ (place.1 < n ∨ place.2 < m)

/-- The grid that two arrays span, which differ at either end, and the same grid from its far corner. -/
structure Grid (n m : Nat) (a b a' b' : Array α) : Prop where
  columns : a.size = n
  rows : b.size = m
  columns' : a'.size = n
  rows' : b'.size = m
  columns_pos : 0 < n
  rows_pos : 0 < m
  first : a[0]? ≠ b[0]?
  first' : a'[0]? ≠ b'[0]?
  last' : a'[n - 1]? ≠ b'[m - 1]?

namespace Searching

variable {a' b' : Array α} {forth back : Frontier}

/-- Where the search from the near corner meets the other one, its step comes from inside. -/
theorem inside_forth (h : Searching n m d forth back) (hn : 0 < n) (hm : 0 < m)
    (hodd : ((n : Int) - m) % 2 ≠ 0) (hd : 0 < d) (hj : j ≤ d) :
    Inside n m (enter forth d j, enter forth d j + d - 2 * j) := by
  have hnear := h.roundForth.enter_near hn hm hj
  have hapart := h.roundForth.enter_apart hn (h.apartForth hodd) hj
  constructor <;> dsimp only <;> omega

/-- Where the search from the far corner meets the other one, it has come to a place inside; it counts
from its own corner. -/
theorem inside_back (h : Searching n m d forth back) (hgrid : Grid n m a b a' b')
    (heven : ((n : Int) - m) % 2 = 0) (hd : 0 < d) (hj : j ≤ d) :
    Inside n m (n - slide a' b' d j (enter back d j),
      m - (slide a' b' d j (enter back d j) + d - 2 * j)) := by
  obtain ⟨-, -, ha, hb, hn, hm, -, -, hlast⟩ := hgrid
  have hnear := h.roundBack.enter_near hn hm hj
  have hapart := h.roundBack.enter_apart hn (h.apartBack heven) hj
  have hslide := slide_cases a' b' d j (enter back d j)
  generalize slide a' b' d j (enter back d j) = x at hslide ⊢
  have hshort : ¬ (n ≤ x ∧ m + 2 * j ≤ x + d) := by
    rintro ⟨hx, hy⟩
    obtain rfl | ⟨-, hx', hy', heq⟩ := hslide
    · exact hapart ⟨hx, hy⟩
    · obtain rfl : x = n := by omega
      have hm' : x + d - 2 * j = m := by omega
      rw [hm'] at heq
      exact hlast heq
  constructor <;> dsimp only <;> omega

/-- In the first round both sides are still at their corners and do not meet. -/
theorem pos_of_meeting? (h : Searching n m d forth back) (hgrid : Grid n m a b a' b')
    (hmeet : meeting? n ((n : Int) - m) d d (advance a' b' d back) (advance a b d forth) = some j) :
    0 < d := by
  refine Nat.pos_of_ne_zero fun hd => ?_
  subst hd
  obtain ⟨hj, hdiagonal, hfar⟩ := le_of_meeting? hmeet
  obtain rfl : j = 0 := Nat.le_zero.mp hj
  have hplace : ((n : Int) - m - (2 * (0 : Nat) - (0 : Nat)) + (0 : Nat)).toNat / 2 = 0 := by omega
  rw [hplace, h.roundBack.start_advance hgrid.first', h.roundForth.start_advance hgrid.first] at hfar
  exact absurd hfar (Nat.not_le_of_lt hgrid.columns_pos)

/-- If neither side has met the other, the search goes on. -/
theorem next (h : Searching n m d forth back) (hgrid : Grid n m a b a' b')
    (hforth : ((n : Int) - m) % 2 ≠ 0 → 0 < d →
      meeting? n (n - m) d (d - 1) (advance a b d forth) back = none)
    (hback : ((n : Int) - m) % 2 = 0 →
      meeting? n (n - m) d d (advance a' b' d back) (advance a b d forth) = none) :
    Searching n m (d + 1) (advance a b d forth) (advance a' b' d back) := by
  obtain ⟨ha, hb, ha', hb', hn, hm, hfirst, hfirst', -⟩ := hgrid
  have hnext := h.roundForth.advance ha hb hn hm hfirst
  have hnext' := h.roundBack.advance ha' hb' hn hm hfirst'
  refine ⟨hnext, hnext', fun hodd => ?_, fun heven => ?_⟩
  · cases d with
    | zero =>
      intro j hj
      obtain rfl : j = 0 := by omega
      rw [h.roundForth.start_advance hfirst]
      omega
    | succ d => exact apart_of_meeting? hnext h.roundBack (.inr ⟨rfl, hodd⟩) (hforth hodd d.succ_pos)
  · exact apart_of_meeting? hnext' hnext (.inl ⟨rfl, heven⟩) (hback heven)

end Searching

/-- The search ends inside. -/
theorem meetFrom_inside {a' b' : Array α} (hgrid : Grid n m a b a' b') {forth back : Frontier}
    (fuel : Nat) (h : Searching n m d forth back) :
    Inside n m (meetFrom a b a' b' fuel d forth back) := by
  have ⟨ha, hb, _, _, hn, hm, _, _, _⟩ := hgrid
  induction fuel generalizing d forth back with
  | zero => exact ⟨by simp [meetFrom, ha, hn], .inr hm⟩
  | succ fuel ih =>
    rw [meetFrom, ha, hb]
    dsimp only
    split
    · rename_i j hmeet
      split at hmeet
      · rename_i hodd
        simp only [Bool.and_eq_true, decide_eq_true_eq] at hodd
        exact h.inside_forth hn hm hodd.1 hodd.2 (le_of_meeting? hmeet).1
      · cases hmeet
    · rename_i hforth
      split
      · rename_i j hmeet
        split at hmeet
        · cases hmeet
        · rename_i heven
          have hj := (le_of_meeting? hmeet).1
          rw [getD_advance a' b' back hj]
          exact h.inside_back hgrid (by simpa using heven) (h.pos_of_meeting? hgrid hmeet) hj
      · rename_i hback
        refine ih (h.next hgrid (fun hodd hd => ?_) fun heven => ?_)
        · simpa [hodd, hd] using hforth
        · simpa [heven] using hback

/-- Where lists that differ at either end are split, there are items on both sides of the split. -/
theorem splitPlace_inside {old new : List α} (hold : old ≠ []) (hnew : new ≠ [])
    (hfirst : old.head? ≠ new.head?) (hlast : old.getLast? ≠ new.getLast?) :
    Inside old.length new.length (splitPlace old new) := by
  refine meetFrom_inside ⟨by simp, by simp, by simp, by simp, List.length_pos_iff.mpr hold,
    List.length_pos_iff.mpr hnew, ?_, ?_, ?_⟩ _ (searching_start _ _)
  · simpa [List.head?_eq_getElem?] using hfirst
  · simpa [List.getLast?_eq_head?_reverse, List.head?_eq_getElem?] using hlast
  · rw [← List.getLast?_reverse, ← List.getLast?_reverse, List.getLast?_eq_getElem?,
      List.getLast?_eq_getElem?] at hfirst
    simpa using hfirst

/-! ## How long the search takes -/

/-- The place that a round reaches on its `j`-th diagonal is `j` steps right of the corner or more. -/
def Reaching (d : Nat) (last : Frontier) : Prop := ∀ j < d, j ≤ last.getD j 0

theorem reaching_start (last : Frontier) : Reaching 0 last := fun _ h => nomatch h

theorem Reaching.advance (h : Reaching d last) (a b : Array α) :
    Reaching (d + 1) (advance a b d last) := by
  intro j hj
  have hj := Nat.le_of_lt_succ hj
  rw [getD_advance a b last hj]
  have henter : j ≤ enter last d j := by
    obtain ⟨hd, -⟩ | ⟨hjd, henter⟩ | ⟨i, hi, rfl, henter⟩ := enter_cases last hj
    · omega
    · exact henter ▸ h j hjd
    · exact henter ▸ Nat.succ_le_succ (h i hi)
  have hslide := slide_cases a b d j (enter last d j)
  omega

/-- Two sides that have spent as many steps as there are columns and rows have met. -/
theorem meeting?_ne_none {these those : Frontier} {e : Nat} (h : Reaching (d + 1) these)
    (h' : Reaching (e + 1) those) (hpar : ((n : Int) - m - d - e) % 2 = 0) (hfar : n + m ≤ d + e) :
    meeting? n ((n : Int) - m) d e these those ≠ none := by
  intro hnone
  -- together, two places on one diagonal are this far to the right, whatever the diagonal
  let right := (n + d + e - m) / 2
  have hmeet := List.find?_eq_none.mp hnone (min right d)
    (by simpa using Nat.lt_succ_of_le (Nat.min_le_right right d))
  simp only [Bool.and_eq_true, decide_eq_true_eq] at hmeet
  have hthese := h (min right d) (by omega)
  have hthose := h' (((n : Int) - m - (2 * ((min right d : Nat) : Int) - d) + e).toNat / 2) (by omega)
  omega

/-- The number of rounds after which the sides have met. -/
def rounds (n m : Nat) : Nat := (n + m + 1) / 2

/-- A search that can go on until the sides meet comes to the same place however much longer it could
have gone on. -/
theorem meetFrom_eq_meetFrom {a' b' : Array α} {forth back : Frontier} {fuel fuel' : Nat}
    (hforth : Reaching d forth) (hback : Reaching d back) (hd : d ≤ rounds a.size b.size)
    (hfuel : rounds a.size b.size < d + fuel) (hfuel' : rounds a.size b.size < d + fuel') :
    meetFrom a b a' b' fuel d forth back = meetFrom a b a' b' fuel' d forth back := by
  induction fuel generalizing d forth back fuel' with
  | zero => omega
  | succ fuel ih =>
    cases fuel' with
    | zero => omega
    | succ fuel' =>
      rw [meetFrom, meetFrom]
      dsimp only
      have hforth' := hforth.advance a b
      have hback' := hback.advance a' b'
      split
      · rfl
      · rename_i hnone
        split
        · rfl
        · rename_i hnone'
          refine ih hforth' hback' ?_ (by omega) (by omega)
          -- in the last round the sides would have met
          refine Nat.lt_of_le_of_ne hd fun hlast => ?_
          unfold rounds at hlast
          by_cases hodd : ((a.size : Int) - b.size) % 2 = 0
          · rw [if_neg (by simpa using hodd)] at hnone'
            exact meeting?_ne_none hback' hforth' (by omega) (by omega) hnone'
          · rw [if_pos (by simp; omega)] at hnone
            cases d with
            | zero => omega
            | succ d => exact meeting?_ne_none hforth' hback (by omega) (by omega) hnone

/-- The search for a split has all the rounds it takes. -/
theorem splitPlace_eq {old new : List α} {fuel : Nat} (h : rounds old.length new.length < fuel) :
    splitPlace old new =
      meetFrom old.toArray new.toArray old.reverse.toArray new.reverse.toArray fuel 0 #[] #[] :=
  meetFrom_eq_meetFrom (reaching_start _) (reaching_start _) (Nat.zero_le _)
    (by simp [rounds]) (by simpa using h)

/-! ## Comparing -/

/-- What follows the front that two lists share starts differently. -/
theorem head?_drop_sharedFront : ∀ a b : List α, a.drop (sharedFront a b).length ≠ [] →
    (a.drop (sharedFront a b).length).head? ≠ (b.drop (sharedFront a b).length).head?
  | [], _ => by simp
  | _ :: _, [] => by simp [sharedFront]
  | a :: as, b :: bs => by
    by_cases h : a = b
    · simpa [sharedFront, h] using head?_drop_sharedFront as bs
    · simp [sharedFront, h]

/-- What is left of two lists differs at either end. -/
theorem ends_ne_of_trim {old new : List α} (hold : (trim old new).old ≠ [])
    (hnew : (trim old new).new ≠ []) : (trim old new).old.head? ≠ (trim old new).new.head? ∧
      (trim old new).old.getLast? ≠ (trim old new).new.getLast? := by
  rw [trim] at *
  dsimp only at *
  have hfront := head?_drop_sharedFront old new
  generalize old.drop (sharedFront old new).length = old' at *
  generalize new.drop (sharedFront old new).length = new' at *
  have hback := head?_drop_sharedFront old'.reverse new'.reverse
  obtain ⟨hsize, hsize'⟩ := sharedFront_prefix old'.reverse new'.reverse
  have hsize := hsize.length_le
  have hsize' := hsize'.length_le
  rw [List.length_reverse] at hsize hsize'
  rw [List.length_reverse] at hold hnew ⊢
  generalize (sharedFront old'.reverse new'.reverse).length = n at *
  constructor
  · have hpos : old'.length - n ≠ 0 := fun hzero => hold (by rw [hzero, List.take_zero])
    have hpos' : new'.length - n ≠ 0 := fun hzero => hnew (by rw [hzero, List.take_zero])
    rw [List.head?_take, List.head?_take, if_neg hpos, if_neg hpos']
    exact hfront fun hnil => hold (by rw [hnil, List.take_nil])
  · rw [List.getLast?_eq_head?_reverse, List.getLast?_eq_head?_reverse, List.reverse_take,
      List.reverse_take, Nat.sub_sub_self hsize, Nat.sub_sub_self hsize']
    refine hback fun hnil => hold (List.reverse_eq_nil_iff.mp ?_)
    rw [List.reverse_take, Nat.sub_sub_self hsize, hnil]

/-- Comparing needs its halves only for smaller lists. -/
theorem compareBy_congr {f g : List α → List α → List (Edit α)} {old new : List α}
    (h : ∀ a b : List α, a.length + b.length < old.length + new.length → f a b = g a b) :
    compareBy f old new = compareBy g old new := by
  rw [compareBy, compareBy]
  have hends (hold : (trim old new).old ≠ []) (hnew : (trim old new).new ≠ []) :=
    ends_ne_of_trim hold hnew
  obtain ⟨hold, hnew⟩ := trim_eq old new
  have hold := congrArg List.length hold
  have hnew := congrArg List.length hnew
  generalize trim old new = t at *
  simp only [List.length_append] at hold hnew
  split
  · rfl
  · split
    · rfl
    · split
      · rfl
      · rename_i hold' hnew'
        rw [List.isEmpty_iff] at hold' hnew'
        obtain ⟨hfirst, hlast⟩ := hends hold' hnew'
        obtain ⟨hstart, hfinish⟩ := splitPlace_inside hold' hnew' hfirst hlast
        generalize splitPlace t.old t.new = place at *
        obtain ⟨x, y⟩ := place
        dsimp only at *
        have := List.length_pos_iff.mpr hold'
        have := List.length_pos_iff.mpr hnew'
        rw [h _ _ ?_, h _ _ ?_]
        · simp only [List.length_drop]
          omega
        · simp only [List.length_take]
          omega

theorem compareFrom_eq_compareFrom {fuel fuel' : Nat} {old new : List α}
    (h : old.length + new.length < fuel) (h' : old.length + new.length < fuel') :
    compareFrom fuel old new = compareFrom fuel' old new := by
  induction fuel generalizing fuel' old new with
  | zero => cases h
  | succ fuel ih =>
    cases fuel' with
    | zero => cases h'
    | succ fuel' =>
      exact compareBy_congr fun a b hlt => ih (by omega) (by omega)

/-- Comparing two lists is comparing what is left of them by halves. No other answer is ever given. -/
theorem compare_eq (old new : List α) : compare old new = compareBy compare old new :=
  compareBy_congr fun _ _ hlt => compareFrom_eq_compareFrom hlt (Nat.lt_succ_self _)

/-! ## Moving edits together -/

namespace Change

variable {β : Type} {c : Change} {e : Edit β} {s : List (Edit β)}

/-- How many edits of the kind there are. -/
def count (c : Change) (script : List (Edit β)) : Nat := script.countP fun e => (c.items? e).isSome

theorem count_cons_of_none (h : c.items? e = none) : c.count (e :: s) = c.count s := by
  simp [count, h]

theorem count_cons_of_some {items : List β} (h : c.items? e = some items) :
    c.count (e :: s) = c.count s + 1 := by
  simp [count, h]

theorem count_le_count_cons : c.count s ≤ c.count (e :: s) := by
  simp [count, List.countP_cons]

theorem count_keepBefore (c : Change) (items : List β) (s : List (Edit β)) :
    c.count (keepBefore items s) = c.count s := by
  unfold keepBefore
  split <;> simp [count, items?]

end Change

theorem length_keepBefore_le {β : Type} (items : List β) (s : List (Edit β)) :
    (keepBefore items s).length ≤ s.length + 1 := by
  unfold keepBefore
  split <;> simp

theorem length_keepAfter_le {β : Type} (items : List β) (s : List (Edit β)) :
    (keepAfter items s).length ≤ s.length + 1 := by
  unfold keepAfter
  split <;> simp

/-- An edit that moves up parts at most one stretch of kept items in two, and leaves no more of its kind
below than there were. -/
theorem moveUp_size (c : Change) (items : List α) (below above : List (Edit α)) :
    (moveUp c items below above).above.length + (moveUp c items below above).below.length ≤
        above.length + below.length + 1 ∧
      c.count (moveUp c items below above).below = c.count below := by
  fun_induction moveUp c items below above with
  | case1 items below => exact ⟨by simp, rfl⟩
  | case2 items below kept above left items' passed hpass below' hleft ih =>
    have hkeep : below'.length ≤ below.length + 1 := length_keepBefore_le passed below
    rw [List.length_cons]
    exact ⟨by omega, ih.2.trans (c.count_keepBefore passed below)⟩
  | case3 items below kept above left items' passed hpass below' hleft =>
    have hkeep : below'.length ≤ below.length + 1 := length_keepBefore_le passed below
    dsimp only
    rw [List.length_cons, List.length_cons]
    exact ⟨by omega, c.count_keepBefore passed below⟩
  | case4 items below e above hkeep more he ih =>
    rw [List.length_cons]
    exact ⟨by omega, ih.2⟩
  | case5 items below e above hkeep he ih =>
    rw [List.length_cons] at ih ⊢
    exact ⟨by omega, ih.2.trans (Change.count_cons_of_none he)⟩

theorem moveDown_size (c : Change) (items : List α) (above below : List (Edit α)) :
    (moveDown c items above below).above.length + (moveDown c items above below).below.length ≤
        above.length + below.length + 1 ∧
      c.count (moveDown c items above below).below ≤ c.count below := by
  fun_induction moveDown c items above below with
  | case1 items above => exact ⟨by simp, Nat.le_refl _⟩
  | case2 items above kept below left items' passed hpass above' hleft ih =>
    have hkeep : above'.length ≤ above.length + 1 := length_keepAfter_le passed.reverse above
    rw [List.length_cons]
    exact ⟨by omega, Nat.le_trans ih.2 Change.count_le_count_cons⟩
  | case3 items above kept below left items' passed hpass above' hleft =>
    have hkeep : above'.length ≤ above.length + 1 := length_keepAfter_le passed.reverse above
    dsimp only
    rw [List.length_cons, List.length_cons, Change.count_cons_of_none rfl,
      Change.count_cons_of_none rfl]
    exact ⟨by omega, Nat.le_refl _⟩
  | case4 items above e below hkeep more he ih =>
    rw [List.length_cons]
    exact ⟨by omega, Nat.le_trans ih.2 Change.count_le_count_cons⟩
  | case5 items above e below hkeep he ih =>
    rw [List.length_cons] at ih ⊢
    exact ⟨by omega, Nat.le_trans ih.2 Change.count_le_count_cons⟩

/-- What becomes of a script when the edits of a kind below a place move, one after another. -/
inductive Compacted (c : Change) : List (Edit α) → List (Edit α) → List (Edit α) → Prop
  | done (above : List (Edit α)) : Compacted c above [] above.reverse
  | moved {above below script : List (Edit α)} {e : Edit α} {items : List α} {up down : Moving α} :
      c.items? e = some items → up = moveUp c items below above →
      down = moveDown c up.items up.above up.below →
      Compacted c (c.edit down.items :: down.above) down.below script →
      Compacted c above (e :: below) script
  | passed {above below script : List (Edit α)} {e : Edit α} : c.items? e = none →
      Compacted c (e :: above) below script → Compacted c above (e :: below) script

/-- A number of steps in which the edits of the kind below a place can be moved. -/
def effort (c : Change) (above below : List (Edit α)) : Nat :=
  c.count below * (above.length + below.length + 2 * c.count below + 1) + below.length

omit [DecidableEq α] in
theorem effort_passed {c : Change} {above below : List (Edit α)} {e : Edit α}
    (he : c.items? e = none) : effort c (e :: above) below < effort c above (e :: below) := by
  rw [effort, effort, Change.count_cons_of_none he, List.length_cons, List.length_cons,
    Nat.add_right_comm above.length]
  exact Nat.lt_succ_self _

/-- One edit of the kind is done with, and at most two stretches have been parted. -/
theorem effort_moved {c : Change} {above below : List (Edit α)} {e : Edit α} {items : List α}
    {up down : Moving α} (he : c.items? e = some items) (hup : up = moveUp c items below above)
    (hdown : down = moveDown c up.items up.above up.below) :
    effort c (c.edit down.items :: down.above) down.below < effort c above (e :: below) := by
  obtain ⟨hlength, hcount⟩ := hup ▸ moveUp_size c items below above
  obtain ⟨hlength', hcount'⟩ := hdown ▸ moveDown_size c up.items up.above up.below
  rw [effort, effort, Change.count_cons_of_some he, List.length_cons, List.length_cons]
  have hmul : c.count down.below *
      (down.above.length + 1 + down.below.length + 2 * c.count down.below + 1) ≤
      c.count below * (above.length + (below.length + 1) + 2 * (c.count below + 1) + 1) :=
    Nat.mul_le_mul (by omega) (by omega)
  rw [Nat.succ_mul (c.count below)]
  omega

theorem compacted_compactFrom {c : Change} {fuel : Nat} {above below : List (Edit α)}
    (h : effort c above below ≤ fuel) :
    Compacted c above below (compactFrom c fuel above below) := by
  fun_induction compactFrom c fuel above below with
  | case1 fuel above => exact .done above
  | case2 above below hbelow =>
    cases below with
    | nil => exact absurd rfl hbelow
    | cons e below => exact absurd (Nat.le_zero.mp h) (Nat.succ_ne_zero _)
  | case3 fuel above e below items he up down ih =>
    exact .moved he rfl rfl (ih (Nat.le_of_lt_succ (Nat.lt_of_lt_of_le (effort_moved he rfl rfl) h)))
  | case4 fuel above e below he ih =>
    exact .passed he (ih (Nat.le_of_lt_succ (Nat.lt_of_lt_of_le (effort_passed he) h)))

/-- The fuel is enough to move all edits of a kind. -/
theorem compacted_compactKind (c : Change) (script : List (Edit α)) :
    Compacted c [] script (compactKind c script) := by
  refine compacted_compactFrom ?_
  have hcount : c.count script ≤ script.length := List.countP_le_length
  rw [effort, List.length_nil, Nat.zero_add]
  generalize script.length = l at *
  calc c.count script * (l + 2 * c.count script + 1) + l
      ≤ (l + 1) * (l + 2 * l + 1) + (l + 1) :=
        Nat.add_le_add (Nat.mul_le_mul (by omega) (by omega)) (Nat.le_succ l)
    _ = (l + 1) * (l + 2 * l + 2) := (Nat.mul_succ _ _).symm
    _ ≤ (l + 1) * (4 * (l + 1)) := Nat.mul_le_mul_left _ (by omega)
    _ = 4 * (l + 1) * (l + 1) := Nat.mul_comm _ _

end MarkerSweep.Diff
