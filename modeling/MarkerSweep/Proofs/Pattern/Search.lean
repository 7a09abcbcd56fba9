import MarkerSweep.Pattern.Search
import MarkerSweep.Proofs.Pattern.Trial
/-!
# A search finds the preferred end

A search marks what it has tried and never tries it again. Two things make that harmless: a marked
pair is on the path that is being followed, where the trial gives up as well, or nothing can be
reached from it (`Program.Sound`). So a search answers what the trial of its pending pairs answers
(`Program.run_tries`, by induction on the trial), whatever the program is, and a search from later
starts may keep the marks of those that failed.

Where every round of a loop takes a character the answer is the first of the ends of the expression
(`Program.prefers_iff`).
-/

set_option autoImplicit false

namespace MarkerSweep.Pattern

/-- The place before the character with a given number. -/
def placeAt (text : Array Char) (i : Nat) : Place :=
  ⟨lastOr none (text.toList.take i), text.toList.drop i⟩

theorem lastOr_concat (b : Option Char) (s : List Char) (c : Char) :
    lastOr b (s ++ [c]) = some c := by simp

theorem head?_rest_placeAt (text : Array Char) (i : Nat) :
    (placeAt text i).rest.head? = text[i]? := by
  simp [placeAt, List.head?_drop]

theorem before_placeAt {text : Array Char} {i : Nat} (hi : i ≤ text.size) :
    (placeAt text i).before = if i = 0 then none else text[i - 1]? := by
  cases i with
  | zero => simp [placeAt]
  | succ i =>
    have hlt : i < text.toList.length := by simpa using Nat.lt_of_succ_le hi
    rw [placeAt, List.take_succ_eq_append_getElem hlt, lastOr_concat]
    simp [Array.getElem?_eq_getElem (show i < text.size from hi)]

theorem placeAt_of_getElem? {text : Array Char} {i : Nat} {c : Char} (h : text[i]? = some c) :
    placeAt text i = ⟨(placeAt text i).before, c :: (placeAt text (i + 1)).rest⟩ ∧
      placeAt text (i + 1) = ⟨some c, (placeAt text (i + 1)).rest⟩ := by
  obtain ⟨hi, hc⟩ := Array.getElem?_eq_some_iff.mp h
  have hlt : i < text.toList.length := by simpa using hi
  have hc' : text.toList[i] = c := by simpa using hc
  constructor
  · simp only [placeAt, Place.mk.injEq, true_and]
    rw [List.drop_eq_getElem_cons hlt, hc']
  · simp only [placeAt, Place.mk.injEq, and_true]
    rw [List.take_succ_eq_append_getElem hlt, lastOr_concat, hc']

theorem length_rest_placeAt (text : Array Char) (i : Nat) :
    (placeAt text i).rest.length = text.size - i := by simp [placeAt]

namespace Program

variable {p : Program} {text : Array Char} {marks : Array Bool} {x y : Nat × Nat}
  {passed ys : List (Nat × Place)} {answer : Option Place}

/-! ## Marks -/

/-- Where the mark of a pair stands. -/
def cell (text : Array Char) (pc i : Nat) : Nat := pc * (text.size + 1) + i

theorem cell_inj {pc i pc' i' : Nat} (hi : i ≤ text.size) (hi' : i' ≤ text.size)
    (h : cell text pc i = cell text pc' i') : pc = pc' ∧ i = i' := by
  have hmod : i = i' := by
    have := congrArg (· % (text.size + 1)) h
    simpa [cell, Nat.add_comm _ i, Nat.add_comm _ i', Nat.mod_eq_of_lt (Nat.lt_succ_of_le hi),
      Nat.mod_eq_of_lt (Nat.lt_succ_of_le hi')] using this
  subst hmod
  exact ⟨Nat.eq_of_mul_eq_mul_right (Nat.succ_pos _) (Nat.add_right_cancel h), rfl⟩

theorem cell_lt {pc i : Nat} (hpc : pc < p.code.size) (hi : i ≤ text.size) :
    cell text pc i < p.cells text := by
  have := Nat.mul_le_mul_right (text.size + 1) (Nat.succ_le_of_lt hpc)
  rw [Nat.succ_mul] at this
  rw [cell, cells]
  omega

/-- A search passes over the pair: it has been tried, or there is no such instruction. -/
def Seen (text : Array Char) (marks : Array Bool) (x : Nat × Nat) : Prop :=
  marks[cell text x.1 x.2]?.getD true = true

theorem getElem?_of_not_seen (h : ¬ Seen text marks x) :
    marks[cell text x.1 x.2]? = some false := by
  rw [Seen] at h
  cases hm : marks[cell text x.1 x.2]? with
  | none => simp [hm] at h
  | some b =>
    rw [hm, Option.getD_some, Bool.not_eq_true] at h
    rw [h]

/-- The marks after a pair was tried. -/
def mark (text : Array Char) (marks : Array Bool) (x : Nat × Nat) : Array Bool :=
  marks.setIfInBounds (cell text x.1 x.2) true

theorem seen_mark_self : Seen text (mark text marks x) x := by
  rw [Seen, mark, Array.getElem?_setIfInBounds_self]
  split <;> rfl

theorem Seen.mark (h : Seen text marks y) : Seen text (mark text marks x) y := by
  by_cases hcell : cell text x.1 x.2 = cell text y.1 y.2
  · rw [Seen, Program.mark, ← hcell, Array.getElem?_setIfInBounds_self]
    split <;> rfl
  · rwa [Seen, Program.mark, Array.getElem?_setIfInBounds_ne hcell]

theorem eq_or_seen_of_mark (hx : x.2 ≤ text.size) (hy : y.2 ≤ text.size)
    (h : Seen text (mark text marks x) y) : y = x ∨ Seen text marks y := by
  by_cases hcell : cell text x.1 x.2 = cell text y.1 y.2
  · obtain ⟨hpc, hi⟩ := cell_inj hx hy hcell
    exact .inl (Prod.ext hpc.symm hi.symm)
  · rw [Seen, mark, Array.getElem?_setIfInBounds_ne hcell] at h
    exact .inr h

/-- How many pairs have not been tried. -/
def untried (marks : Array Bool) : Nat := marks.count false

theorem untried_mark (h : ¬ Seen text marks x) :
    untried (mark text marks x) + 1 = untried marks := by
  obtain ⟨hk, hf⟩ := Array.getElem?_eq_some_iff.mp (getElem?_of_not_seen h)
  have hpos : 0 < marks.count false := Array.count_pos_iff.mpr (hf ▸ Array.getElem_mem hk)
  rw [untried, untried, mark, Array.setIfInBounds_def, dif_pos hk, Array.count_set hk, hf]
  simp
  omega

/-! ## One try -/

/-- A pair of an address and the number of a place. -/
def pairAt (text : Array Char) (x : Nat × Nat) : Nat × Place := (x.1, placeAt text x.2)

theorem pairAt_inj (hx : x.2 ≤ text.size) (hy : y.2 ≤ text.size)
    (h : pairAt text x = pairAt text y) : x = y := by
  obtain ⟨hpc, hplace⟩ := Prod.ext_iff.mp h
  have hlen := congrArg (List.length ∘ Place.rest) hplace
  simp only [pairAt, Function.comp_apply, length_rest_placeAt] at hlen
  exact Prod.ext hpc (by omega)

/-- What a search takes up after a pair. -/
def nextAt (p : Program) (text : Array Char) (x : Nat × Nat) : List (Nat × Nat) :=
  match p.code[x.1]? with
  | some (.jump target) => [(target, x.2)]
  | some (.split first second) => [(first, x.2), (second, x.2)]
  | some (.consume s) =>
    match text[x.2]? with
    | some c => if s.contains c then [(x.1 + 1, x.2 + 1)] else []
    | none => []
  | some (.look a) =>
    if a.holds (if x.2 = 0 then none else text[x.2 - 1]?) text[x.2]? then [(x.1 + 1, x.2)] else []
  | _ => []

theorem length_nextAt_le (p : Program) (text : Array Char) (x : Nat × Nat) :
    (p.nextAt text x).length ≤ 2 := by
  rw [nextAt]
  repeat' split
  all_goals simp

theorem le_of_mem_nextAt (hx : x.2 ≤ text.size) (h : y ∈ p.nextAt text x) : y.2 ≤ text.size := by
  rw [nextAt] at h
  cases hc : p.code[x.1]? with
  | none => simp [hc] at h
  | some i =>
    rw [hc] at h
    cases i with
    | accept => cases h
    | jump target =>
      rw [List.mem_singleton.mp h]
      exact hx
    | split first second =>
      simp only [List.mem_cons, List.not_mem_nil, or_false] at h
      rcases h with rfl | rfl <;> exact hx
    | consume s =>
      dsimp only at h
      cases hget : text[x.2]? with
      | none => simp [hget] at h
      | some c =>
        have hlt : x.2 < text.size := (Array.getElem?_eq_some_iff.mp hget).1
        simp only [hget, List.mem_ite_nil_right, List.mem_singleton] at h
        rw [h.2]
        exact hlt
    | look a =>
      simp only [List.mem_ite_nil_right, List.mem_singleton] at h
      rw [h.2]
      exact hx

theorem steps_pairAt (hx : x.2 ≤ text.size) :
    p.steps (pairAt text x) = (p.nextAt text x).map (pairAt text) := by
  obtain ⟨pc, i⟩ := x
  have hhead := head?_rest_placeAt text i
  rw [steps, nextAt, pairAt]
  dsimp only
  cases p.code[pc]? with
  | none => rfl
  | some instr =>
    cases instr with
    | accept | jump | split => rfl
    | consume s =>
      dsimp only
      cases hc : text[i]? with
      | none =>
        rw [hc, List.head?_eq_none_iff] at hhead
        rw [hhead]
        rfl
      | some c =>
        obtain ⟨h₁, h₂⟩ := placeAt_of_getElem? hc
        rw [h₁]
        by_cases hs : s.contains c = true
        · simp [hs, pairAt, ← h₂]
        · simp [hs]
    | look a =>
      simp only [hhead, before_placeAt hx]
      rw [apply_ite (List.map _)]
      rfl

theorem run_of_seen (h : Seen text marks x) (stack : List (Nat × Nat)) (fuel : Nat) :
    p.run text (fuel + 1) (x :: stack) marks = p.run text fuel stack marks := by
  have h : marks[x.1 * (text.size + 1) + x.2]?.getD true = true := h
  rw [run]
  simp only [h, if_true]

/-- A pair that was not tried is marked, and what can follow it is taken up. -/
theorem run_of_not_seen (h : ¬ Seen text marks x) (ha : ¬ p.Accepts (pairAt text x))
    (stack : List (Nat × Nat)) (fuel : Nat) :
    p.run text (fuel + 1) (x :: stack) marks =
      p.run text fuel (p.nextAt text x ++ stack) (mark text marks x) := by
  have h : ¬ marks[x.1 * (text.size + 1) + x.2]?.getD true = true := h
  have ha : ¬ p.code[x.1]? = some .accept := ha
  rw [run, nextAt, mark, cell]
  simp only [h]
  cases hc : p.code[x.1]? with
  | none => rfl
  | some i =>
    cases i with
    | accept => exact absurd hc ha
    | jump | split => rfl
    | consume s =>
      dsimp only
      cases text[x.2]? with
      | none => rfl
      | some c => by_cases hs : s.contains c = true <;> simp [hs]
    | look a =>
      dsimp only
      generalize a.holds (if x.2 = 0 then none else text[x.2 - 1]?) text[x.2]? = holds
      cases holds <;> rfl

theorem run_of_accepts (h : ¬ Seen text marks x) (ha : p.Accepts (pairAt text x))
    (stack : List (Nat × Nat)) (fuel : Nat) :
    p.run text (fuel + 1) (x :: stack) marks = (some x.2, mark text marks x) := by
  have h : ¬ marks[x.1 * (text.size + 1) + x.2]?.getD true = true := h
  have ha : p.code[x.1]? = some .accept := ha
  rw [run]
  simp only [h, ha]
  rfl

/-! ## The search -/

/-- Marks that a search may rely on while it follows a path. -/
structure Sound (p : Program) (text : Array Char) (marks : Array Bool)
    (passed : List (Nat × Place)) : Prop where
  size : marks.size = p.cells text
  /-- The path is marked. -/
  seen : ∀ x : Nat × Nat, x.2 ≤ text.size → pairAt text x ∈ passed → Seen text marks x
  /-- From whatever else is marked nothing can be reached beside the path. -/
  settled : ∀ x : Nat × Nat, x.2 ≤ text.size → Seen text marks x →
    pairAt text x ∈ passed ∨ p.Stuck passed (pairAt text x)

namespace Sound

theorem mark (h : p.Sound text marks passed) (hx : x.2 ≤ text.size) :
    p.Sound text (mark text marks x) (pairAt text x :: passed) where
  size := by simpa [Program.mark] using h.size
  seen y hy hmem := by
    rcases List.mem_cons.mp hmem with heq | hmem
    · rw [pairAt_inj hy hx heq]
      exact seen_mark_self
    · exact (h.seen y hy hmem).mark
  settled y hy hseen := by
    rcases eq_or_seen_of_mark hx hy hseen with rfl | hseen
    · exact .inl List.mem_cons_self
    · exact (h.settled y hy hseen).imp (List.mem_cons_of_mem _) Stuck.cons

/-- A pair that the path was tried beyond in vain is settled without it. -/
theorem leave (h : p.Sound text marks (pairAt text x :: passed))
    (hx : p.Stuck passed (pairAt text x)) : p.Sound text marks passed where
  size := h.size
  seen y hy hmem := h.seen y hy (List.mem_cons_of_mem _ hmem)
  settled y hy hseen := by
    rcases h.settled y hy hseen with hmem | hstuck
    · rcases List.mem_cons.mp hmem with heq | hmem
      · exact .inr (heq ▸ hx)
      · exact .inl hmem
    · exact .inr (hstuck.of_cons hx)

end Sound

/-- What a run of some alternatives comes to. If the trial of them has an answer, so has the run; if
it has none, the run goes on with the rest of the stack. Every try uses up a mark or a pending pair,
which is what the fuel counts. -/
structure Answers (p : Program) (text : Array Char) (passed : List (Nat × Place))
    (stack : List (Nat × Nat)) (answer : Option Place) (result : Option Nat × Array Bool) :
    Prop where
  found : ∀ q, answer = some q → ∃ j marks, j ≤ text.size ∧ placeAt text j = q ∧
    result = (some j, marks)
  failed : answer = none → ∃ fuel marks, result = p.run text fuel stack marks ∧
    p.Sound text marks passed ∧ 2 * untried marks + stack.length < fuel

/-- A run answers what the trial answers. The induction is on the trial. -/
theorem run_tries (h : p.Tries passed ys answer) : ∀ (xs stack : List (Nat × Nat))
    (marks : Array Bool) (fuel : Nat), ys = xs.map (pairAt text) → (∀ x ∈ xs, x.2 ≤ text.size) →
      p.Sound text marks passed → 2 * untried marks + (xs.length + stack.length) < fuel →
        p.Answers text passed stack answer (p.run text fuel (xs ++ stack) marks) := by
  -- the list of the alternatives is the list of the pairs that are pending
  have hcons : ∀ {y : Nat × Place} {ys : List (Nat × Place)} {xs : List (Nat × Nat)},
      y :: ys = xs.map (pairAt text) →
        ∃ x xs', xs = x :: xs' ∧ y = pairAt text x ∧ ys = xs'.map (pairAt text) := by
    intro y ys xs h
    obtain ⟨x, xs', rfl, hx, hxs⟩ := List.map_eq_cons_iff.mp h.symm
    exact ⟨x, xs', rfl, hx.symm, hxs.symm⟩
  induction h with
  | nil =>
    intro xs stack marks fuel hxs hle hsound hfuel
    obtain rfl := List.map_eq_nil_iff.mp hxs.symm
    exact ⟨by simp, fun _ => ⟨fuel, marks, rfl, hsound, by simpa using hfuel⟩⟩
  | back hx _ ih =>
    intro xs stack marks fuel hxs hle hsound hfuel
    obtain ⟨x, xs, rfl, rfl, rfl⟩ := hcons hxs
    obtain ⟨hx', hle⟩ := List.forall_mem_cons.mp hle
    obtain ⟨fuel, rfl⟩ : ∃ f, fuel = f + 1 := ⟨fuel - 1, by omega⟩
    rw [List.cons_append, run_of_seen (hsound.seen x hx' hx)]
    exact ih xs stack marks fuel rfl hle hsound (by simp only [List.length_cons] at hfuel; omega)
  | accept hx ha =>
    intro xs stack marks fuel hxs hle hsound hfuel
    obtain ⟨x, xs, rfl, rfl, rfl⟩ := hcons hxs
    obtain ⟨hx', -⟩ := List.forall_mem_cons.mp hle
    obtain ⟨fuel, rfl⟩ : ∃ f, fuel = f + 1 := ⟨fuel - 1, by omega⟩
    have hnew : ¬ Seen text marks x := fun hseen =>
      (hsound.settled x hx' hseen).elim hx fun hstuck => hstuck _ .refl ha
    rw [List.cons_append, run_of_accepts hnew ha]
    exact ⟨fun q hq => ⟨x.2, _, hx', Option.some.inj hq, rfl⟩, by simp⟩
  | found hx ha h ih =>
    intro xs stack marks fuel hxs hle hsound hfuel
    obtain ⟨x, xs, rfl, rfl, rfl⟩ := hcons hxs
    obtain ⟨hx', hle⟩ := List.forall_mem_cons.mp hle
    obtain ⟨fuel, rfl⟩ : ∃ f, fuel = f + 1 := ⟨fuel - 1, by omega⟩
    have hnew : ¬ Seen text marks x := fun hseen =>
      (hsound.settled x hx' hseen).elim hx (not_stuck_of_tries (.found hx ha h))
    have := untried_mark hnew
    have := p.length_nextAt_le text x
    rw [List.cons_append, run_of_not_seen hnew ha]
    have := ih (p.nextAt text x) (xs ++ stack) _ fuel (steps_pairAt hx')
      (fun _ => le_of_mem_nextAt hx') (hsound.mark hx')
      (by simp only [List.length_cons, List.length_append] at hfuel ⊢; omega)
    exact ⟨this.found, by simp⟩
  | failed hx ha h _ ih ih' =>
    intro xs stack marks fuel hxs hle hsound hfuel
    obtain ⟨x, xs, rfl, rfl, rfl⟩ := hcons hxs
    obtain ⟨hx', hle⟩ := List.forall_mem_cons.mp hle
    obtain ⟨fuel, rfl⟩ : ∃ f, fuel = f + 1 := ⟨fuel - 1, by omega⟩
    by_cases hseen : Seen text marks x
    · rw [List.cons_append, run_of_seen hseen]
      exact ih' xs stack marks fuel rfl hle hsound
        (by simp only [List.length_cons] at hfuel; omega)
    · -- what follows the pair is tried in vain, and then the other alternatives are
      have := untried_mark hseen
      have := p.length_nextAt_le text x
      have hsub := ih (p.nextAt text x) (xs ++ stack) _ fuel (steps_pairAt hx')
        (fun _ => le_of_mem_nextAt hx') (hsound.mark hx')
        (by simp only [List.length_cons, List.length_append] at hfuel ⊢; omega)
      obtain ⟨fuel', marks', hrun, hsound', hfuel'⟩ := hsub.failed rfl
      rw [List.cons_append, run_of_not_seen hseen ha, hrun]
      exact ih' xs stack marks' fuel' rfl hle (hsound'.leave (stuck_of_steps ha h.stuck))
        (by rwa [List.length_append] at hfuel')

/-! ## The leftmost match -/

theorem sound_replicate (p : Program) (text : Array Char) :
    p.Sound text (Array.replicate (p.cells text) false) [] where
  size := Array.size_replicate
  seen x _ hmem := by cases hmem
  settled x hx hseen := by
    right
    -- nothing is marked, so the search passes over the pair because there is no instruction
    have hpc : p.code[x.1]? = none := by
      refine Array.getElem?_eq_none (Nat.le_of_not_lt fun hpc => ?_)
      have := cell_lt hpc hx
      simp [Seen, this] at hseen
    have hsteps : p.steps (pairAt text x) = [] := by simp [steps, pairAt, hpc]
    refine stuck_of_steps ?_ (by simp [hsteps])
    simp [Accepts, pairAt, hpc]

/-- A search from one start, with the marks of failed starts, has fuel enough. -/
theorem answers_start {i : Nat} (hi : i ≤ text.size) (hsound : p.Sound text marks [])
    (h : p.Tries [] [(0, placeAt text i)] answer) :
    p.Answers text [] [] answer (p.run text (2 * p.cells text + 2) [(0, i)] marks) := by
  have : untried marks ≤ marks.size := Array.count_le_size
  have := hsound.size
  refine run_tries h [(0, i)] [] marks _ rfl (by simpa using hi) hsound ?_
  simp only [List.length_singleton, List.length_nil]
  omega

/-- A start from which the program accepts is the start of the match. -/
theorem findFrom_of_prefers (starts : Nat) {start : Nat} {q : Place} (hi : start ≤ text.size)
    (hsound : p.Sound text marks []) (h : p.Prefers (placeAt text start) q) :
    ∃ j, j ≤ text.size ∧ placeAt text j = q ∧
      p.findFrom text (starts + 1) start marks = some ⟨start, j⟩ := by
  obtain ⟨j, marks', hj, hq, hrun⟩ := (answers_start hi hsound h).found q rfl
  refine ⟨j, hj, hq, ?_⟩
  rw [findFrom, hrun]

/-- After a start that fails the search goes on from the next one. -/
theorem findFrom_of_fails (starts : Nat) {start : Nat} (hi : start ≤ text.size)
    (hsound : p.Sound text marks []) (h : p.Fails (placeAt text start)) :
    ∃ marks', p.Sound text marks' [] ∧
      p.findFrom text (starts + 1) start marks = p.findFrom text starts (start + 1) marks' := by
  obtain ⟨fuel, marks', hans, hsound', -⟩ := (answers_start hi hsound h).failed rfl
  have hrun : p.run text fuel [] marks' = (none, marks') := by cases fuel <;> rfl
  refine ⟨marks', hsound', ?_⟩
  rw [findFrom, hans, hrun]

theorem findFrom_eq_some {m : Match} : ∀ (starts start : Nat) (marks : Array Bool),
    start + starts ≤ text.size + 1 → p.Sound text marks [] →
      p.findFrom text starts start marks = some m →
      start ≤ m.first ∧ m.first ≤ text.size ∧ m.last ≤ text.size ∧
        (∀ i, start ≤ i → i < m.first → p.Fails (placeAt text i)) ∧
        p.Prefers (placeAt text m.first) (placeAt text m.last)
  | 0, _, _, _, _, h => by simp [findFrom] at h
  | starts + 1, start, marks, hle, hsound, h => by
    have hstart : start ≤ text.size := by omega
    rcases p.prefers_or_fails (placeAt text start) with ⟨q, hq⟩ | hfails
    · obtain ⟨j, hj, rfl, hfind⟩ := findFrom_of_prefers starts hstart hsound hq
      rw [hfind, Option.some.injEq] at h
      subst h
      exact ⟨Nat.le_refl _, hstart, hj, fun i h₁ h₂ => absurd h₁ (Nat.not_le.mpr h₂), hq⟩
    · obtain ⟨marks', hsound', hfind⟩ := findFrom_of_fails starts hstart hsound hfails
      rw [hfind] at h
      obtain ⟨h₁, h₂, h₃, h₄, h₅⟩ :=
        findFrom_eq_some starts (start + 1) marks' (by omega) hsound' h
      refine ⟨by omega, h₂, h₃, fun i hi hlt => ?_, h₅⟩
      rcases Nat.eq_or_lt_of_le hi with rfl | hi
      · exact hfails
      · exact h₄ i hi hlt

theorem findFrom_eq_none : ∀ (starts start : Nat) (marks : Array Bool),
    start + starts ≤ text.size + 1 → p.Sound text marks [] →
      p.findFrom text starts start marks = none →
        ∀ i, start ≤ i → i < start + starts → p.Fails (placeAt text i)
  | 0, _, _, _, _, _, i, h₁, h₂ => by omega
  | starts + 1, start, marks, hle, hsound, h, i, h₁, h₂ => by
    have hstart : start ≤ text.size := by omega
    rcases p.prefers_or_fails (placeAt text start) with ⟨q, hq⟩ | hfails
    · obtain ⟨j, -, -, hfind⟩ := findFrom_of_prefers starts hstart hsound hq
      rw [hfind] at h
      cases h
    · obtain ⟨marks', hsound', hfind⟩ := findFrom_of_fails starts hstart hsound hfails
      rw [hfind] at h
      rcases Nat.eq_or_lt_of_le h₁ with rfl | h₁
      · exact hfails
      · exact findFrom_eq_none starts (start + 1) marks' (by omega) hsound' h i h₁ (by omega)

/-- A match that is found is the leftmost one, and ends where the program prefers to end. -/
theorem find?_eq_some {start : Nat} {m : Match} (hs : start ≤ text.size + 1)
    (h : p.find? text start = some m) :
    start ≤ m.first ∧ m.first ≤ text.size ∧ m.last ≤ text.size ∧
      (∀ i, start ≤ i → i < m.first → p.Fails (placeAt text i)) ∧
      p.Prefers (placeAt text m.first) (placeAt text m.last) :=
  findFrom_eq_some _ _ _ (by omega) (p.sound_replicate text) h

/-- No match is found only if the program accepts from nowhere. -/
theorem find?_eq_none {start : Nat} (hs : start ≤ text.size + 1)
    (h : p.find? text start = none) : ∀ i, start ≤ i → i ≤ text.size → p.Fails (placeAt text i) :=
  fun i h₁ h₂ =>
    findFrom_eq_none _ _ _ (by omega) (p.sound_replicate text) h i h₁ (by omega)

/-! ## Expressions whose loops consume -/

section

variable {e : Expr} {q r : Place} (he : e.loopsConsume = true)

include he

theorem tries_ofExpr (q : Place) : (ofExpr e).Tries [] [(0, q)] (e.ends q).head? :=
  (Expr.yields_ofExpr he q).tries [] (by simp)

theorem prefers_iff : (ofExpr e).Prefers q r ↔ (e.ends q).head? = some r := by
  refine ⟨(tries_ofExpr he q).unique, fun h => ?_⟩
  rw [Prefers, ← h]
  exact tries_ofExpr he q

end

end Program

end MarkerSweep.Pattern
