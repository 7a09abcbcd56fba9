import Mathlib.Data.Finset.Card
import Mathlib.Logic.Relation
import MarkerSweep.Proofs.Pattern.Layout
/-!
# What a program prefers

`Program.Yields` lists what an exhaustive trial finds, but only where the trial comes to an end. A
loop whose body may match the empty text has no such trial: it leads back to where it stands.
`Program.Tries` is the trial that every program has. It takes up the alternatives in order of
preference and gives up a path that comes back to a pair of an address and a place that it has
already passed. There is always exactly one answer (`exists_tries`, `Tries.unique`), and where the
exhaustive trial ends it is the first place of its list (`Yields.tries`).

Giving up a path loses nothing. A trial fails only if no path at all leads to an accepting pair
(`Tries.stuck`), since a path that comes back to a pair can be shortened.
-/

set_option autoImplicit false

namespace MarkerSweep.Pattern.Program

variable {p : Program} {x y z : Nat × Place} {passed xs ys : List (Nat × Place)} {q : Place}
  {answer : Option Place}

/-- The pairs that can follow a pair of an address and a place, in order of preference. -/
def steps (p : Program) (x : Nat × Place) : List (Nat × Place) :=
  match p.code[x.1]? with
  | some (.jump target) => [(target, x.2)]
  | some (.split first second) => [(first, x.2), (second, x.2)]
  | some (.consume s) =>
    match x.2.rest with
    | c :: r => if s.contains c then [(x.1 + 1, ⟨some c, r⟩)] else []
    | [] => []
  | some (.look a) => if a.holds x.2.before x.2.rest.head? then [(x.1 + 1, x.2)] else []
  | _ => []

section

variable {pc : Nat}

theorem steps_jump {target : Nat} (hc : p.code[pc]? = some (.jump target)) :
    p.steps (pc, q) = [(target, q)] := by
  simp [steps, hc]

theorem steps_split {first second : Nat} (hc : p.code[pc]? = some (.split first second)) :
    p.steps (pc, q) = [(first, q), (second, q)] := by
  simp [steps, hc]

theorem steps_consume {s : Unicode.CharSet} {b : Option Char} {c : Char} {r : List Char}
    (hc : p.code[pc]? = some (.consume s)) (hs : s.contains c = true) :
    p.steps (pc, ⟨b, c :: r⟩) = [(pc + 1, ⟨some c, r⟩)] := by
  simp [steps, hc, hs]

theorem steps_refuse {s : Unicode.CharSet} (hc : p.code[pc]? = some (.consume s))
    (hn : ∀ c ∈ q.rest.head?, s.contains c = false) : p.steps (pc, q) = [] := by
  obtain ⟨b, _ | ⟨c, r⟩⟩ := q
  · simp [steps, hc]
  · simp [steps, hc, hn c rfl]

theorem steps_holds {a : Look} (hc : p.code[pc]? = some (.look a))
    (ha : a.holds q.before q.rest.head? = true) : p.steps (pc, q) = [(pc + 1, q)] := by
  simp [steps, hc, ha]

theorem steps_fails {a : Look} (hc : p.code[pc]? = some (.look a))
    (ha : a.holds q.before q.rest.head? = false) : p.steps (pc, q) = [] := by
  simp [steps, hc, ha]

end

def Accepts (p : Program) (x : Nat × Place) : Prop := p.code[x.1]? = some .accept

/-- The answer of a trial of some alternatives, in order, on a path that has passed some pairs. -/
inductive Tries (p : Program) : List (Nat × Place) → List (Nat × Place) → Option Place → Prop
  | nil {passed : List (Nat × Place)} : Tries p passed [] none
  | back {x : Nat × Place} {passed xs : List (Nat × Place)} {answer : Option Place} :
      x ∈ passed → Tries p passed xs answer → Tries p passed (x :: xs) answer
  | accept {x : Nat × Place} {passed xs : List (Nat × Place)} :
      x ∉ passed → p.Accepts x → Tries p passed (x :: xs) (some x.2)
  | found {x : Nat × Place} {passed xs : List (Nat × Place)} {q : Place} :
      x ∉ passed → ¬ p.Accepts x → Tries p (x :: passed) (p.steps x) (some q) →
        Tries p passed (x :: xs) (some q)
  | failed {x : Nat × Place} {passed xs : List (Nat × Place)} {answer : Option Place} :
      x ∉ passed → ¬ p.Accepts x → Tries p (x :: passed) (p.steps x) none →
        Tries p passed xs answer → Tries p passed (x :: xs) answer

/-- The place at which the program accepts when it is started at a place. -/
def Prefers (p : Program) (q r : Place) : Prop := p.Tries [] [(0, q)] (some r)

/-- Started at a place, the program does not accept. -/
def Fails (p : Program) (q : Place) : Prop := p.Tries [] [(0, q)] none

/-! ## There is one answer -/

theorem Tries.unique {answer' : Option Place} (h : p.Tries passed xs answer)
    (h' : p.Tries passed xs answer') : answer = answer' := by
  induction h generalizing answer' with
  | nil =>
    cases h'
    rfl
  | back hx _ ih =>
    cases h' with
    | back _ h' => exact ih h'
    | accept hx' | found hx' | failed hx' => exact absurd hx hx'
  | accept hx ha =>
    cases h' with
    | back hx' => exact absurd hx' hx
    | accept => rfl
    | found _ ha' | failed _ ha' => exact absurd ha ha'
  | found hx ha _ ih =>
    cases h' with
    | back hx' => exact absurd hx' hx
    | accept _ ha' => exact absurd ha' ha
    | found _ _ h' => exact ih h'
    | failed _ _ h' => exact absurd (ih h') (by simp)
  | failed hx ha _ _ ih ih' =>
    cases h' with
    | back hx' => exact absurd hx' hx
    | accept _ ha' => exact absurd ha' ha
    | found _ _ h' => exact absurd (ih h') (by simp)
    | failed _ _ _ h' => exact ih' h'

theorem tries_append {answer' : Option Place} (h : p.Tries passed xs answer)
    (h' : p.Tries passed ys answer') : p.Tries passed (xs ++ ys) (answer.or answer') := by
  induction h with
  | nil => exact h'
  | back hx _ ih => exact .back hx (ih h')
  | accept hx ha => exact .accept hx ha
  | found hx ha h => exact .found hx ha h
  | failed hx ha h _ _ ih => exact .failed hx ha h (ih h')

/-- A pair that is new on the path and does not accept answers what its followers answer. -/
theorem tries_singleton (hx : x ∉ passed) (ha : ¬ p.Accepts x)
    (h : p.Tries (x :: passed) (p.steps x) answer) : p.Tries passed [x] answer := by
  cases answer with
  | none => exact .failed hx ha h .nil
  | some q => exact .found hx ha h

theorem exists_tries_of_forall (h : ∀ x ∈ xs, ∃ answer, p.Tries passed [x] answer) :
    ∃ answer, p.Tries passed xs answer := by
  induction xs with
  | nil => exact ⟨none, .nil⟩
  | cons x xs ih =>
    obtain ⟨a, ha⟩ := h x List.mem_cons_self
    obtain ⟨b, hb⟩ := ih fun y hy => h y (List.mem_cons_of_mem x hy)
    exact ⟨a.or b, tries_append ha hb⟩

/-- How many instructions the path has not passed at a place. -/
noncomputable def unpassed (p : Program) (passed : List (Nat × Place)) (q : Place) : Nat :=
  ((Finset.range p.code.size).filter fun pc => (pc, q) ∉ passed).card

theorem unpassed_cons_lt (hx : x ∉ passed) (hpc : x.1 < p.code.size) :
    p.unpassed (x :: passed) x.2 < p.unpassed passed x.2 := by
  refine Finset.card_lt_card (Finset.ssubset_iff_subset_ne.mpr ⟨fun pc hpc => ?_, fun heq => ?_⟩)
  · simp only [Finset.mem_filter, List.mem_cons, not_or] at hpc ⊢
    exact ⟨hpc.1, hpc.2.2⟩
  · have hmem : x.1 ∈ (Finset.range p.code.size).filter fun pc => (pc, x.2) ∉ passed := by
      simpa using ⟨hpc, hx⟩
    rw [← heq] at hmem
    simp at hmem

/-- What follows a pair is at the same place, or fewer characters are left there. -/
theorem place_of_mem_steps (h : y ∈ p.steps x) :
    x.1 < p.code.size ∧ (y.2 = x.2 ∨ y.2.rest.length < x.2.rest.length) := by
  have hlt : ∀ {i : Instr}, p.code[x.1]? = some i → x.1 < p.code.size := fun hi =>
    (Array.getElem?_eq_some_iff.mp hi).1
  rw [steps] at h
  split at h
  · rename_i hc
    rw [List.mem_singleton.mp h]
    exact ⟨hlt hc, .inl rfl⟩
  · rename_i hc
    simp only [List.mem_cons, List.not_mem_nil, or_false] at h
    rcases h with rfl | rfl <;> exact ⟨hlt hc, .inl rfl⟩
  · rename_i hc
    split at h
    · rename_i c r hr
      split at h
      · rw [List.mem_singleton.mp h, hr]
        exact ⟨hlt hc, .inr (Nat.lt_succ_self _)⟩
      · cases h
    · cases h
  · rename_i hc
    split at h
    · rw [List.mem_singleton.mp h]
      exact ⟨hlt hc, .inl rfl⟩
    · cases h
  · cases h

/-- Every trial comes to an end: each step takes a character or passes one more instruction. -/
theorem exists_tries_singleton (p : Program) (passed : List (Nat × Place)) (x : Nat × Place) :
    ∃ answer, p.Tries passed [x] answer := by
  by_cases hx : x ∈ passed
  · exact ⟨none, .back hx .nil⟩
  by_cases ha : p.Accepts x
  · exact ⟨some x.2, .accept hx ha⟩
  obtain ⟨answer, h⟩ : ∃ answer, p.Tries (x :: passed) (p.steps x) answer :=
    exists_tries_of_forall fun y hy => exists_tries_singleton p (x :: passed) y
  exact ⟨answer, tries_singleton hx ha h⟩
termination_by (x.2.rest.length, p.unpassed passed x.2)
decreasing_by
  obtain ⟨hpc, heq | hlt⟩ := place_of_mem_steps hy
  · rw [heq]
    exact Prod.Lex.right _ (unpassed_cons_lt hx hpc)
  · exact Prod.Lex.left _ _ hlt

theorem exists_tries (p : Program) (passed xs : List (Nat × Place)) :
    ∃ answer, p.Tries passed xs answer :=
  exists_tries_of_forall fun x _ => exists_tries_singleton p passed x

theorem prefers_or_fails (p : Program) (q : Place) : (∃ r, p.Prefers q r) ∨ p.Fails q := by
  obtain ⟨answer, h⟩ := p.exists_tries [] [(0, q)]
  cases answer with
  | none => exact .inr h
  | some r => exact .inl ⟨r, h⟩

/-! ## A trial fails only if nothing can be reached -/

/-- The second pair follows the first on some path that keeps off the pairs passed. -/
def Leads (p : Program) (passed : List (Nat × Place)) : Nat × Place → Nat × Place → Prop :=
  Relation.ReflTransGen fun x y => y ∈ p.steps x ∧ y ∉ passed

/-- No path from the pair accepts, as long as it keeps off the pairs passed. -/
def Stuck (p : Program) (passed : List (Nat × Place)) (x : Nat × Place) : Prop :=
  ∀ z, p.Leads passed x z → ¬ p.Accepts z

theorem Leads.of_cons (h : p.Leads (x :: passed) y z) : p.Leads passed y z :=
  Relation.ReflTransGen.mono (fun _ _ hy => ⟨hy.1, fun hmem => hy.2 (.tail x hmem)⟩) _ _ h

theorem Stuck.cons (h : p.Stuck passed y) : p.Stuck (x :: passed) y :=
  fun z hz => h z hz.of_cons

/-- A path from a pair need not come back to it. -/
theorem Leads.leaves (h : p.Leads passed x z) :
    z = x ∨ ∃ y ∈ p.steps x, y ∉ x :: passed ∧ p.Leads (x :: passed) y z := by
  induction h with
  | refl => exact .inl rfl
  | @tail z' z _ hz ih =>
    by_cases hzx : z = x
    · exact .inl hzx
    have hnew : z ∉ x :: passed := by simp [hzx, hz.2]
    right
    rcases ih with rfl | ⟨y, hy, hyx, hlead⟩
    · exact ⟨z, hz.1, hnew, .refl⟩
    · exact ⟨y, hy, hyx, hlead.tail ⟨hz.1, hnew⟩⟩

/-- A path either keeps off a pair or comes through it. -/
theorem Leads.avoids (h : p.Leads passed y z) (x : Nat × Place) :
    p.Leads (x :: passed) y z ∨ p.Leads passed x z := by
  induction h with
  | refl => exact .inl .refl
  | @tail z' z _ hz ih =>
    by_cases hzx : z = x
    · exact .inr (hzx ▸ .refl)
    · exact ih.imp (fun h => h.tail ⟨hz.1, by simp [hzx, hz.2]⟩) fun h => h.tail hz

/-- What is stuck beside a pair that is stuck itself is stuck without it. -/
theorem Stuck.of_cons (h : p.Stuck (x :: passed) y) (hx : p.Stuck passed x) : p.Stuck passed y :=
  fun z hz => (hz.avoids x).elim (h z) (hx z)

theorem stuck_of_steps (ha : ¬ p.Accepts x)
    (h : ∀ y ∈ p.steps x, y ∈ x :: passed ∨ p.Stuck (x :: passed) y) : p.Stuck passed x := by
  intro z hz
  rcases hz.leaves with rfl | ⟨y, hy, hyx, hlead⟩
  · exact ha
  · exact (h y hy).resolve_left hyx z hlead

theorem Tries.stuck (h : p.Tries passed xs none) : ∀ x ∈ xs, x ∈ passed ∨ p.Stuck passed x := by
  generalize hnone : (none : Option Place) = answer at h
  induction h with
  | nil => simp
  | back hx _ ih => exact List.forall_mem_cons.mpr ⟨.inl hx, ih hnone⟩
  | accept | found => cases hnone
  | failed hx ha _ _ ih ih' =>
    exact List.forall_mem_cons.mpr ⟨.inr (stuck_of_steps ha (ih rfl)), ih' hnone⟩

/-- The answer of a trial is a place where some path accepts. -/
theorem Tries.leads (h : p.Tries passed xs (some q)) :
    ∃ x ∈ xs, x ∉ passed ∧ ∃ z, p.Leads passed x z ∧ p.Accepts z ∧ z.2 = q := by
  generalize hsome : some q = answer at h
  induction h with
  | nil => cases hsome
  | back _ _ ih =>
    obtain ⟨x, hx, h⟩ := ih hsome
    exact ⟨x, List.mem_cons_of_mem _ hx, h⟩
  | @accept x _ _ hx ha =>
    exact ⟨x, List.mem_cons_self, hx, x, .refl, ha, (Option.some.inj hsome).symm⟩
  | @found x _ _ _ hx _ _ ih =>
    obtain ⟨y, hy, hyx, z, hz, ha, hq⟩ := ih hsome
    have hstep : y ∉ _ := fun hmem => hyx (List.mem_cons_of_mem x hmem)
    exact ⟨x, List.mem_cons_self, hx, z, .head ⟨hy, hstep⟩ hz.of_cons, ha, hq⟩
  | failed _ _ _ _ _ ih =>
    obtain ⟨x, hx, h⟩ := ih hsome
    exact ⟨x, List.mem_cons_of_mem _ hx, h⟩

theorem not_stuck_of_tries (h : p.Tries passed [x] (some q)) : ¬ p.Stuck passed x := by
  obtain ⟨_, hx, -, z, hz, ha, -⟩ := h.leads
  rw [List.mem_singleton.mp hx] at hz
  exact fun hstuck => hstuck z hz ha

/-! ## Trials that end by themselves -/

/-- The second pair can be reached from the first. -/
abbrev Reaches (p : Program) : Nat × Place → Nat × Place → Prop :=
  Relation.ReflTransGen fun x y => y ∈ p.steps x

section

variable {pc : Nat} {l : List Place}

/-- An exhaustive trial that comes to an end follows no infinite path. -/
theorem Yields.acc (h : p.Yields pc q l) : Acc (fun y x => y ∈ p.steps x) (pc, q) := by
  induction h with
  | accept hc => exact .intro _ fun y hy => by simp [steps, hc] at hy
  | jump hc _ ih =>
    refine .intro _ fun y hy => ?_
    rw [steps_jump hc, List.mem_singleton] at hy
    exact hy ▸ ih
  | split hc _ _ ih ih' =>
    refine .intro _ fun y hy => ?_
    simp only [steps_split hc, List.mem_cons, List.not_mem_nil, or_false] at hy
    rcases hy with rfl | rfl
    · exact ih
    · exact ih'
  | consume hc hs _ ih =>
    refine .intro _ fun y hy => ?_
    rw [steps_consume hc hs, List.mem_singleton] at hy
    exact hy ▸ ih
  | refuse hc hn => exact .intro _ fun y hy => by simp [steps_refuse hc hn] at hy
  | holds hc ha _ ih =>
    refine .intro _ fun y hy => ?_
    rw [steps_holds hc ha, List.mem_singleton] at hy
    exact hy ▸ ih
  | fails hc ha => exact .intro _ fun y hy => by simp [steps_fails hc ha] at hy

theorem Yields.not_reaches_self (h : p.Yields pc q l) (hx : x ∈ p.steps (pc, q)) :
    ¬ p.Reaches x (pc, q) := by
  have hirr : ∀ {x : Nat × Place}, Acc (fun y x => y ∈ p.steps x) x →
      ¬ Relation.TransGen (fun x y => y ∈ p.steps x) x x := by
    intro x hx
    induction hx with
    | intro x _ ih =>
      intro hloop
      -- one step along the loop lies on the same loop and is accessible in fewer steps
      obtain ⟨y, hxy, hyx⟩ := Relation.TransGen.head'_iff.mp hloop
      exact ih y hxy (Relation.TransGen.tail' hyx hxy)
  exact fun hback => hirr h.acc (Relation.TransGen.head' hx hback)

/-- What is behind a pair is neither ahead of its followers nor the pair itself. -/
theorem Yields.not_reaches_cons (h : p.Yields pc q l) (hx : x ∈ p.steps (pc, q))
    (hpassed : ∀ y ∈ passed, ¬ p.Reaches (pc, q) y) :
    ∀ y ∈ (pc, q) :: passed, ¬ p.Reaches x y :=
  List.forall_mem_cons.mpr ⟨h.not_reaches_self hx, fun y hy hxy => hpassed y hy (.head hx hxy)⟩

/-- A pair with one follower. -/
theorem tries_of_step (h : p.Yields pc q l) (ha : ¬ p.Accepts (pc, q))
    (hsteps : p.steps (pc, q) = [x]) (hpassed : ∀ y ∈ passed, ¬ p.Reaches (pc, q) y)
    (hx : ∀ passed, (∀ y ∈ passed, ¬ p.Reaches x y) → p.Tries passed [x] answer) :
    p.Tries passed [(pc, q)] answer := by
  refine tries_singleton (fun hmem => hpassed _ hmem .refl) ha ?_
  rw [hsteps]
  exact hx _ (h.not_reaches_cons (by simp [hsteps]) hpassed)

/-- Where the exhaustive trial comes to an end, no path is given up, and the answer is the first
place of the list. -/
theorem Yields.tries (h : p.Yields pc q l) : ∀ passed, (∀ y ∈ passed, ¬ p.Reaches (pc, q) y) →
    p.Tries passed [(pc, q)] l.head? := by
  induction h with
  | accept hc => exact fun passed hpassed => .accept (fun hmem => hpassed _ hmem .refl) hc
  | jump hc h ih =>
    intro passed hpassed
    exact tries_of_step (.jump hc h) (by simp [Accepts, hc]) (steps_jump hc) hpassed ih
  | @split pc first second q l l' hc h₁ h₂ ih ih' =>
    intro passed hpassed
    have h := Yields.split hc h₁ h₂
    have hsteps := steps_split (q := q) hc
    refine tries_singleton (fun hmem => hpassed _ hmem .refl) (by simp [Accepts, hc]) ?_
    have := tries_append (ih _ (h.not_reaches_cons (by simp [hsteps]) hpassed))
      (ih' _ (h.not_reaches_cons (by simp [hsteps]) hpassed))
    rwa [hsteps, List.head?_append]
  | consume hc hs h ih =>
    intro passed hpassed
    exact tries_of_step (.consume hc hs h) (by simp [Accepts, hc]) (steps_consume hc hs) hpassed ih
  | refuse hc hn =>
    intro passed hpassed
    refine tries_singleton (fun hmem => hpassed _ hmem .refl) (by simp [Accepts, hc]) ?_
    rw [steps_refuse hc hn]
    exact .nil
  | holds hc ha h ih =>
    intro passed hpassed
    exact tries_of_step (.holds hc ha h) (by simp [Accepts, hc]) (steps_holds hc ha) hpassed ih
  | fails hc ha =>
    intro passed hpassed
    refine tries_singleton (fun hmem => hpassed _ hmem .refl) (by simp [Accepts, hc]) ?_
    rw [steps_fails hc ha]
    exact .nil

end

end MarkerSweep.Pattern.Program
