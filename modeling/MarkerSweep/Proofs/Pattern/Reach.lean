import MarkerSweep.Proofs.Pattern.Trial
/-!
# A program accepts where its expression ends

Which end a search prefers depends on the program, but where a search can end at all does not. For
every expression, whatever its loops are like, the program accepts exactly at the ends of the
expression (`can_ofExpr_iff`). So a search fails only where nothing matches, and what it prefers is a
match (`fails_ofExpr_iff`, `Prefers.mem_ends`).

That the program reaches an end is shown along the expression. That it accepts nowhere else is shown
with the number of steps that are left: a loop may be entered again and again, but each time fewer
steps are left until the program accepts. An expression makes no more rounds than there are
characters; rounds in which nothing is read can be left out (`mem_loopEnds_iff`).
-/

set_option autoImplicit false

namespace MarkerSweep.Pattern

/-! ## Rounds of a loop -/

/-- Every round leads ahead. -/
def Advances (step : Place → List Place) : Prop := ∀ q, ∀ r ∈ step q, q.Ahead r

theorem Place.Ahead.eq_or_lt {q r : Place} (h : q.Ahead r) :
    r = q ∨ r.rest.length < q.rest.length := by
  obtain ⟨b, s⟩ := q
  obtain ⟨b', s'⟩ := r
  obtain ⟨m, rfl, rfl⟩ : ∃ m, s = m ++ s' ∧ b' = lastOr b m := h
  cases m with
  | nil => exact .inl rfl
  | cons c m =>
    right
    simp only [List.length_append, List.length_cons]
    omega

theorem mem_loopEnds_succ {g : Bool} {step : Place → List Place} {n : Nat} {q r : Place} :
    r ∈ loopEnds g step (n + 1) q ↔ r = q ∨ ∃ s ∈ step q, r ∈ loopEnds g step n s := by
  cases g
  · simp [loopEnds]
  · simp [loopEnds, or_comm]

theorem self_mem_loopEnds {g : Bool} {step : Place → List Place} (n : Nat) (q : Place) :
    q ∈ loopEnds g step n q := by
  cases n with
  | zero => simp [loopEnds]
  | succ n => exact mem_loopEnds_succ.mpr (.inl rfl)

/-- The ends of a loop are the places after any number of rounds. -/
theorem mem_loopEnds_iff {g : Bool} {step : Place → List Place} (hs : Advances step)
    {q r : Place} : r ∈ loopEnds g step q.rest.length q ↔
      Relation.ReflTransGen (fun q r => r ∈ step q) q r := by
  constructor
  · generalize q.rest.length = n
    induction n generalizing q with
    | zero =>
      intro h
      rw [loopEnds, List.mem_singleton] at h
      exact h ▸ .refl
    | succ n ih =>
      intro h
      rcases mem_loopEnds_succ.mp h with rfl | ⟨s, hqs, hsr⟩
      · exact .refl
      · exact .head hqs (ih hsr)
  · intro h
    suffices hle : ∀ n, q.rest.length ≤ n → r ∈ loopEnds g step n q from hle _ (Nat.le_refl _)
    induction h using Relation.ReflTransGen.head_induction_on with
    | refl => exact fun n _ => self_mem_loopEnds n r
    | @head q s hqs _ ih =>
      intro n hn
      rcases (hs q s hqs).eq_or_lt with rfl | hlt
      · -- a round in which nothing is read
        exact ih n hn
      · cases n with
        | zero => omega
        | succ n => exact mem_loopEnds_succ.mpr (.inr ⟨s, hqs, ih n (by omega)⟩)

theorem Expr.loops_of_forall {P : (Place → List Place) → Prop} (h : ∀ e : Expr, P e.ends) :
    ∀ e : Expr, e.Loops P := by
  intro e
  induction e with
  | empty | set _ | look _ => trivial
  | group e ih => exact ih
  | seq a b iha ihb | alt a b iha ihb => exact ⟨iha, ihb⟩
  | rep least most? greedy body ih =>
    cases most? with
    | some most => exact ih
    | none => exact ⟨h body, ih⟩

namespace Program

variable {p : Program} {x y z : Nat × Place} {passed xs : List (Nat × Place)} {q r : Place}
  {step step' : Place → List Place} {base mid exit n : Nat}

/-! ## Where a program can accept -/

/-- The program accepts at a place, in a number of steps. -/
inductive Can (p : Program) : Nat → Nat × Place → Place → Prop
  | accept {x : Nat × Place} : p.Accepts x → Can p 0 x x.2
  | step {n : Nat} {x y : Nat × Place} {r : Place} : y ∈ p.steps x → Can p n y r →
      Can p (n + 1) x r

theorem exists_can_of_leads (h : p.Leads passed x z) (ha : p.Accepts z) : ∃ n, p.Can n x z.2 := by
  induction h using Relation.ReflTransGen.head_induction_on with
  | refl => exact ⟨0, .accept ha⟩
  | head hxy _ ih =>
    obtain ⟨n, hn⟩ := ih
    exact ⟨n + 1, .step hxy.1 hn⟩

theorem Can.exists_leads (h : p.Can n x r) : ∃ z, p.Leads [] x z ∧ p.Accepts z ∧ z.2 = r := by
  induction h with
  | accept ha => exact ⟨_, .refl, ha, rfl⟩
  | step hy _ ih =>
    obtain ⟨z, hz, ha, hr⟩ := ih
    exact ⟨z, .head ⟨hy, List.not_mem_nil⟩ hz, ha, hr⟩

/-- The code between two addresses leads exactly to the places that `step` lists. -/
structure Links (p : Program) (base exit : Nat) (step : Place → List Place) : Prop where
  forth : ∀ {q s r : Place}, s ∈ step q → (∃ n, p.Can n (exit, s) r) → ∃ n, p.Can n (base, q) r
  /-- Whatever is accepted is accepted behind the exit, with no more steps. -/
  back : ∀ {n : Nat} {q r : Place}, p.Can n (base, q) r →
    ∃ s ∈ step q, ∃ m ≤ n, p.Can m (exit, s) r

/-- One instruction that leads on to another. -/
theorem links_of_steps {pc : Nat} (ha : p.code[pc]? ≠ some .accept)
    (h : ∀ q, p.steps (pc, q) = (step q).map fun r => (exit, r)) : p.Links pc exit step where
  forth := by
    rintro q s r hs ⟨n, hn⟩
    exact ⟨n + 1, .step (by rw [h]; exact List.mem_map_of_mem hs) hn⟩
  back := by
    intro n q r hcan
    cases hcan with
    | accept hacc => exact absurd hacc ha
    | @step m _ y _ hy hm =>
      rw [h] at hy
      obtain ⟨s, hs, rfl⟩ := List.mem_map.mp hy
      exact ⟨s, hs, m, Nat.le_succ m, hm⟩

theorem links_split {pc first second : Nat} (hc : p.code[pc]? = some (.split first second))
    (h : p.Links first exit step) (h' : p.Links second exit step') :
    p.Links pc exit fun q => step q ++ step' q where
  forth := by
    intro q s r hs hcan
    have hsteps := steps_split (q := q) hc
    rcases List.mem_append.mp hs with hs | hs
    · obtain ⟨n, hn⟩ := h.forth hs hcan
      exact ⟨n + 1, .step (by simp [hsteps]) hn⟩
    · obtain ⟨n, hn⟩ := h'.forth hs hcan
      exact ⟨n + 1, .step (by simp [hsteps]) hn⟩
  back := by
    intro n q r hcan
    cases hcan with
    | accept hacc => simp [Accepts, hc] at hacc
    | step hy hm =>
      simp only [steps_split hc, List.mem_cons, List.not_mem_nil, or_false] at hy
      rcases hy with rfl | rfl
      · obtain ⟨s, hs, m, hle, hm⟩ := h.back hm
        exact ⟨s, List.mem_append_left _ hs, m, by omega, hm⟩
      · obtain ⟨s, hs, m, hle, hm⟩ := h'.back hm
        exact ⟨s, List.mem_append_right _ hs, m, by omega, hm⟩

/-- The followers of a fork. -/
theorem mem_steps_fork {g : Bool} {pc body : Nat} (hc : p.code[pc]? = some (fork g body exit)) :
    y ∈ p.steps (pc, q) ↔ y = (body, q) ∨ y = (exit, q) := by
  cases g
  · simp [steps_split hc, or_comm]
  · simp [steps_split hc]

theorem links_loop {g : Bool} {pc body : Nat} (hs : Advances step)
    (hc : p.code[pc]? = some (fork g body exit)) (hb : p.Links body pc step) :
    p.Links pc exit fun q => loopEnds g step q.rest.length q where
  forth := by
    intro q s r hqs hcan
    have hrounds := (mem_loopEnds_iff hs).mp hqs
    induction hrounds using Relation.ReflTransGen.head_induction_on with
    | refl =>
      obtain ⟨n, hn⟩ := hcan
      exact ⟨n + 1, .step ((mem_steps_fork hc).mpr (.inr rfl)) hn⟩
    | head hround hrest ih =>
      obtain ⟨n, hn⟩ := hb.forth hround (ih ((mem_loopEnds_iff hs).mpr hrest))
      exact ⟨n + 1, .step ((mem_steps_fork hc).mpr (.inl rfl)) hn⟩
  back := by
    intro n
    simp only [mem_loopEnds_iff hs]
    induction n using Nat.strongRecOn with
    | ind n ih =>
      intro q r hcan
      cases hcan with
      | accept hacc => cases g <;> simp [Accepts, hc, fork] at hacc
      | @step n _ y _ hy hm =>
        rcases (mem_steps_fork hc).mp hy with rfl | rfl
        · -- after the round fewer steps are left
          obtain ⟨s, hqs, m, hle, hm⟩ := hb.back hm
          obtain ⟨s', hss', m', hle', hm'⟩ := ih m (by omega) hm
          exact ⟨s', .head hqs hss', m', by omega, hm'⟩
        · exact ⟨q, .refl, n, Nat.le_succ n, hm⟩

/-- What is linked depends on the places that are listed only, not on their order. -/
theorem Links.congr (h : p.Links base exit step) (hmem : ∀ q s, s ∈ step q ↔ s ∈ step' q) :
    p.Links base exit step' where
  forth hs := h.forth ((hmem _ _).mpr hs)
  back hcan := by
    obtain ⟨s, hs, h⟩ := h.back hcan
    exact ⟨s, (hmem _ _).mp hs, h⟩

theorem links_composes (p : Program) : p.Composes p.Links Advances where
  nothing base :=
    { forth := fun hs hcan => List.mem_singleton.mp hs ▸ hcan
      back := fun hcan => ⟨_, List.mem_singleton_self _, _, Nat.le_refl _, hcan⟩ }
  trans h h' :=
    { forth := fun hs hcan => by
        obtain ⟨t, ht, hs⟩ := List.mem_flatMap.mp hs
        exact h.forth ht (h'.forth hs hcan)
      back := fun hcan => by
        obtain ⟨t, ht, m, hle, hm⟩ := h.back hcan
        obtain ⟨s, hs, m', hle', hm'⟩ := h'.back hm
        exact ⟨s, List.mem_flatMap.mpr ⟨t, ht, hs⟩, m', Nat.le_trans hle' hle, hm'⟩ }
  set := by
    intro pc cs hc
    refine links_of_steps (by simp [hc]) ?_
    rintro ⟨b, _ | ⟨c, r⟩⟩
    · simp [steps, hc, Expr.ends]
    · by_cases hs : cs.contains c = true
      · simp [steps_consume hc hs, Expr.ends, hs]
      · simp [steps, hc, Expr.ends, hs]
  look := by
    intro pc a hc
    refine links_of_steps (by simp [hc]) fun q => ?_
    by_cases ha : a.holds q.before q.rest.head? = true
    · simp [steps_holds hc ha, Expr.ends, ha]
    · simp [steps_fails hc (by simpa using ha), Expr.ends, ha]
  jump hc := links_of_steps (by simp [hc]) fun q => by simp [steps_jump hc]
  split := links_split
  loop := links_loop
  unroll := by
    intro g base exit step hs h
    refine h.congr fun q s => ?_
    rw [mem_loopEnds_iff hs, Relation.ReflTransGen.cases_head_iff]
    cases g
    · simp [mem_loopEnds_iff hs, eq_comm]
    · simp [mem_loopEnds_iff hs, eq_comm, or_comm]

/-! ## Programs of expressions -/

variable {e : Expr}

/-- The program of an expression can accept exactly at the ends of the expression. -/
theorem can_ofExpr_iff : (∃ n, (ofExpr e).Can n (0, q) r) ↔ r ∈ e.ends q := by
  have hcode := (links_composes (.ofExpr e)).code e
    (Expr.loops_of_forall (fun e _ _ => e.ahead_of_mem_ends) e) 0 e.placed_ofExpr.left
  constructor
  · rintro ⟨n, hn⟩
    obtain ⟨s, hs, m, -, hm⟩ := hcode.back hn
    cases hm with
    | accept => exact hs
    | step hy =>
      rw [steps, e.getElem?_accept] at hy
      cases hy
  · exact fun hr => hcode.forth hr ⟨0, .accept e.getElem?_accept⟩

/-- What the program of an expression prefers is an end of the expression. -/
theorem Prefers.mem_ends (h : (ofExpr e).Prefers q r) : r ∈ e.ends q := by
  obtain ⟨x, hx, -, z, hz, ha, rfl⟩ := Tries.leads h
  rw [List.mem_singleton.mp hx] at hz
  exact can_ofExpr_iff.mp (exists_can_of_leads hz ha)

theorem fails_ofExpr_iff : (ofExpr e).Fails q ↔ e.ends q = [] := by
  constructor
  · intro h
    refine List.eq_nil_iff_forall_not_mem.mpr fun r hr => ?_
    obtain ⟨n, hn⟩ := can_ofExpr_iff.mpr hr
    obtain ⟨z, hz, ha, -⟩ := hn.exists_leads
    exact (h.stuck _ List.mem_cons_self).elim List.not_mem_nil fun hstuck => hstuck z hz ha
  · intro h
    refine ((ofExpr e).prefers_or_fails q).resolve_left ?_
    rintro ⟨r, hr⟩
    have hmem := hr.mem_ends
    rw [h] at hmem
    exact List.not_mem_nil hmem

end Program

end MarkerSweep.Pattern
