import Mathlib.Data.List.Basic
import Mathlib.Tactic.Choose
import MarkerSweep.Proofs.Pattern.Ends
/-!
# What a match can see

An assertion looks at the characters right before and right after a place, and at nothing else. So
as long as a match stays before some character `c`, it makes no difference what stands after `c`,
not even whether anything does. `Expr.blindPast` says so of the whole list of ends and in their
order of preference, because a search is interested in the first of them: the ends that leave `c`
are the same for every continuation.

The induction is on the expression. For an unbounded repetition it is on the text before `c`, since
the number of rounds that `Expr.ends` allows is counted in characters and grows with what follows.
-/

set_option autoImplicit false

namespace MarkerSweep.Pattern

/-- The place with more text behind it. -/
def Place.append (p : Place) (s : List Char) : Place := ⟨p.before, p.rest ++ s⟩

/-- Those of some places that leave more than `n` characters. -/
def leaving (n : Nat) (ps : List Place) : List Place := ps.filter fun q => n < q.rest.length

theorem leaving_append (n : Nat) (ps qs : List Place) :
    leaving n (ps ++ qs) = leaving n ps ++ leaving n qs := List.filter_append ..

theorem leaving_flatMap {n : Nat} {g : Place → List Place}
    (hg : ∀ q, ∀ r ∈ g q, r.rest.length ≤ q.rest.length) (ps : List Place) :
    leaving n (ps.flatMap g) = (leaving n ps).flatMap fun q => leaving n (g q) := by
  induction ps with
  | nil => rfl
  | cons q ps ih =>
    rw [List.flatMap_cons, leaving_append, ih, leaving, leaving, leaving, List.filter_cons]
    by_cases hq : n < q.rest.length
    · simp [hq, leaving]
    · -- from a place that leaves too little no other is reached
      have hnone : (g q).filter (fun r => n < r.rest.length) = [] :=
        List.filter_eq_nil_iff.mpr fun r hr => by
          have := hg q r hr
          simp only [decide_eq_true_eq]
          omega
      simp [hq, hnone]

/-- Of what `f` finds at a place, the part before `c` does not depend on the text after `c`. -/
def BlindPast (c : Char) (f : Place → List Place) (p : Place) : Prop :=
  ∃ found : List Place, ∀ y, leaving y.length (f (p.append (c :: y))) =
    found.map (·.append (c :: y))

namespace BlindPast

variable {c : Char} {f g : Place → List Place} {p : Place}

theorem self (c : Char) (p : Place) : BlindPast c (fun q => [q]) p :=
  ⟨[p], fun y => by simp [leaving, Place.append]; omega⟩

theorem of_eq_nil (h : ∀ y, leaving y.length (f (p.append (c :: y))) = []) : BlindPast c f p :=
  ⟨[], h⟩

theorem append (hf : BlindPast c f p) (hg : BlindPast c g p) :
    BlindPast c (fun q => f q ++ g q) p := by
  obtain ⟨found, hfound⟩ := hf
  obtain ⟨more, hmore⟩ := hg
  exact ⟨found ++ more, fun y => by rw [leaving_append, hfound, hmore, List.map_append]⟩

theorem flatMap (hf : BlindPast c f p)
    (hg : ∀ q, q.append [c] ∈ f (p.append [c]) → BlindPast c g q)
    (hle : ∀ q, ∀ r ∈ g q, r.rest.length ≤ q.rest.length) :
    BlindPast c (fun q => (f q).flatMap g) p := by
  obtain ⟨found, hfound⟩ := hf
  have hmem : ∀ q ∈ found, q.append [c] ∈ f (p.append [c]) := by
    intro q hq
    have hq : q.append [c] ∈ leaving 0 (f (p.append [c])) := by
      have := hfound []
      rw [List.length_nil] at this
      rw [this]
      exact List.mem_map_of_mem hq
    exact (List.mem_filter.mp hq).1
  have hmore : ∀ q ∈ found, ∃ more : List Place, ∀ y,
      leaving y.length (g (q.append (c :: y))) = more.map (·.append (c :: y)) :=
    fun q hq => hg q (hmem q hq)
  choose! more hmore using hmore
  refine ⟨found.flatMap more, fun y => ?_⟩
  rw [leaving_flatMap hle, hfound, List.flatMap_map, List.map_flatMap]
  exact List.flatMap_congr fun q hq => hmore q hq y

theorem rounds (hf : ∀ p, BlindPast c f p) (hle : ∀ p, ∀ q ∈ f p, p.Ahead q) (n : Nat) :
    ∀ p, BlindPast c (roundsEnds f n) p := by
  induction n with
  | zero => exact self c
  | succ n ih =>
    exact fun p => (hf p).flatMap (fun q _ => ih q)
      fun q r hr => (ahead_of_mem_roundsEnds hle n hr).length_le

theorem loop {greedy : Bool} (hf : ∀ p, BlindPast c f p) (hle : ∀ p, ∀ q ∈ f p, p.Ahead q)
    (n : Nat) : ∀ p, BlindPast c (loopEnds greedy f n) p := by
  induction n with
  | zero => exact self c
  | succ n ih =>
    intro p
    have hmore : BlindPast c (fun q => (f q).flatMap (loopEnds greedy f n)) p :=
      (hf p).flatMap (fun q _ => ih q) fun q r hr => (ahead_of_mem_loopEnds hle n hr).length_le
    cases greedy with
    | true => exact hmore.append (self c p)
    | false => exact (self c p).append hmore

/-- A loop that may make as many rounds as there are characters left. -/
theorem star {greedy : Bool} (hf : ∀ p, BlindPast c f p) (hle : ∀ p, ∀ q ∈ f p, p.Ahead q)
    (hlt : ∀ p, ∀ q ∈ f p, q.rest.length < p.rest.length) :
    ∀ p, BlindPast c (fun q => loopEnds greedy f q.rest.length q) p := by
  intro p
  induction hn : p.rest.length using Nat.strongRecOn generalizing p with
  | ind n ih =>
    have hmore : BlindPast c
        (fun q => (f q).flatMap fun q => loopEnds greedy f q.rest.length q) p := by
      refine (hf p).flatMap (fun q hq => ?_)
        fun q r hr => (ahead_of_mem_loopEnds hle _ hr).length_le
      have := hlt _ _ hq
      simp only [Place.append, List.length_append] at this
      exact ih q.rest.length (by omega) q rfl
    have hunroll : (fun q => loopEnds greedy f q.rest.length q) = fun q =>
        if greedy then (f q).flatMap (fun q => loopEnds greedy f q.rest.length q) ++ [q]
        else q :: (f q).flatMap fun q => loopEnds greedy f q.rest.length q :=
      funext fun q => loopEnds_unroll hlt q
    rw [hunroll]
    cases greedy with
    | true => exact hmore.append (self c p)
    | false => exact (self c p).append hmore

end BlindPast

theorem Expr.blindPast (c : Char) : ∀ {e : Expr}, e.loopsConsume = true →
    ∀ p, BlindPast c e.ends p := by
  intro e
  induction e with
  | empty => exact fun _ => BlindPast.self c
  | set s =>
    rintro - ⟨b, _ | ⟨d, x⟩⟩
    · -- the set can only take `c` itself
      refine .of_eq_nil fun y => ?_
      by_cases hc : s.contains c = true <;> simp [Place.append, ends, hc, leaving]
    · by_cases hd : s.contains d = true
      · refine ⟨[⟨some d, x⟩], fun y => ?_⟩
        simp [Place.append, ends, hd, leaving]
        omega
      · exact .of_eq_nil fun y => by simp [Place.append, ends, hd, leaving]
  | look a =>
    rintro - ⟨b, x⟩
    -- the character after the place is the first of `x` or else `c`
    have hhead : ∀ y, (x ++ c :: y).head? = (x ++ [c]).head? := by
      intro y
      cases x <;> rfl
    have hends : ∀ y, (look a).ends ((⟨b, x⟩ : Place).append (c :: y)) =
        if a.holds b (x ++ [c]).head? then [(⟨b, x⟩ : Place).append (c :: y)] else [] := by
      intro y
      rw [← hhead y]
      rfl
    by_cases ha : a.holds b (x ++ [c]).head? = true
    · obtain ⟨found, hfound⟩ := BlindPast.self c ⟨b, x⟩
      exact ⟨found, fun y => by rw [hends, if_pos ha]; exact hfound y⟩
    · exact .of_eq_nil fun y => by rw [hends, if_neg ha]; rfl
  | group e ih => exact fun he p => by simpa only [ends] using ih he p
  | seq a b iha ihb =>
    intro he p
    obtain ⟨ha, hb⟩ := (Bool.and_eq_true _ _).mp he
    exact (iha ha p).flatMap (fun q _ => ihb hb q) fun q r hr => (b.ahead_of_mem_ends hr).length_le
  | alt a b iha ihb =>
    intro he p
    obtain ⟨ha, hb⟩ := (Bool.and_eq_true _ _).mp he
    exact (iha ha p).append (ihb hb p)
  | rep least most? greedy body ih =>
    have hahead : ∀ p, ∀ q ∈ body.ends p, p.Ahead q := fun _ _ => body.ahead_of_mem_ends
    intro he p
    cases most? with
    | some most =>
      have hbody := ih he
      exact (BlindPast.rounds hbody hahead least p).flatMap
        (fun q _ => BlindPast.loop hbody hahead (most - least) q)
        fun q r hr => (ahead_of_mem_loopEnds hahead _ hr).length_le
    | none =>
      obtain ⟨hc, hl⟩ := (Bool.and_eq_true _ _).mp he
      have hbody := ih hl
      exact (BlindPast.rounds hbody hahead least p).flatMap
        (fun q _ => BlindPast.star hbody hahead (fun _ _ => Expr.length_lt_of_mem_ends hc) q)
        fun q r hr => (ahead_of_mem_loopEnds hahead _ hr).length_le

/-- If all matches from a place stay before `c` whichever of two texts follows it, they are the same
matches. -/
theorem Expr.exists_ends_eq_map {e : Expr} (he : e.loopsConsume = true) {b : Option Char} {c : Char}
    {x y y' : List Char} (h : ∀ q ∈ e.ends ⟨b, x ++ c :: y⟩, y.length < q.rest.length)
    (h' : ∀ q ∈ e.ends ⟨b, x ++ c :: y'⟩, y'.length < q.rest.length) :
    ∃ found : List Place, e.ends ⟨b, x ++ c :: y⟩ = found.map (·.append (c :: y)) ∧
      e.ends ⟨b, x ++ c :: y'⟩ = found.map (·.append (c :: y')) := by
  obtain ⟨found, hfound⟩ := e.blindPast c he ⟨b, x⟩
  refine ⟨found, ?_, ?_⟩
  · rw [← hfound y, leaving, List.filter_eq_self.mpr (by simpa [Place.append] using h)]
    rfl
  · rw [← hfound y', leaving, List.filter_eq_self.mpr (by simpa [Place.append] using h')]
    rfl

end MarkerSweep.Pattern
