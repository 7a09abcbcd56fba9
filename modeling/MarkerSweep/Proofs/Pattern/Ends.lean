import Mathlib.Data.List.Basic
import MarkerSweep.Pattern.Expr
/-!
# Where a match can end

A regular expression is given a meaning without any program: `Expr.ends` lists the places at which a
match that starts at a given place may end, the preferred one first. A sequence is then a `flatMap`,
a choice an append, and a greedy repetition puts the places after one more round before the place
where it stands. A search has to find the head of that list, and this is what
`Proofs/Pattern/Search.lean` proves of it.

The list is right for expressions whose unbounded repetitions take a character in every round
(`Expr.loopsConsume`). With an empty round the program may leave a loop early, and which ends are
then still found depends on what it tried before; no list of ends that looks at the expression alone
says that.
-/

set_option autoImplicit false

namespace MarkerSweep.Pattern

/-- A place in a text: the character before it, if there is one, and what follows. -/
structure Place where
  before : Option Char
  rest : List Char
deriving DecidableEq

/-- The character before a place that is reached by reading some text; `b` stands
before that text. -/
def lastOr (b : Option Char) : List Char → Option Char
  | [] => b
  | c :: s => lastOr (some c) s

@[simp] theorem lastOr_nil (b : Option Char) : lastOr b [] = b := rfl

@[simp] theorem lastOr_cons (b : Option Char) (c : Char) (s : List Char) :
    lastOr b (c :: s) = lastOr (some c) s := rfl

@[simp] theorem lastOr_append : ∀ (b : Option Char) (s t : List Char),
    lastOr b (s ++ t) = lastOr (lastOr b s) t
  | _, [], _ => rfl
  | _, c :: s, t => lastOr_append (some c) s t

/-- The ends after exactly `n` rounds. -/
def roundsEnds (step : Place → List Place) : Nat → Place → List Place
  | 0, p => [p]
  | n + 1, p => (step p).flatMap (roundsEnds step n)

/-- The ends after at most `n` rounds. -/
def loopEnds (greedy : Bool) (step : Place → List Place) : Nat → Place → List Place
  | 0, p => [p]
  | n + 1, p =>
    let more := (step p).flatMap (loopEnds greedy step n)
    if greedy then more ++ [p] else p :: more

namespace Expr

/-- The places at which a match that starts at a place may end, the preferred one first. An
unbounded repetition makes at most as many rounds as there are characters left. -/
def ends : Expr → Place → List Place
  | empty, p => [p]
  | set s, p =>
    match p.rest with
    | c :: r => if s.contains c then [⟨some c, r⟩] else []
    | [] => []
  | look a, p => if a.holds p.before p.rest.head? then [p] else []
  | group e, p => e.ends p
  | seq a b, p => (a.ends p).flatMap b.ends
  | alt a b, p => a.ends p ++ b.ends p
  | rep least (some most) greedy body, p =>
    (roundsEnds body.ends least p).flatMap (loopEnds greedy body.ends (most - least))
  | rep least none greedy body, p =>
    (roundsEnds body.ends least p).flatMap fun q => loopEnds greedy body.ends q.rest.length q

/-- Every round of an unbounded repetition takes a character. -/
def loopsConsume : Expr → Bool
  | empty | set _ | look _ => true
  | group e => e.loopsConsume
  | seq a b | alt a b => a.loopsConsume && b.loopsConsume
  | rep _ (some _) _ body => body.loopsConsume
  | rep _ none _ body => body.consumes && body.loopsConsume

end Expr

/-! ## An end lies ahead of its start -/

/-- The second place is reached from the first by reading some characters. -/
def Place.Ahead (p q : Place) : Prop := ∃ m, p.rest = m ++ q.rest ∧ q.before = lastOr p.before m

theorem Place.Ahead.refl (p : Place) : p.Ahead p := ⟨[], rfl, rfl⟩

theorem Place.Ahead.trans {p q r : Place} (h : p.Ahead q) (h' : q.Ahead r) : p.Ahead r := by
  obtain ⟨m, hm, hb⟩ := h
  obtain ⟨n, hn, hb'⟩ := h'
  exact ⟨m ++ n, by rw [hm, hn, List.append_assoc], by rw [hb', hb, lastOr_append]⟩

theorem Place.Ahead.length_le {p q : Place} (h : p.Ahead q) : q.rest.length ≤ p.rest.length := by
  obtain ⟨m, hm, _⟩ := h
  rw [hm, List.length_append]
  exact Nat.le_add_left ..

theorem ahead_of_mem_roundsEnds {step : Place → List Place}
    (hs : ∀ p, ∀ q ∈ step p, p.Ahead q) :
    ∀ (n : Nat) {p q : Place}, q ∈ roundsEnds step n p → p.Ahead q
  | 0, p, q, h => by
    rw [roundsEnds, List.mem_singleton] at h
    exact h ▸ Place.Ahead.refl p
  | n + 1, p, q, h => by
    obtain ⟨r, hr, hq⟩ := List.mem_flatMap.mp h
    exact (hs p r hr).trans (ahead_of_mem_roundsEnds hs n hq)

theorem ahead_of_mem_loopEnds {g : Bool} {step : Place → List Place}
    (hs : ∀ p, ∀ q ∈ step p, p.Ahead q) :
    ∀ (n : Nat) {p q : Place}, q ∈ loopEnds g step n p → p.Ahead q
  | 0, p, q, h => by
    rw [loopEnds, List.mem_singleton] at h
    exact h ▸ Place.Ahead.refl p
  | n + 1, p, q, h => by
    have hmem : q = p ∨ q ∈ (step p).flatMap (loopEnds g step n) := by
      cases g
      · simpa [loopEnds] using h
      · simpa [loopEnds, or_comm] using h
    rcases hmem with rfl | hq
    · exact Place.Ahead.refl _
    · obtain ⟨r, hr, hq⟩ := List.mem_flatMap.mp hq
      exact (hs p r hr).trans (ahead_of_mem_loopEnds hs n hq)

theorem Expr.ahead_of_mem_ends : ∀ (e : Expr) {p q : Place}, q ∈ e.ends p → p.Ahead q := by
  intro e
  induction e with
  | empty =>
    intro p q h
    rw [ends, List.mem_singleton] at h
    exact h ▸ Place.Ahead.refl p
  | set s =>
    rintro ⟨b, _ | ⟨c, r⟩⟩ q h
    · simp [ends] at h
    · by_cases hc : s.contains c = true
      · simp only [ends, hc, if_true, List.mem_singleton] at h
        exact h ▸ ⟨[c], rfl, rfl⟩
      · simp [ends, hc] at h
  | look a =>
    intro p q h
    by_cases ha : a.holds p.before p.rest.head? = true
    · simp only [ends, ha, if_true, List.mem_singleton] at h
      exact h ▸ Place.Ahead.refl p
    · simp [ends, ha] at h
  | group e ih => exact fun h => ih (by simpa [ends] using h)
  | seq a b iha ihb =>
    intro p q h
    obtain ⟨r, hr, hq⟩ := List.mem_flatMap.mp h
    exact (iha hr).trans (ihb hq)
  | alt a b iha ihb =>
    intro p q h
    rcases List.mem_append.mp h with h | h
    · exact iha h
    · exact ihb h
  | rep least most? greedy body ih =>
    intro p q h
    cases most? with
    | some most =>
      obtain ⟨r, hr, hq⟩ := List.mem_flatMap.mp h
      exact (ahead_of_mem_roundsEnds (fun _ _ => ih) _ hr).trans
        (ahead_of_mem_loopEnds (fun _ _ => ih) _ hq)
    | none =>
      obtain ⟨r, hr, hq⟩ := List.mem_flatMap.mp h
      exact (ahead_of_mem_roundsEnds (fun _ _ => ih) _ hr).trans
        (ahead_of_mem_loopEnds (fun _ _ => ih) _ hq)

/-! ## Expressions that consume -/

theorem length_lt_of_mem_roundsEnds {step : Place → List Place}
    (hs : ∀ p, ∀ q ∈ step p, q.rest.length < p.rest.length) :
    ∀ (n : Nat) {p q : Place}, 0 < n → q ∈ roundsEnds step n p → q.rest.length < p.rest.length
  | 1, p, q, _, h => by
    obtain ⟨r, hr, hq⟩ := List.mem_flatMap.mp h
    rw [roundsEnds, List.mem_singleton] at hq
    exact hq ▸ hs p r hr
  | n + 2, p, q, _, h => by
    obtain ⟨r, hr, hq⟩ := List.mem_flatMap.mp h
    exact Nat.lt_trans (length_lt_of_mem_roundsEnds hs (n + 1) (Nat.succ_pos n) hq) (hs p r hr)

theorem Expr.length_lt_of_mem_ends : ∀ {e : Expr}, e.consumes = true → ∀ {p q : Place},
    q ∈ e.ends p → q.rest.length < p.rest.length := by
  intro e
  induction e with
  | empty | look _ => intro h; simp [consumes] at h
  | set s =>
    rintro - ⟨b, _ | ⟨c, r⟩⟩ q h
    · simp [ends] at h
    · by_cases hc : s.contains c = true
      · simp only [ends, hc, if_true, List.mem_singleton] at h
        simp [h]
      · simp [ends, hc] at h
  | group e ih => exact fun hc _ _ h => ih hc (by simpa [ends] using h)
  | seq a b iha ihb =>
    intro hc p q h
    obtain ⟨r, hr, hq⟩ := List.mem_flatMap.mp h
    have hpr := (a.ahead_of_mem_ends hr).length_le
    have hrq := (b.ahead_of_mem_ends hq).length_le
    simp only [consumes, Bool.or_eq_true] at hc
    rcases hc with hc | hc
    · exact Nat.lt_of_le_of_lt hrq (iha hc hr)
    · exact Nat.lt_of_lt_of_le (ihb hc hq) hpr
  | alt a b iha ihb =>
    intro hc p q h
    simp only [consumes, Bool.and_eq_true] at hc
    rcases List.mem_append.mp h with h | h
    · exact iha hc.1 h
    · exact ihb hc.2 h
  | rep least most? greedy body ih =>
    intro hc p q h
    simp only [consumes, Bool.and_eq_true, decide_eq_true_eq] at hc
    have hahead : ∀ p, ∀ q ∈ body.ends p, p.Ahead q := fun _ _ => body.ahead_of_mem_ends
    cases most? with
    | some most =>
      obtain ⟨r, hr, hq⟩ := List.mem_flatMap.mp h
      exact Nat.lt_of_le_of_lt (ahead_of_mem_loopEnds hahead _ hq).length_le
        (length_lt_of_mem_roundsEnds (fun _ _ => ih hc.2) _ hc.1 hr)
    | none =>
      obtain ⟨r, hr, hq⟩ := List.mem_flatMap.mp h
      exact Nat.lt_of_le_of_lt (ahead_of_mem_loopEnds hahead _ hq).length_le
        (length_lt_of_mem_roundsEnds (fun _ _ => ih hc.2) _ hc.1 hr)

/-- A loop that takes a character in every round needs no more rounds than there are characters. -/
theorem loopEnds_of_length_le {g : Bool} {step : Place → List Place}
    (hs : ∀ p, ∀ q ∈ step p, q.rest.length < p.rest.length) :
    ∀ {n m : Nat} {p : Place}, p.rest.length ≤ n → p.rest.length ≤ m →
      loopEnds g step n p = loopEnds g step m p
  | 0, 0, _, _, _ => rfl
  | 0, m + 1, p, hn, _ => by
    -- without a character left there is no round to make
    have hnil : step p = [] := List.eq_nil_iff_forall_not_mem.mpr fun q hq =>
      absurd (hs p q hq) (by omega)
    cases g <;> simp [loopEnds, hnil]
  | n + 1, 0, p, _, hm => by
    have hnil : step p = [] := List.eq_nil_iff_forall_not_mem.mpr fun q hq =>
      absurd (hs p q hq) (by omega)
    cases g <;> simp [loopEnds, hnil]
  | n + 1, m + 1, p, hn, hm => by
    have hmore : (step p).flatMap (loopEnds g step n) = (step p).flatMap (loopEnds g step m) := by
      refine List.flatMap_congr fun q hq => ?_
      have := hs p q hq
      exact loopEnds_of_length_le hs (by omega) (by omega)
    simp only [loopEnds, hmore]

/-- One round of a loop, or none. -/
theorem loopEnds_unroll {g : Bool} {step : Place → List Place}
    (hs : ∀ p, ∀ q ∈ step p, q.rest.length < p.rest.length) (p : Place) :
    loopEnds g step p.rest.length p =
      if g then (step p).flatMap (fun q => loopEnds g step q.rest.length q) ++ [p]
      else p :: (step p).flatMap fun q => loopEnds g step q.rest.length q := by
  rw [loopEnds_of_length_le hs (Nat.le_refl _) (Nat.le_succ _), loopEnds]
  have hmore : (step p).flatMap (loopEnds g step p.rest.length) =
      (step p).flatMap fun q => loopEnds g step q.rest.length q :=
    List.flatMap_congr fun q hq =>
      loopEnds_of_length_le hs (Nat.le_of_lt (hs p q hq)) (Nat.le_refl _)
  simp only [hmore]

end MarkerSweep.Pattern
