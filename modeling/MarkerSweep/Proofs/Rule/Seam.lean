import MarkerSweep.Proofs.Pattern.Context
import MarkerSweep.Proofs.Rule.Sweep
/-!
# Applying a rule to two texts put together

If no match gets past the last character of the first text and none starts right at the second one,
the texts are cut where they would be cut by themselves (`Sweep.join`). So a rule makes of the two
what it makes of each, and finds as many matches as it finds in them together
(`CompiledRule.splits_of_seam`).

That a match does not get past a character is asked for with either continuation of the text,
because a match that does not reach the end of one text may run on in the other. Once it is known of
both, the matches are the same ones by `Expr.exists_ends_eq_map`.
-/

set_option autoImplicit false

namespace MarkerSweep

namespace Pattern

variable {e : Expr} {b : Option Char} {c : Char} {g r x x₁ x₂ y y' : List Char}

/-- A stretch at the end of a text that ends with `c`. -/
theorem exists_concat_of_append_eq (h : g ++ r = x ++ [c]) (hne : r ≠ []) :
    ∃ r', r = r' ++ [c] ∧ x = g ++ r' := by
  obtain ⟨r', d, rfl⟩ := (List.eq_nil_or_concat r).resolve_left hne
  rw [List.concat_eq_append, ← List.append_assoc] at h
  obtain ⟨rfl, hd⟩ := List.append_inj' h rfl
  exact ⟨r', by rw [List.concat_eq_append, hd], rfl⟩

/-! ## Stretches without a match -/

theorem Quiet.append (h : Quiet e b x (g ++ r)) (h' : Quiet e (lastOr b x) g r) :
    Quiet e b (x ++ g) r := by
  intro g₁ g₂ hsplit hne
  rcases List.append_eq_append_iff.mp hsplit with ⟨u, rfl, rfl⟩ | ⟨u, rfl, rfl⟩
  · rw [lastOr_append]
    exact h' u g₂ rfl hne
  · cases u with
    | nil => simpa using h' [] g rfl hne
    | cons d u =>
      rw [List.append_assoc]
      exact h g₁ (d :: u) rfl (List.cons_ne_nil d u)

/-- What stands before a text matters only for a match that starts with the text. -/
theorem Quiet.of_before {b' : Option Char} (h : Quiet e b g r) (hstart : e.ends ⟨b', g ++ r⟩ = []) :
    Quiet e b' g r := by
  intro g₁ g₂ hsplit hne
  cases g₁ with
  | nil =>
    rw [List.nil_append] at hsplit
    rw [← hsplit]
    exact hstart
  | cons d g₁ => exact h (d :: g₁) g₂ hsplit hne

/-! ## Fences -/

/-- No match that starts in `x`, or between `x` and `c`, gets past `c`; before `x` stands `b`, and
after `c` stands `y`. -/
def Fenced (e : Expr) (b : Option Char) (x : List Char) (c : Char) (y : List Char) : Prop :=
  ∀ x₁ x₂, x = x₁ ++ x₂ → ∀ q ∈ e.ends ⟨lastOr b x₁, x₂ ++ c :: y⟩, y.length < q.rest.length

namespace Fenced

theorem drop (h : Fenced e b (g ++ x) c y) : Fenced e (lastOr b g) x c y := by
  intro x₁ x₂ hx q hq
  refine h (g ++ x₁) x₂ (by rw [hx, List.append_assoc]) q ?_
  rw [lastOr_append]
  exact hq

theorem ends_eq_nil (he : e.loopsConsume = true) (h : Fenced e b x c y) (h' : Fenced e b x c y')
    (hx : x = x₁ ++ x₂) (hnil : e.ends ⟨lastOr b x₁, x₂ ++ c :: y⟩ = []) :
    e.ends ⟨lastOr b x₁, x₂ ++ c :: y'⟩ = [] := by
  obtain ⟨found, hfound, hfound'⟩ := Expr.exists_ends_eq_map he (h x₁ x₂ hx) (h' x₁ x₂ hx)
  rw [hfound, List.map_eq_nil_iff] at hnil
  rw [hfound', hnil, List.map_nil]

theorem head?_ends {b' : Option Char} (he : e.loopsConsume = true) (h : Fenced e b x c y)
    (h' : Fenced e b x c y') (hx : x = x₁ ++ x₂)
    (hhead : (e.ends ⟨lastOr b x₁, x₂ ++ c :: y⟩).head? = some ⟨b', r ++ c :: y⟩) :
    (e.ends ⟨lastOr b x₁, x₂ ++ c :: y'⟩).head? = some ⟨b', r ++ c :: y'⟩ := by
  obtain ⟨found, hfound, hfound'⟩ := Expr.exists_ends_eq_map he (h x₁ x₂ hx) (h' x₁ x₂ hx)
  rw [hfound, List.head?_map, Option.map_eq_some_iff] at hhead
  obtain ⟨p, hp, hq⟩ := hhead
  rw [Place.append, Place.mk.injEq] at hq
  obtain ⟨rfl, hr⟩ := hq
  rw [hfound', List.head?_map, hp, Option.map_some, Place.append, List.append_cancel_right hr]

theorem quiet (he : e.loopsConsume = true) (h : Fenced e b (g ++ r) c y)
    (h' : Fenced e b (g ++ r) c y') (hq : Quiet e b g (r ++ c :: y)) :
    Quiet e b g (r ++ c :: y') := by
  intro g₁ g₂ hsplit hne
  have hx : g ++ r = g₁ ++ (g₂ ++ r) := by rw [hsplit, List.append_assoc]
  have hnil := hq g₁ g₂ hsplit hne
  rw [← List.append_assoc] at hnil ⊢
  exact h.ends_eq_nil he h' hx hnil

/-- No match in the text up to `c` comes of what stands after `c`. -/
theorem quiet_concat (he : e.loopsConsume = true) (h : Fenced e b x c [])
    (h' : Fenced e b x c y) (hq : Quiet e b (x ++ [c]) []) : Quiet e b (x ++ [c]) y := by
  intro g₁ g₂ hsplit hne
  have hnil := hq g₁ g₂ hsplit hne
  obtain ⟨x₂, rfl, hx⟩ := exists_concat_of_append_eq hsplit.symm hne
  rw [List.append_nil] at hnil
  rw [List.append_assoc, List.singleton_append]
  exact h.ends_eq_nil he h' hx hnil

end Fenced

/-! ## Cuts of two texts -/

namespace Sweep

variable {s text last last' : List Char} {cuts cuts' : List Cut}

/-- A text at whose start there is no match is cut in the same way whatever stands before it. -/
theorem of_before {b' : Option Char} (h : Sweep e b s cuts last) (hb : e.ends ⟨b, s⟩ = [])
    (hb' : e.ends ⟨b', s⟩ = []) : Sweep e b' s cuts last := by
  cases h with
  | stop hq hend =>
    refine .stop (hq.of_before (by rw [List.append_nil]; exact hb')) ?_
    cases s with
    | nil => exact hb'
    | cons d s => exact hend
  | @hit _ g m r _ _ hq hh hs =>
    cases g with
    | nil =>
      rw [List.nil_append] at hb
      rw [lastOr_nil, hb] at hh
      cases hh
    | cons d g => exact .hit (hq.of_before hb') hh hs

/-- A stretch in which no match starts is kept as it is. -/
theorem prepend (hq : Quiet e b x s) (h : Sweep e (lastOr b x) s cuts last) :
    ∃ joined rest, Sweep e b (x ++ s) joined rest ∧ joined.length = cuts.length ∧
      ∀ replacement, weave replacement joined rest = x ++ weave replacement cuts last := by
  cases h with
  | stop hq' hend =>
    refine ⟨[], x ++ s, .stop (.append (by rwa [List.append_nil]) hq') ?_, rfl, fun _ => rfl⟩
    rw [lastOr_append]
    exact hend
  | @hit _ g m r _ cuts hq' hh hs =>
    -- the stretch before the first match gets longer
    refine ⟨⟨x ++ g, m⟩ :: cuts, last, ?_, rfl, fun _ => by simp [weave]⟩
    rw [← List.append_assoc]
    refine .hit (hq.append hq') ?_ ?_
    · rw [List.append_assoc, lastOr_append, lastOr_append]
      exact hh
    · rw [List.append_assoc, lastOr_append]
      exact hs

theorem join (he : e.loopsConsume = true) (hc : e.consumes = true) (h : Sweep e b text cuts last)
    (h' : Sweep e (some c) s cuts' last') :
    ∀ x, text = x ++ [c] → Fenced e b x c [] → Fenced e b x c s →
      ∃ joined rest, Sweep e b (x ++ c :: s) joined rest ∧
        joined.length = cuts.length + cuts'.length ∧
        ∀ replacement, weave replacement joined rest =
          weave replacement cuts last ++ weave replacement cuts' last' := by
  induction h with
  | @stop b text hq _ =>
    rintro x rfl hf hf'
    have hresumed : Sweep e (lastOr b (x ++ [c])) s cuts' last' := by
      rw [lastOr_append]
      exact h'
    obtain ⟨joined, rest, hsweep, hlen, hweave⟩ := prepend (hf.quiet_concat he hf' hq) hresumed
    rw [List.append_assoc, List.singleton_append] at hsweep
    exact ⟨joined, rest, hsweep, by rw [hlen, List.length_nil, Nat.zero_add], hweave⟩
  | @hit b g m r last cuts hq hh _ ih =>
    intro x htext hf hf'
    have hmem := List.mem_of_mem_head? hh
    -- the match starts in `x`, so it ends there
    have hne : m ++ r ≠ [] := by
      have := Expr.length_lt_of_mem_ends hc hmem
      exact List.ne_nil_of_length_pos (Nat.zero_lt_of_lt this)
    obtain ⟨w, hw, rfl⟩ := exists_concat_of_append_eq htext hne
    have hr : r ≠ [] := by
      rw [hw] at hmem
      exact List.ne_nil_of_length_pos (hf g w rfl _ hmem)
    obtain ⟨x, rfl, rfl⟩ := exists_concat_of_append_eq hw hr
    have hdrop : ∀ {y}, Fenced e b (g ++ (m ++ x)) c y → Fenced e (lastOr b (g ++ m)) x c y := by
      intro y h
      rw [← List.append_assoc] at h
      exact h.drop
    obtain ⟨joined, rest, hsweep, hlen, hweave⟩ := ih x rfl (hdrop hf) (hdrop hf')
    refine ⟨⟨g, m⟩ :: joined, rest, ?_, ?_, fun replacement => ?_⟩
    · rw [← List.append_assoc m] at hq hh
      rw [List.append_assoc, List.append_assoc]
      refine .hit ?_ ?_ hsweep
      · rw [← List.append_assoc]
        exact hf.quiet he hf' hq
      · rw [← List.append_assoc]
        exact hf.head?_ends he hf' rfl hh
    · rw [List.length_cons, List.length_cons, hlen]
      omega
    · rw [weave, weave, hweave, List.append_assoc _ (weave replacement cuts last)]

end Sweep

/-- Where `c` and `s` meet, two texts `x ++ [c]` and `s` are not joined by any match. -/
structure Seam (e : Expr) (x : List Char) (c : Char) (s : List Char) : Prop where
  alone : Fenced e none x c []
  together : Fenced e none x c s
  fresh : e.ends ⟨none, s⟩ = []
  resumed : e.ends ⟨some c, s⟩ = []

end Pattern

open Pattern

/-- The rule makes of two texts put together what it makes of each and counts the matches of both. -/
def CompiledRule.Splits (rule : CompiledRule) (left right : String) : Prop :=
  rule.applyCounted (left ++ right) =
    ((rule.applyCounted left).1 ++ (rule.applyCounted right).1,
      (rule.applyCounted left).2 + (rule.applyCounted right).2)

theorem CompiledRule.splits_of_seam {rule : CompiledRule} {e : Expr}
    (hr : rule.regex.program = Program.ofExpr e) (he : e.loopsConsume = true)
    (hc : e.consumes = true) {left right : String} {x : List Char} {c : Char}
    (hleft : left.toList = x ++ [c]) (hseam : Seam e x c right.toList) :
    rule.Splits left right := by
  obtain ⟨cuts, last, hsweep, happly⟩ := applyCounted_sweep hr he hc left
  obtain ⟨cuts', last', hsweep', happly'⟩ := applyCounted_sweep hr he hc right
  obtain ⟨all, rest, hall, happlyAll⟩ := applyCounted_sweep hr he hc (left ++ right)
  have hresumed := hsweep'.of_before hseam.fresh hseam.resumed
  obtain ⟨joined, rest', hjoined, hlen, hweave⟩ :=
    hsweep.join he hc hresumed x hleft hseam.alone hseam.together
  rw [String.toList_append, hleft, List.append_assoc, List.singleton_append] at hall
  obtain ⟨rfl, rfl⟩ := hall.unique hjoined
  rw [Splits, happly, happly', happlyAll, hlen, hweave, String.ofList_append]

end MarkerSweep
