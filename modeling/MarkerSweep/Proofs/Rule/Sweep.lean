import MarkerSweep.Proofs.Pattern.Segment
import MarkerSweep.Proofs.Rule.Successive
/-!
# Applying a rule cuts a text

For a pattern whose matches are never empty and whose loops take a character in every round the
successive matches can be said without a program: a stretch without a match is one where no match
starts, and a match is the first of the ends of the expression. `Sweep` says it in this way, so the
properties of the built-in rules are proved from `Sweep` by induction and never look at a search.
-/

set_option autoImplicit false

namespace MarkerSweep

namespace Pattern

/-- No match starts within `g`, which stands between `b` and `r`. -/
def Quiet (e : Expr) (b : Option Char) (g r : List Char) : Prop :=
  ∀ g₁ g₂, g = g₁ ++ g₂ → g₂ ≠ [] → e.ends ⟨lastOr b g₁, g₂ ++ r⟩ = []

/-- `Sweep e b s cuts last`: the successive matches in `s`, which stands after `b`, cut it into
`cuts` and leave `last` after the last of them. -/
inductive Sweep (e : Expr) : Option Char → List Char → List Cut → List Char → Prop
  | stop {b : Option Char} {s : List Char} : Quiet e b s [] → e.ends ⟨lastOr b s, []⟩ = [] →
      Sweep e b s [] s
  | hit {b : Option Char} {g m r last : List Char} {cuts : List Cut} : Quiet e b g (m ++ r) →
      (e.ends ⟨lastOr b g, m ++ r⟩).head? = some ⟨lastOr b (g ++ m), r⟩ →
      Sweep e (lastOr b (g ++ m)) r cuts last → Sweep e b (g ++ (m ++ r)) (⟨g, m⟩ :: cuts) last

/-- A text that is one match as a whole. -/
theorem Sweep.single {e : Expr} {b : Option Char} {m : List Char}
    (hhit : (e.ends ⟨b, m⟩).head? = some ⟨lastOr b m, []⟩) (hend : e.ends ⟨lastOr b m, []⟩ = []) :
    Sweep e b m [⟨[], m⟩] [] := by
  have hquiet : ∀ b r, Quiet e b [] r := fun b r g₁ g₂ hg hne =>
    absurd (List.append_eq_nil_iff.mp hg.symm).2 hne
  have h : Sweep e b ([] ++ (m ++ [])) [⟨[], m⟩] [] :=
    .hit (hquiet _ _) (by simpa using hhit) (.stop (hquiet _ _) hend)
  simpa using h

theorem Sweep.eq_joined {e : Expr} {b : Option Char} {s last : List Char} {cuts : List Cut}
    (h : Sweep e b s cuts last) : s = joined cuts last := by
  induction h with
  | stop => rfl
  | hit _ _ _ ih => rw [joined, ← ih]

theorem takes_of_hit {e : Expr} {b : Option Char} {g m r : List Char}
    (h : (e.ends ⟨lastOr b g, m ++ r⟩).head? = some ⟨lastOr b (g ++ m), r⟩) :
    e.Takes (lastOr b g) m r := by
  rw [lastOr_append] at h
  exact List.mem_of_head? h

theorem Sweep.eq_of_nil {e : Expr} {b : Option Char} {s last : List Char}
    (h : Sweep e b s [] last) : last = s := by
  cases h
  rfl

theorem Sweep.quiet_of_nil {e : Expr} {b : Option Char} {s last : List Char}
    (h : Sweep e b s [] last) : Quiet e b s [] := by
  cases h
  assumption

/-- Every match that is longer than its replacement makes the text shorter. -/
theorem Sweep.length_weave {replacement : List Char} {e : Expr} {b : Option Char}
    {s last : List Char} {cuts : List Cut} (h : Sweep e b s cuts last)
    (hlong : ∀ b m r, e.Takes b m r → replacement.length < m.length) :
    (weave replacement cuts last).length + cuts.length ≤ s.length := by
  induction h with
  | stop => exact Nat.le_refl _
  | hit _ hh _ ih =>
    have := hlong _ _ _ (takes_of_hit hh)
    simp only [weave, List.length_append, List.length_cons]
    omega

/-- What is put in the place of a match is left of it, so the text only loses characters. -/
theorem Sweep.weave_sublist {replacement : List Char} {e : Expr} {b : Option Char}
    {s last : List Char} {cuts : List Cut} (h : Sweep e b s cuts last)
    (hsub : ∀ b m r, e.Takes b m r → replacement.Sublist m) :
    (weave replacement cuts last).Sublist s := by
  induction h with
  | stop => exact List.Sublist.refl _
  | @hit b g m r last cuts _ hh _ ih =>
    rw [weave, ← List.append_assoc]
    exact ((List.Sublist.refl g).append (hsub _ _ _ (takes_of_hit hh))).append ih

/-- There is no cut exactly if nothing in the text is a match. -/
theorem Sweep.eq_nil_iff {e : Expr} {b : Option Char} {s last : List Char} {cuts : List Cut}
    (h : Sweep e b s cuts last) :
    cuts = [] ↔ ∀ x m y, s = x ++ (m ++ y) → ¬ e.Takes (lastOr b x) m y := by
  cases h with
  | stop hq hend =>
    refine ⟨fun _ x m y hs ht => ?_, fun _ => rfl⟩
    have hends : e.ends ⟨lastOr b x, m ++ y⟩ = [] := by
      by_cases hne : m ++ y = []
      · rw [hne, List.append_nil] at hs
        rw [hne, ← hs, hend]
      · simpa using hq x (m ++ y) hs hne
    rw [Expr.Takes, hends] at ht
    exact List.not_mem_nil ht
  | @hit _ g m r _ _ _ hh _ =>
    constructor
    · intro hnil
      cases hnil
    · exact fun hnone => absurd (takes_of_hit hh) (hnone g m r rfl)

/-- A first match starts where no stretch without one reaches. -/
theorem Quiet.length_le_of_hit {e : Expr} {b : Option Char} {g g' m m' r r' : List Char} {q : Place}
    (hq : Quiet e b g' (m' ++ r')) (hsplit : g ++ (m ++ r) = g' ++ (m' ++ r'))
    (hh : (e.ends ⟨lastOr b g, m ++ r⟩).head? = some q) : g'.length ≤ g.length := by
  by_contra hlt
  obtain ⟨u, hne, rfl, hu⟩ := exists_of_append_eq_append hsplit (Nat.lt_of_not_le hlt)
  rw [hu, hq g u rfl hne] at hh
  cases hh

/-- A text is cut in one way only. -/
theorem Sweep.unique {e : Expr} {b : Option Char} {s last last' : List Char}
    {cuts cuts' : List Cut} (h : Sweep e b s cuts last) (h' : Sweep e b s cuts' last') :
    cuts = cuts' ∧ last = last' := by
  induction h generalizing cuts' last' with
  | @stop b s hq hend =>
    obtain rfl : cuts' = [] :=
      h'.eq_nil_iff.mpr ((Sweep.stop hq hend).eq_nil_iff.mp rfl)
    exact ⟨rfl, h'.eq_of_nil.symm⟩
  | @hit b g m r last cuts hq hh hs ih =>
    generalize htext : g ++ (m ++ r) = text at h'
    cases h' with
    | stop hq' hend' =>
      have hnone := (Sweep.stop hq' hend').eq_nil_iff.mp rfl
      exact absurd (takes_of_hit hh) (hnone g m r htext.symm)
    | @hit _ g' m' r' _ _ hq' hh' hs' =>
      have hle := hq'.length_le_of_hit htext hh
      have hle' := hq.length_le_of_hit htext.symm hh'
      obtain ⟨rfl, hrest⟩ := List.append_inj htext (Nat.le_antisymm hle' hle)
      -- both matches start at the same place, so both are the preferred one there
      rw [← hrest, hh, Option.some.injEq, Place.mk.injEq] at hh'
      obtain ⟨hlast, rfl⟩ := hh'
      obtain rfl := List.append_cancel_right hrest
      obtain ⟨rfl, rfl⟩ := ih hs'
      exact ⟨rfl, rfl⟩

/-! ## Successive matches that are not empty -/

section

variable {e : Expr} (he : e.loopsConsume = true) (hc : e.consumes = true)

include hc

theorem ends_eq_nil_of_skips {behind : Prop} {q : Place} (h : Skips e behind q) : e.ends q = [] := by
  refine h.resolve_right fun ⟨_, hempty⟩ => ?_
  exact Nat.lt_irrefl _ (Expr.length_lt_of_mem_ends hc hempty.mem_ends)

include he

theorem Successive.sweep {after : Bool} {b : Option Char} {s last : List Char} {cuts : List Cut}
    (h : Successive e after b s cuts last) : Sweep e b s cuts last := by
  induction h with
  | stop hq hend =>
    exact .stop (fun g₁ g₂ hg hne => ends_eq_nil_of_skips hc (hq g₁ g₂ hg hne))
      (ends_eq_nil_of_skips hc hend)
  | hit hq hp _ _ ih =>
    exact .hit (fun g₁ g₂ hg hne => ends_eq_nil_of_skips hc (hq g₁ g₂ hg hne))
      ((Program.prefers_iff he).mp hp) ih

end

end Pattern

open Pattern

/-- Where a match that was found stands, and that it is the preferred one there. -/
theorem Pattern.Sweep.exists_of_mem_spans {e : Expr} {b : Option Char} {s last : List Char}
    {cuts : List Cut} (h : Sweep e b s cuts last) : ∀ {start : Nat} {m : Match},
      m ∈ spans start cuts → ∃ before taken after, s = before ++ (taken ++ after) ∧
        m = ⟨start + before.length, start + before.length + taken.length⟩ ∧
        (e.ends ⟨lastOr b before, taken ++ after⟩).head? = some ⟨lastOr b (before ++ taken), after⟩ := by
  induction h with
  | stop =>
    intro start m hm
    cases hm
  | @hit b g t r last cuts _ hh _ ih =>
    intro start m hm
    obtain rfl | hm := List.mem_cons.mp hm
    · exact ⟨g, t, r, rfl, rfl, hh⟩
    · obtain ⟨before, taken, after, rfl, rfl, hends⟩ := ih hm
      refine ⟨g ++ (t ++ before), taken, after, by simp, by simp [Nat.add_assoc], ?_⟩
      simpa using hends

/-- The matches of a rule are the cuts of the text. -/
theorem CompiledRule.findAll_sweep {r : CompiledRule} {e : Expr}
    (hr : r.regex.program = Program.ofExpr e) (he : e.loopsConsume = true)
    (hc : e.consumes = true) (text : List Char) :
    ∃ cuts last, Sweep e none text cuts last ∧ r.regex.findAll text = spans 0 cuts := by
  obtain ⟨cuts, last, hsucc, hmatches⟩ := findAll_successive e text
  exact ⟨cuts, last, hsucc.sweep he hc, by rw [Regex.findAll, hr, hmatches]⟩

/-- Applying a rule weaves its replacement into the cuts of the text and counts them. -/
theorem CompiledRule.applyCounted_sweep {r : CompiledRule} {e : Expr}
    (hr : r.regex.program = Program.ofExpr e) (he : e.loopsConsume = true)
    (hc : e.consumes = true) (text : String) :
    ∃ cuts last, Sweep e none text.toList cuts last ∧
      r.applyCounted text =
        (String.ofList (weave r.replaceWith.toList cuts last), cuts.length) := by
  obtain ⟨cuts, last, hs, hfind⟩ := findAll_sweep hr he hc text.toList
  exact ⟨cuts, last, hs, applyCounted_of_spans hs.eq_joined hfind⟩

end MarkerSweep
