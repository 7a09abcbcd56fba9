import MarkerSweep.Proofs.Pattern.Reach
import MarkerSweep.Proofs.Rule.Cuts
import MarkerSweep.Proofs.Rule.Table
/-!
# Successive matches

The matches of a rule in a text follow one another from the left: each starts at the leftmost place
behind the one before at which the pattern matches at all, and it is the one that the pattern prefers
there. `Successive` says so of a list of cuts, and it determines them (`Successive.unique`). A pattern
may match the empty text. Right behind a match the preferred match does not count if it is empty, and
then the search goes on one character later, whatever else would match there.

Nothing is asked of the pattern. So counting matches and replacing them come to the same cuts for
every rule that compiles (`Rule.replaces`).
-/

set_option autoImplicit false

namespace MarkerSweep

namespace Pattern

variable {e : Expr} {b : Option Char} {g m r s last last' : List Char} {cuts cuts' : List Cut}
  {after : Bool}

/-- No match counts at a place: nothing matches there, or what is preferred is empty right behind a
match. -/
def Skips (e : Expr) (behind : Prop) (q : Place) : Prop :=
  e.ends q = [] ∨ behind ∧ (Program.ofExpr e).Prefers q q

/-- No match that counts starts within `g`, which stands between `b` and `r`; `after` says whether a
match ends before it. -/
def Passes (e : Expr) (after : Bool) (b : Option Char) (g r : List Char) : Prop :=
  ∀ g₁ g₂, g = g₁ ++ g₂ → g₂ ≠ [] → Skips e (after = true ∧ g₁ = []) ⟨lastOr b g₁, g₂ ++ r⟩

/-- `Successive e after b s cuts last`: the successive matches in `s`, which stands after `b`, cut it
into `cuts` and leave `last`; `after` says whether a match ends before `s`. -/
inductive Successive (e : Expr) : Bool → Option Char → List Char → List Cut → List Char → Prop
  | stop {after : Bool} {b : Option Char} {s : List Char} : Passes e after b s [] →
      Skips e (after = true ∧ s = []) ⟨lastOr b s, []⟩ → Successive e after b s [] s
  | hit {after : Bool} {b : Option Char} {g m r last : List Char} {cuts : List Cut} :
      Passes e after b g (m ++ r) →
      (Program.ofExpr e).Prefers ⟨lastOr b g, m ++ r⟩ ⟨lastOr b (g ++ m), r⟩ →
      ¬ (after = true ∧ g = [] ∧ m = []) → Successive e true (lastOr b (g ++ m)) r cuts last →
      Successive e after b (g ++ (m ++ r)) (⟨g, m⟩ :: cuts) last

theorem Successive.eq_joined (h : Successive e after b s cuts last) : s = joined cuts last := by
  induction h with
  | stop => rfl
  | hit _ _ _ _ ih => rw [joined, ← ih]

/-! ## The cuts are determined -/

/-- A match that counts does not start at a place that is skipped. -/
theorem Skips.false_of_prefers {behind : Prop} {c : Option Char}
    (h : Skips e behind ⟨c, m ++ r⟩)
    (hp : (Program.ofExpr e).Prefers ⟨c, m ++ r⟩ ⟨lastOr c m, r⟩) (hm : ¬ (behind ∧ m = [])) :
    False := by
  rcases h with hnone | ⟨hbehind, hempty⟩
  · have hmem := hp.mem_ends
    rw [hnone] at hmem
    exact List.not_mem_nil hmem
  · have hrest := congrArg Place.rest (Option.some.inj (hp.unique hempty))
    exact hm ⟨hbehind, List.self_eq_append_left.mp hrest⟩

/-- A first match starts where no stretch without one reaches. -/
theorem Passes.length_le {g' m' r' : List Char} (hq : Passes e after b g' (m' ++ r'))
    (hsplit : g ++ (m ++ r) = g' ++ (m' ++ r'))
    (hp : (Program.ofExpr e).Prefers ⟨lastOr b g, m ++ r⟩ ⟨lastOr b (g ++ m), r⟩)
    (hm : ¬ (after = true ∧ g = [] ∧ m = [])) : g'.length ≤ g.length := by
  by_contra hlt
  obtain ⟨u, hne, rfl, hu⟩ := exists_of_append_eq_append hsplit (Nat.lt_of_not_le hlt)
  have hskips := hq g u rfl hne
  rw [← hu] at hskips
  rw [lastOr_append] at hp
  exact hskips.false_of_prefers hp fun h => hm ⟨h.1.1, h.1.2, h.2⟩

/-- Where nothing counts, there is no match to start the list of cuts with. -/
theorem Successive.eq_nil_of_stop (h : Successive e after b s cuts last)
    (hq : Passes e after b s []) (hend : Skips e (after = true ∧ s = []) ⟨lastOr b s, []⟩) :
    cuts = [] := by
  cases h with
  | stop => rfl
  | @hit _ _ g m r last cuts _ hp hm _ =>
    exfalso
    rw [lastOr_append] at hp
    by_cases hne : m ++ r = []
    · obtain ⟨rfl, rfl⟩ := List.append_eq_nil_iff.mp hne
      rw [List.append_nil, List.append_nil] at hend
      exact Skips.false_of_prefers (m := []) hend hp fun h => hm ⟨h.1.1, h.1.2, rfl⟩
    · have hskips := hq g (m ++ r) rfl hne
      rw [List.append_nil] at hskips
      exact hskips.false_of_prefers hp fun h => hm ⟨h.1.1, h.1.2, h.2⟩

/-- A text is cut in one way only. -/
theorem Successive.unique (h : Successive e after b s cuts last)
    (h' : Successive e after b s cuts' last') : cuts = cuts' ∧ last = last' := by
  induction h generalizing cuts' last' with
  | @stop after b s hq hend =>
    obtain rfl := h'.eq_nil_of_stop hq hend
    exact ⟨rfl, h'.eq_joined⟩
  | @hit after b g m r last cuts hq hp hm hs ih =>
    generalize htext : g ++ (m ++ r) = text at h'
    cases h' with
    | stop hq' hend' =>
      subst htext
      cases (Successive.hit hq hp hm hs).eq_nil_of_stop hq' hend'
    | @hit _ _ g' m' r' _ _ hq' hp' hm' hs' =>
      have hle := hq'.length_le htext hp hm
      have hle' := hq.length_le htext.symm hp' hm'
      obtain ⟨rfl, hrest⟩ := List.append_inj htext (Nat.le_antisymm hle' hle)
      -- both matches start at the same place, so both are the preferred one there
      rw [← hrest] at hp'
      obtain ⟨hlast, rfl⟩ := Place.mk.inj (Option.some.inj (hp.unique hp'))
      obtain rfl := List.append_cancel_right hrest
      obtain ⟨rfl, rfl⟩ := ih hs'
      exact ⟨rfl, rfl⟩

/-! ## The search finds them -/

section

variable {text : Array Char} {start : Nat}

theorem passes_of_forall (hg : (placeAt text start).rest = g ++ r)
    (h : ∀ i, start ≤ i → i < start + g.length →
      Skips e (after = true ∧ i = start) (placeAt text i)) :
    Passes e after (placeAt text start).before g r := by
  intro g₁ g₂ hsplit hne
  have hpos : 0 < g₂.length := List.length_pos_iff.mpr hne
  have hplace : placeAt text (start + g₁.length) =
      ⟨lastOr (placeAt text start).before g₁, g₂ ++ r⟩ :=
    placeAt_add (by rw [← List.append_assoc, ← hsplit]; exact hg)
  have hskips := h (start + g₁.length) (Nat.le_add_right _ _) (by
    rw [hsplit, List.length_append]
    omega)
  rw [hplace] at hskips
  simpa using hskips

/-- The next match that counts, as `matchesFrom` takes it. -/
def nextMatch (p : Program) (text : Array Char) (start : Nat) (previous : Option Nat) :
    Option Match :=
  match p.find? text start with
  | some m => if m.isEmpty && previous == some m.last then p.find? text (start + 1) else some m
  | none => none

theorem matchesFrom_succ (p : Program) (fuel : Nat) (previous : Option Nat) :
    p.matchesFrom text (fuel + 1) start previous =
      match nextMatch p text start previous with
      | none => []
      | some m => m :: p.matchesFrom text fuel m.last (some m.last) := rfl

/-- A match that the search answers, and where it stands. -/
structure Next (e : Expr) (text : Array Char) (after : Bool) (start : Nat) (m : Match) : Prop where
  le_first : start ≤ m.first
  first_le_last : m.first ≤ m.last
  last_le : m.last ≤ text.size
  skips : ∀ i, start ≤ i → i < m.first → Skips e (after = true ∧ i = start) (placeAt text i)
  prefers : (Program.ofExpr e).Prefers (placeAt text m.first) (placeAt text m.last)
  counts : ¬ (after = true ∧ m.first = start ∧ m.last = start)

theorem skips_of_fails {behind : Prop} {q : Place} (h : (Program.ofExpr e).Fails q) :
    Skips e behind q := .inl (Program.fails_ofExpr_iff.mp h)

theorem first_le_last_of_prefers {i j : Nat} (hi : i ≤ text.size) (hj : j ≤ text.size)
    (h : (Program.ofExpr e).Prefers (placeAt text i) (placeAt text j)) : i ≤ j := by
  have := (e.ahead_of_mem_ends h.mem_ends).length_le
  rw [length_rest_placeAt, length_rest_placeAt] at this
  omega

/-- A search that starts behind places that are skipped answers what counts next, unless what it
answers does not count. -/
theorem find?_spec {first : Nat} (hle : start ≤ first) (hfirst : first ≤ text.size + 1)
    (hbefore : ∀ i, start ≤ i → i < first → Skips e (after = true ∧ i = start) (placeAt text i))
    (hcounts : ∀ m, (Program.ofExpr e).find? text first = some m →
      ¬ (after = true ∧ m.first = start ∧ m.last = start)) :
    (∃ m, (Program.ofExpr e).find? text first = some m ∧ Next e text after start m) ∨
    (Program.ofExpr e).find? text first = none ∧
      ∀ i, start ≤ i → i ≤ text.size → Skips e (after = true ∧ i = start) (placeAt text i) := by
  have hskips : ∀ i, start ≤ i → (first ≤ i → (Program.ofExpr e).Fails (placeAt text i)) →
      Skips e (after = true ∧ i = start) (placeAt text i) := by
    intro i hi hfails
    rcases Nat.lt_or_ge i first with hlt | hge
    · exact hbefore i hi hlt
    · exact skips_of_fails (hfails hge)
  cases hfind : (Program.ofExpr e).find? text first with
  | none =>
    have hfails := Program.find?_eq_none hfirst hfind
    exact .inr ⟨rfl, fun i h₁ h₂ => hskips i h₁ fun h => hfails i h h₂⟩
  | some m =>
    obtain ⟨h₁, h₂, h₃, hfails, hprefers⟩ := Program.find?_eq_some hfirst hfind
    exact .inl ⟨m, rfl, Nat.le_trans hle h₁, first_le_last_of_prefers h₂ h₃ hprefers, h₃,
      fun i hi hlt => hskips i hi fun h => hfails i h hlt, hprefers, hcounts m hfind⟩

/-- What counts next, and what it means that nothing does. -/
theorem nextMatch_spec (e : Expr) (after : Bool) (hs : start ≤ text.size) :
    (∃ m, nextMatch (.ofExpr e) text start (if after then some start else none) = some m ∧
      Next e text after start m) ∨
    nextMatch (.ofExpr e) text start (if after then some start else none) = none ∧
      ∀ i, start ≤ i → i ≤ text.size → Skips e (after = true ∧ i = start) (placeAt text i) := by
  by_cases hempty : after = true ∧ (Program.ofExpr e).find? text start = some ⟨start, start⟩
  · -- the preferred match does not count, and the search goes on one character later
    obtain ⟨rfl, hfind⟩ := hempty
    have hnext : nextMatch (.ofExpr e) text start (some start) =
        (Program.ofExpr e).find? text (start + 1) := by
      simp [nextMatch, hfind, Match.isEmpty]
    obtain ⟨-, -, -, -, hprefers⟩ := Program.find?_eq_some (by omega) hfind
    rw [if_pos rfl, hnext]
    refine find?_spec (Nat.le_succ start) (by omega) (fun i h₁ h₂ => ?_) fun m hm => ?_
    · obtain rfl : i = start := by omega
      exact .inr ⟨⟨rfl, rfl⟩, hprefers⟩
    · have := (Program.find?_eq_some (by omega) hm).1
      omega
  · have hcounts : ∀ m, (Program.ofExpr e).find? text start = some m →
        ¬ (after = true ∧ m.first = start ∧ m.last = start) := by
      rintro ⟨first, last⟩ hm ⟨ha, hfirst, hlast⟩
      dsimp only at hfirst hlast
      rw [hfirst, hlast] at hm
      exact hempty ⟨ha, hm⟩
    have hnext : nextMatch (.ofExpr e) text start (if after then some start else none) =
        (Program.ofExpr e).find? text start := by
      rw [nextMatch]
      cases hfind : (Program.ofExpr e).find? text start with
      | none => rfl
      | some m =>
        refine if_neg fun h => hcounts m hfind ?_
        cases after with
        | false => simp at h
        | true =>
          simp only [Match.isEmpty, if_true, Bool.and_eq_true, beq_iff_eq, Option.some.injEq] at h
          exact ⟨rfl, by omega, by omega⟩
    rw [hnext]
    exact find?_spec (Nat.le_refl start) (by omega) (fun i h₁ h₂ => by omega) hcounts

/-- The match that counts next is the first cut. -/
theorem Next.successive {m : Match} (h : Next e text after start m)
    (hs : Successive e true (placeAt text m.last).before (placeAt text m.last).rest cuts last) :
    ∃ g t, Successive e after (placeAt text start).before (placeAt text start).rest
        (⟨g, t⟩ :: cuts) last ∧
      start + g.length = m.first ∧ m.first + t.length = m.last := by
  obtain ⟨h₁, h₂, h₃, hskips, hprefers, hcounts⟩ := h
  obtain ⟨g, _, hg, hglen, hfirst⟩ := exists_placeAt h₁ (Nat.le_trans h₂ h₃)
  obtain ⟨t, r, hr, htlen, hlast⟩ := exists_placeAt h₂ h₃
  rw [hfirst] at hr hlast
  subst hr
  rw [← lastOr_append] at hlast
  rw [hlast] at hs
  rw [hfirst, hlast] at hprefers
  have hpasses := passes_of_forall hg fun i hi hi' => hskips i hi (by omega)
  have hcounts' : ¬ (after = true ∧ g = [] ∧ t = []) := by
    rintro ⟨ha, rfl, rfl⟩
    rw [List.length_nil] at hglen htlen
    exact hcounts ⟨ha, by omega, by omega⟩
  rw [hg]
  exact ⟨g, t, .hit hpasses hprefers hcounts' hs, by omega, by omega⟩

/-- Where nothing counts any more, the rest of the text is kept. -/
theorem successive_of_skips
    (h : ∀ i, start ≤ i → i ≤ text.size → Skips e (after = true ∧ i = start) (placeAt text i))
    (hs : start ≤ text.size) :
    Successive e after (placeAt text start).before (placeAt text start).rest []
      (placeAt text start).rest := by
  have hlen := length_rest_placeAt text start
  have hrest : (placeAt text start).rest = (placeAt text start).rest ++ [] :=
    (List.append_nil _).symm
  have hend := h (start + (placeAt text start).rest.length) (Nat.le_add_right _ _) (by omega)
  rw [placeAt_add hrest] at hend
  refine .stop (passes_of_forall hrest fun i h₁ h₂ => h i h₁ (by omega)) ?_
  simpa using hend

/-- The matches that a program finds one after another cut the text. Right behind a match the next one
ends later, so the fuel is used up by characters. -/
theorem matchesFrom_successive (e : Expr) (text : Array Char) : ∀ (fuel start : Nat) (after : Bool),
    start ≤ text.size → text.size - start + (if after then 1 else 2) ≤ fuel →
      ∃ cuts last,
        Successive e after (placeAt text start).before (placeAt text start).rest cuts last ∧
        (Program.ofExpr e).matchesFrom text fuel start (if after then some start else none) =
          spans start cuts
  | 0, _, after, _, hf => by
    split at hf <;> omega
  | fuel + 1, start, after, hs, hf => by
    rw [matchesFrom_succ]
    rcases nextMatch_spec e after hs with ⟨m, hnext, h⟩ | ⟨hnext, hskips⟩
    · have hfuel : text.size - m.last + 1 ≤ fuel := by
        obtain ⟨h₁, h₂, h₃, -, -, hcounts⟩ := h
        cases after with
        | false =>
          simp only [Bool.false_eq_true, if_false] at hf
          omega
        | true =>
          simp only [if_true, true_and] at hf hcounts
          omega
      obtain ⟨cuts, last, hsucc, hmatches⟩ :=
        matchesFrom_successive e text fuel m.last true h.last_le hfuel
      obtain ⟨g, t, hsucc, hg, ht⟩ := h.successive hsucc
      refine ⟨_, last, hsucc, ?_⟩
      rw [if_pos rfl] at hmatches
      simp only [hnext, hmatches, spans, hg, ht]
    · refine ⟨[], _, successive_of_skips hskips hs, ?_⟩
      rw [hnext]
      rfl

end

/-- The matches that a program finds in a text cut it. -/
theorem findAll_successive (e : Expr) (text : List Char) : ∃ cuts last,
    Successive e false none text cuts last ∧
      (Program.ofExpr e).findAll text.toArray = spans 0 cuts := by
  obtain ⟨cuts, last, hsucc, hmatches⟩ := matchesFrom_successive e text.toArray
    (text.toArray.size + 2) 0 false (Nat.zero_le _) (by simp)
  exact ⟨cuts, last, by simpa [placeAt] using hsucc, hmatches⟩

end Pattern

open Pattern

/-! ## Rules -/

/-- Applying a compiled rule replaces each of the successive matches of its pattern by the replacement
as it is written, keeps what stands between them, and counts the matches. -/
theorem Rule.replaces [Builder] {r : Rule} {c : CompiledRule} (h : r.compile = .ok c) (text : String) :
    ∃ pattern e, r.pattern = some pattern ∧ Regex.expr pattern r.multiline = .ok e ∧
      ∃ cuts last, Successive e false none text.toList cuts last ∧
        (∀ cuts' last', Successive e false none text.toList cuts' last' →
          cuts' = cuts ∧ last' = last) ∧
        text.toList = joined cuts last ∧ c.regex.findAll text.toList = spans 0 cuts ∧
        c.applyCounted text = (String.ofList (weave r.replaceWith.toList cuts last), cuts.length) ∧
        ((c.applyCounted text).2 = 0 → (c.applyCounted text).1 = text) := by
  obtain ⟨pattern, e, hpattern, hexpr, rfl⟩ := exists_expr_of_compile h
  obtain ⟨cuts, last, hsucc, hfind⟩ := findAll_successive e text.toList
  have happly := CompiledRule.applyCounted_of_spans
    (c := ⟨r.name, ⟨pattern, r.multiline, .ofExpr e⟩, r.replaceWith⟩) hsucc.eq_joined hfind
  refine ⟨pattern, e, hpattern, hexpr, cuts, last, hsucc, fun _ _ h' => h'.unique hsucc,
    hsucc.eq_joined, hfind, happly, fun hzero => ?_⟩
  rw [happly] at hzero ⊢
  obtain rfl := List.length_eq_zero_iff.mp hzero
  have hlast : text.toList = last := hsucc.eq_joined
  rw [weave, ← hlast, String.ofList_toList]

/-- A rule that also matches where there is nothing, with a replacement that looks like a
reference. -/
def Rule.anyXs : Rule := { name := "any_xs", pattern := some "x*", replaceWith := "$1" }

def CompiledRule.anyXs : CompiledRule :=
  ⟨"any_xs", ⟨"x*", true, .ofExpr (.rep 0 none true (.set (.singleton 'x')))⟩, "$1"⟩

/-- Right behind the `x` no empty match counts, and the replacement is put in as it is. -/
theorem Rule.replaces_anyXs : Rule.anyXs.compile = .ok .anyXs ∧
    CompiledRule.anyXs.applyCounted "axb" = ("$1a$1b$1", 3) ∧
    ∃ pattern e, Rule.anyXs.pattern = some pattern ∧
      Regex.expr pattern Rule.anyXs.multiline = .ok e ∧
      ∃ cuts last, Successive e false none "axb".toList cuts last ∧
        "$1a$1b$1" = String.ofList (weave "$1".toList cuts last) ∧ cuts.length = 3 := by
  have hcompile : Rule.anyXs.compile = .ok .anyXs := by decide +kernel
  have hcount : CompiledRule.anyXs.applyCounted "axb" = ("$1a$1b$1", 3) := by decide +kernel
  obtain ⟨pattern, e, hpattern, hexpr, cuts, last, hsucc, -, -, -, happly, -⟩ :=
    Rule.replaces hcompile "axb"
  obtain ⟨htext, hlength⟩ := Prod.mk.inj (hcount.symm.trans happly)
  exact ⟨hcompile, hcount, pattern, e, hpattern, hexpr, cuts, last, hsucc, htext, hlength.symm⟩

end MarkerSweep
