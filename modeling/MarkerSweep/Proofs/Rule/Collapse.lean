import MarkerSweep.Engine
import MarkerSweep.Proofs.Pattern.Reach
import MarkerSweep.Proofs.Pattern.Segment
import MarkerSweep.Proofs.Rule.Sweep
import MarkerSweep.Proofs.Text.Lines
import MarkerSweep.Proofs.Unicode.CharSet
/-!
# Collapsing blank lines

The last built-in rule puts two line feeds in the place of three or more. The lines that are not
empty do not notice, and afterwards no three line feeds are left in a row: a match takes all the
line feeds of a run, so neither the stretch before it nor the stretch after it begins or ends with
one there.
-/

set_option autoImplicit false

namespace MarkerSweep

open Unicode Pattern Text

/-- The expression of the rule. -/
def breaksExpr : Expr := .rep 3 none true (.set (.singleton '\n'))

/-- The shortest text that the rule matches. -/
def threeBreaks : List Char := ['\n', '\n', '\n']

theorem takes_breaksExpr {b : Option Char} {m r : List Char} :
    breaksExpr.Takes b m r ↔ 3 ≤ m.length ∧ ∀ c ∈ m, c = '\n' := by
  rw [breaksExpr, Expr.takes_run]
  simp only [CharSet.contains_singleton]

/-! ## A greedy run is as long as it can be -/

theorem head?_loopEnds_set {cs : CharSet} {q : Place} : ∀ {n : Nat} {p : Place}, p.rest.length ≤ n →
    (loopEnds true (Expr.set cs).ends n p).head? = some q →
      ∀ c ∈ q.rest.head?, cs.contains c = false
  | n, ⟨b, []⟩, _, h => by
    have hnil : (Expr.set cs).ends ⟨b, []⟩ = [] := by simp [Expr.ends]
    have hp : loopEnds true (Expr.set cs).ends n ⟨b, []⟩ = [⟨b, []⟩] := by
      cases n <;> simp [loopEnds, hnil]
    rw [hp, List.head?_cons, Option.some.injEq] at h
    subst h
    simp
  | n + 1, ⟨b, c :: r⟩, hn, h => by
    rw [loopEnds, if_pos rfl] at h
    by_cases hc : cs.contains c = true
    · -- one more round is possible, so it is preferred
      have hstep : (Expr.set cs).ends ⟨b, c :: r⟩ = [⟨some c, r⟩] := by simp [Expr.ends, hc]
      rw [hstep, List.flatMap_singleton,
        List.head?_append_of_ne_nil _ (List.ne_nil_of_mem (self_mem_loopEnds n _))] at h
      exact head?_loopEnds_set (Nat.le_of_succ_le_succ hn) h
    · have hstep : (Expr.set cs).ends ⟨b, c :: r⟩ = [] := by simp [Expr.ends, hc]
      rw [hstep, List.flatMap_nil, List.nil_append, List.head?_cons, Option.some.injEq] at h
      subst h
      simpa using hc

theorem head?_ends_breaksExpr {p q : Place} (h : (breaksExpr.ends p).head? = some q) :
    q.rest.head? ≠ some '\n' := by
  intro hq
  rw [breaksExpr, Expr.ends, List.head?_flatMap] at h
  obtain ⟨a, -, ha⟩ := List.exists_of_findSome?_eq_some h
  have := head?_loopEnds_set (Nat.le_refl _) ha '\n' hq
  rw [CharSet.contains_singleton.mpr rfl] at this
  cases this

/-! ## The lines stay -/

theorem linesWhere_lineFeeds {p : List Char → Bool} (hp : p [] = false) : ∀ {m : List Char},
    (∀ c ∈ m, c = '\n') → linesWhere p m = []
  | [], _ => by simp [linesWhere_line, hp]
  | c :: m, h => by
    obtain ⟨rfl, hm⟩ := List.forall_mem_cons.mp h
    have hsplit := linesWhere_append_lineFeed (p := p) [] m
    rw [List.nil_append] at hsplit
    have hnil : linesWhere p [] = [] := by simp [linesWhere_line, hp]
    rw [hsplit, linesWhere_lineFeeds hp hm, hnil, List.nil_append]

theorem atLineEnd_of_lineFeeds {m : List Char} (hne : m ≠ []) (h : ∀ c ∈ m, c = '\n')
    (r : List Char) :
    AtLineEnd (m ++ r) := by
  obtain ⟨c, m, rfl⟩ := List.exists_cons_of_ne_nil hne
  simpa using h c List.mem_cons_self

theorem atLineStart_of_lineFeeds {m : List Char} (hne : m ≠ []) (h : ∀ c ∈ m, c = '\n')
    (b : Option Char) :
    AtLineStart (lastOr b m) := by
  obtain ⟨m', c, rfl⟩ := (List.eq_nil_or_concat m).resolve_left hne
  simpa using h c (by simp)

/-- A run of line feeds in the middle of a text makes no lines of its own. -/
theorem linesWhere_append_lineFeeds {p : List Char → Bool} (hp : p [] = false) {g m r : List Char}
    (hne : m ≠ []) (hm : ∀ c ∈ m, c = '\n') :
    linesWhere p (g ++ (m ++ r)) = linesWhere p g ++ linesWhere p r := by
  have hg : Boundary (lastOr none g) (m ++ r) := .inr (atLineEnd_of_lineFeeds hne hm r)
  have hr : Boundary (lastOr none m) r := .inl (atLineStart_of_lineFeeds hne hm none)
  rw [linesWhere_append hp hg, linesWhere_append hp hr, linesWhere_lineFeeds hp hm, List.nil_append]

theorem linesWhere_collapse {p : List Char → Bool} (hp : p [] = false) {b : Option Char}
    {s last : List Char} {cuts : List Cut} (h : Sweep breaksExpr b s cuts last) :
    linesWhere p (weave ['\n', '\n'] cuts last) = linesWhere p s := by
  induction h with
  | stop => rfl
  | @hit b g m r last cuts _ hh _ ih =>
    obtain ⟨hlen, hm⟩ := takes_breaksExpr.mp (takes_of_hit hh)
    have hne : m ≠ [] := by
      rintro rfl
      simp at hlen
    rw [weave, List.append_assoc, linesWhere_append_lineFeeds hp (by simp) (by simp), ih,
      linesWhere_append_lineFeeds hp hne hm]

/-! ## No three line feeds in a row -/

/-- Two line feeds between texts that do not touch them with another one. -/
theorem not_threeBreaks_append {g w : List Char} (hg : ¬ threeBreaks <:+: g)
    (hend : ∀ g', g ≠ g' ++ ['\n']) (hstart : w.head? ≠ some '\n') (hw : ¬ threeBreaks <:+: w) :
    ¬ threeBreaks <:+: g ++ (['\n', '\n'] ++ w) := by
  rintro ⟨x, y, h⟩
  rw [List.append_assoc] at h
  rcases List.append_eq_append_iff.mp h with ⟨u, rfl, hu⟩ | ⟨u, rfl, hu⟩
  · -- the three start in `x`, which is `u` shorter than `g`
    match u, hu with
    | [], hu =>
      simp only [threeBreaks, List.cons_append, List.nil_append, List.cons.injEq, true_and] at hu
      exact hstart (by rw [← hu]; rfl)
    | [c], hu =>
      simp only [threeBreaks, List.cons_append, List.nil_append, List.cons.injEq] at hu
      exact hend x (by rw [hu.1])
    | [c, d], hu =>
      simp only [threeBreaks, List.cons_append, List.nil_append, List.cons.injEq] at hu
      exact hend (x ++ [c]) (by simp [hu.2.1.symm])
    | c :: d :: e :: u, hu =>
      simp only [threeBreaks, List.cons_append, List.nil_append, List.cons.injEq] at hu
      obtain ⟨rfl, rfl, rfl, -⟩ := hu
      exact hg ⟨x, u, by simp [threeBreaks]⟩
  · match u, hu with
    | [], hu =>
      simp only [threeBreaks, List.cons_append, List.nil_append, List.cons.injEq, true_and] at hu
      exact hstart (by rw [hu]; rfl)
    | [c], hu =>
      simp only [threeBreaks, List.cons_append, List.nil_append, List.cons.injEq] at hu
      exact hstart (by rw [hu.2.2]; rfl)
    | c :: d :: u, hu =>
      simp only [List.cons_append, List.nil_append, List.cons.injEq] at hu
      exact hw ⟨u, y, by rw [hu.2.2, List.append_assoc]⟩

theorem not_threeBreaks_of_quiet {b : Option Char} {g r : List Char} (hq : Quiet breaksExpr b g r) :
    ¬ threeBreaks <:+: g := by
  rintro ⟨x, y, rfl⟩
  have hends := hq x (threeBreaks ++ y) (by simp) (by simp [threeBreaks])
  have ht : breaksExpr.Takes (lastOr b x) threeBreaks (y ++ r) :=
    takes_breaksExpr.mpr ⟨by simp [threeBreaks], by simp [threeBreaks]⟩
  rw [Expr.Takes, ← List.append_assoc, hends] at ht
  exact List.not_mem_nil ht

/-- A line feed before a match would have been taken with it. -/
theorem not_concat_lineFeed_of_quiet {b : Option Char} {g m r : List Char}
    (hq : Quiet breaksExpr b g (m ++ r)) (hlen : 3 ≤ m.length) (hm : ∀ c ∈ m, c = '\n') :
    ∀ g', g ≠ g' ++ ['\n'] := by
  rintro g' rfl
  have hends := hq g' ['\n'] rfl (by simp)
  have ht : breaksExpr.Takes (lastOr b g') ('\n' :: m) r :=
    takes_breaksExpr.mpr ⟨by simp; omega, by simpa using hm⟩
  rw [Expr.Takes, List.cons_append, ← List.singleton_append, hends] at ht
  exact List.not_mem_nil ht

theorem not_threeBreaks_collapse {b : Option Char} {s last : List Char} {cuts : List Cut}
    (h : Sweep breaksExpr b s cuts last) :
    ¬ threeBreaks <:+: weave ['\n', '\n'] cuts last ∧
      (s.head? ≠ some '\n' → (weave ['\n', '\n'] cuts last).head? ≠ some '\n') := by
  induction h with
  | stop hq _ => exact ⟨not_threeBreaks_of_quiet hq, id⟩
  | @hit b g m r last cuts hq hh _ ih =>
    have hr := head?_ends_breaksExpr hh
    obtain ⟨hlen, hm⟩ := takes_breaksExpr.mp (takes_of_hit hh)
    obtain ⟨hno, hhead⟩ := ih
    rw [weave, List.append_assoc]
    constructor
    · exact not_threeBreaks_append (not_threeBreaks_of_quiet hq)
        (not_concat_lineFeed_of_quiet hq hlen hm) (hhead hr) hno
    · cases g with
      | nil =>
        obtain ⟨c, m, rfl⟩ := List.exists_cons_of_ne_nil (show m ≠ [] by rintro rfl; simp at hlen)
        simpa using hm c List.mem_cons_self
      | cons c g => simp

theorem cuts_eq_nil_of_not_threeBreaks {b : Option Char} {s last : List Char} {cuts : List Cut}
    (h : Sweep breaksExpr b s cuts last) (hs : ¬ threeBreaks <:+: s) : cuts = [] := by
  cases h with
  | stop => rfl
  | @hit _ g m r _ _ _ hh _ =>
    obtain ⟨hlen, hm⟩ := takes_breaksExpr.mp (takes_of_hit hh)
    match m, hlen with
    | c :: d :: e :: m, _ =>
      obtain ⟨rfl, rfl, rfl, -⟩ := by simpa using hm
      exact absurd ⟨g, m ++ r, by simp [threeBreaks]⟩ hs

/-! ## The rule -/

/-- The compiled rule. -/
def collapseCompiled : CompiledRule :=
  ⟨"collapse_blank_lines", ⟨"\\n\x7b3,\x7d", false, Program.ofExpr breaksExpr⟩, "\n\n"⟩

theorem collapse_compiles : RuleTable.collapseBlankLines.compile = .ok collapseCompiled := by
  decide +kernel

/-- What collapsing blank lines makes of a text, and how often there was something to collapse. -/
structure Collapses (t t' : List Char) (count : Nat) : Prop where
  keeps : ∀ p : List Char → Bool, p [] = false → linesWhere p t' = linesWhere p t
  not_threeBreaks : ¬ threeBreaks <:+: t'
  idle : ¬ threeBreaks <:+: t → count = 0
  unchanged : count = 0 → t' = t
  shortens : t'.length + count ≤ t.length

theorem collapses (text : String) : Collapses text.toList
    (collapseCompiled.applyCounted text).1.toList (collapseCompiled.applyCounted text).2 := by
  obtain ⟨cuts, last, hsweep, happly⟩ := CompiledRule.applyCounted_sweep (r := collapseCompiled)
    (e := breaksExpr) rfl rfl rfl text
  rw [happly, String.toList_ofList]
  constructor
  · exact fun p hp => linesWhere_collapse hp hsweep
  · exact (not_threeBreaks_collapse hsweep).1
  · exact fun hs => List.length_eq_zero_iff.mpr (cuts_eq_nil_of_not_threeBreaks hsweep hs)
  · intro hn
    obtain rfl := List.length_eq_zero_iff.mp hn
    exact hsweep.eq_of_nil
  · exact hsweep.length_weave fun b m r ht => (takes_breaksExpr.mp ht).1

end MarkerSweep
