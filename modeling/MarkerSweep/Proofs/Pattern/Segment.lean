import MarkerSweep.Proofs.Pattern.Ends
/-!
# What an expression takes

`Expr.Takes e b m r`: among the ends of `e` after `b` is the one that takes `m` and leaves `r`.
Preference is forgotten, so this is the language of the expression in its context, and it is read
constructor by constructor below. A `Segment` is a set of characters or an unbounded run of one;
segments look at nothing but the characters they take, so a sequence of them has a plain language,
`SegmentsFit`.
-/

set_option autoImplicit false

namespace MarkerSweep

open Unicode

namespace Pattern

namespace Expr

/-- A match of the expression may take `m`, which stands after `b` and before `r`. -/
def Takes (e : Expr) (b : Option Char) (m r : List Char) : Prop :=
  ⟨lastOr b m, r⟩ ∈ e.ends ⟨b, m ++ r⟩

instance (e : Expr) (b : Option Char) (m r : List Char) : Decidable (e.Takes b m r) :=
  inferInstanceAs (Decidable (_ ∈ _))

/-- Every end takes something. -/
theorem takes_of_mem_ends {e : Expr} {b : Option Char} {s : List Char} {q : Place}
    (h : q ∈ e.ends ⟨b, s⟩) : ∃ m r, s = m ++ r ∧ q = ⟨lastOr b m, r⟩ ∧ e.Takes b m r := by
  obtain ⟨m, hm, hb⟩ := e.ahead_of_mem_ends h
  simp only at hm hb
  have hq : q = ⟨lastOr b m, q.rest⟩ := by rw [← hb]
  exact ⟨m, q.rest, hm, hq, by rw [Takes, ← hq, ← hm]; exact h⟩

theorem takes_empty {b : Option Char} {m r : List Char} : empty.Takes b m r ↔ m = [] := by
  rw [Takes, ends, List.mem_singleton, Place.mk.injEq]
  constructor
  · exact fun h => List.self_eq_append_left.mp h.2
  · rintro rfl
    exact ⟨rfl, rfl⟩

theorem mem_ends_set {s : CharSet} {b : Option Char} {x : List Char} {q : Place} :
    q ∈ (set s).ends ⟨b, x⟩ ↔ ∃ c r, x = c :: r ∧ s.contains c = true ∧ q = ⟨some c, r⟩ := by
  match x with
  | [] => simp [ends]
  | c :: r =>
    by_cases hc : s.contains c = true
    · simp [ends, hc]
    · simp [ends, hc]

theorem takes_set {s : CharSet} {b : Option Char} {m r : List Char} :
    (set s).Takes b m r ↔ ∃ c, m = [c] ∧ s.contains c = true := by
  rw [Takes, mem_ends_set]
  constructor
  · rintro ⟨c, r', hm, hc, hq⟩
    obtain rfl := (Place.mk.inj hq).2
    exact ⟨c, List.append_cancel_right (hm : m ++ _ = [c] ++ _), hc⟩
  · rintro ⟨c, rfl, hc⟩
    exact ⟨c, r, rfl, hc, rfl⟩

theorem takes_look {a : Look} {b : Option Char} {m r : List Char} :
    (look a).Takes b m r ↔ m = [] ∧ a.holds b r.head? = true := by
  rw [Takes, ends]
  constructor
  · intro h
    split at h
    · rename_i ha
      have hm : m = [] := List.self_eq_append_left.mp (Place.mk.inj (List.mem_singleton.mp h)).2
      exact ⟨hm, by rwa [hm] at ha⟩
    · exact absurd h List.not_mem_nil
  · rintro ⟨rfl, ha⟩
    simp [ha]

theorem takes_seq {e e' : Expr} {b : Option Char} {m r : List Char} :
    (seq e e').Takes b m r ↔
      ∃ m₁ m₂, m = m₁ ++ m₂ ∧ e.Takes b m₁ (m₂ ++ r) ∧ e'.Takes (lastOr b m₁) m₂ r := by
  constructor
  · intro h
    obtain ⟨q, hq, hr⟩ := List.mem_flatMap.mp h
    obtain ⟨m₁, r₁, hm, rfl, h₁⟩ := takes_of_mem_ends hq
    obtain ⟨m₂, r₂, rfl, hr₂, h₂⟩ := takes_of_mem_ends hr
    rw [Place.mk.injEq] at hr₂
    obtain ⟨_, rfl⟩ := hr₂
    rw [← List.append_assoc] at hm
    exact ⟨m₁, m₂, List.append_cancel_right hm, h₁, h₂⟩
  · rintro ⟨m₁, m₂, rfl, h₁, h₂⟩
    refine List.mem_flatMap.mpr ⟨_, by rw [List.append_assoc]; exact h₁, ?_⟩
    rw [lastOr_append]
    exact h₂

theorem takes_ofParts_nil {b : Option Char} {m r : List Char} :
    (ofParts []).Takes b m r ↔ m = [] := takes_empty

theorem takes_ofParts_cons {e : Expr} {es : List Expr} {b : Option Char} {m r : List Char} :
    (ofParts (e :: es)).Takes b m r ↔
      ∃ m₁ m₂, m = m₁ ++ m₂ ∧ e.Takes b m₁ (m₂ ++ r) ∧ (ofParts es).Takes (lastOr b m₁) m₂ r := by
  match es with
  | [] =>
    -- a single part is not put in a sequence
    simp only [takes_ofParts_nil]
    constructor
    · exact fun h => ⟨m, [], (List.append_nil m).symm, h, rfl⟩
    · rintro ⟨m₁, m₂, rfl, h, rfl⟩
      rwa [List.append_nil]
  | e' :: es => exact takes_seq

theorem ends_ofParts_cons (e : Expr) (es : List Expr) (p : Place) :
    (ofParts (e :: es)).ends p = (e.ends p).flatMap (ofParts es).ends := by
  match es with
  | [] =>
    have hone : (ofParts []).ends = fun q => [q] := funext fun q => by rw [ofParts, ends]
    rw [hone, List.flatMap_singleton', ofParts]
  | _ :: _ => rfl

theorem ends_ofParts_append (es es' : List Expr) (p : Place) :
    (ofParts (es ++ es')).ends p = ((ofParts es).ends p).flatMap (ofParts es').ends := by
  induction es generalizing p with
  | nil => rw [List.nil_append, ofParts, ends, List.flatMap_singleton]
  | cons e es ih =>
    rw [List.cons_append, ends_ofParts_cons, ends_ofParts_cons, List.flatMap_assoc]
    exact List.flatMap_congr fun q _ => ih q

/-! ### Runs of a set -/

theorem mem_roundsEnds_set {s : CharSet} : ∀ (n : Nat) {b : Option Char} {x : List Char}
    {q : Place},
    q ∈ roundsEnds (set s).ends n ⟨b, x⟩ ↔
      ∃ m r, x = m ++ r ∧ q = ⟨lastOr b m, r⟩ ∧ m.length = n ∧ ∀ c ∈ m, s.contains c = true
  | 0, b, x, q => by
    rw [roundsEnds, List.mem_singleton]
    constructor
    · rintro rfl
      exact ⟨[], x, rfl, rfl, rfl, by simp⟩
    · rintro ⟨m, r, rfl, rfl, hm, _⟩
      rw [List.length_eq_zero_iff.mp hm]
      rfl
  | n + 1, b, x, q => by
    rw [roundsEnds, List.mem_flatMap]
    constructor
    · rintro ⟨q', hq', hq⟩
      obtain ⟨c, r', rfl, hc, rfl⟩ := mem_ends_set.mp hq'
      obtain ⟨m, r, rfl, rfl, hm, hall⟩ := (mem_roundsEnds_set n).mp hq
      exact ⟨c :: m, r, rfl, rfl, by rw [List.length_cons, hm], by simpa [hc] using hall⟩
    · rintro ⟨_ | ⟨c, m⟩, r, rfl, rfl, hm, hall⟩
      · simp at hm
      · refine ⟨_, mem_ends_set.mpr ⟨c, m ++ r, rfl, hall c List.mem_cons_self, rfl⟩, ?_⟩
        exact (mem_roundsEnds_set n).mpr ⟨m, r, rfl, rfl, Nat.succ.inj hm,
          fun d hd => hall d (List.mem_cons_of_mem c hd)⟩

theorem mem_loopEnds_set {s : CharSet} {g : Bool} :
    ∀ (n : Nat) {b : Option Char} {x : List Char} {q : Place},
      q ∈ loopEnds g (set s).ends n ⟨b, x⟩ ↔
        ∃ m r, x = m ++ r ∧ q = ⟨lastOr b m, r⟩ ∧ m.length ≤ n ∧ ∀ c ∈ m, s.contains c = true
  | 0, b, x, q => by
    rw [loopEnds, List.mem_singleton]
    constructor
    · rintro rfl
      exact ⟨[], x, rfl, rfl, Nat.le_refl 0, by simp⟩
    · rintro ⟨m, r, rfl, rfl, hm, _⟩
      rw [List.length_eq_zero_iff.mp (Nat.le_zero.mp hm)]
      rfl
  | n + 1, b, x, q => by
    have hstep : q ∈ loopEnds g (set s).ends (n + 1) ⟨b, x⟩ ↔
        q = ⟨b, x⟩ ∨ ∃ q' ∈ (set s).ends ⟨b, x⟩, q ∈ loopEnds g (set s).ends n q' := by
      cases g <;> simp [loopEnds, List.mem_flatMap, or_comm]
    rw [hstep]
    constructor
    · rintro (rfl | ⟨q', hq', hq⟩)
      · exact ⟨[], x, rfl, rfl, Nat.zero_le _, by simp⟩
      · obtain ⟨c, r', rfl, hc, rfl⟩ := mem_ends_set.mp hq'
        obtain ⟨m, r, rfl, rfl, hm, hall⟩ := (mem_loopEnds_set n).mp hq
        exact ⟨c :: m, r, rfl, rfl, Nat.succ_le_succ hm, by simpa [hc] using hall⟩
    · rintro ⟨_ | ⟨c, m⟩, r, rfl, rfl, hm, hall⟩
      · exact .inl rfl
      · refine .inr ⟨_, mem_ends_set.mpr ⟨c, m ++ r, rfl, hall c List.mem_cons_self, rfl⟩, ?_⟩
        exact (mem_loopEnds_set n).mpr ⟨m, r, rfl, rfl, Nat.le_of_succ_le_succ hm,
          fun d hd => hall d (List.mem_cons_of_mem c hd)⟩

theorem takes_run {s : CharSet} {least : Nat} {g : Bool} {b : Option Char} {m r : List Char} :
    (rep least none g (set s)).Takes b m r ↔
      least ≤ m.length ∧ ∀ c ∈ m, s.contains c = true := by
  rw [Takes, ends, List.mem_flatMap]
  constructor
  · rintro ⟨q, hq, h⟩
    obtain ⟨m₁, r₁, hm, rfl, hlen, h₁⟩ := (mem_roundsEnds_set least).mp hq
    obtain ⟨m₂, r₂, rfl, hr, _, h₂⟩ := (mem_loopEnds_set _).mp h
    obtain rfl := (Place.mk.inj hr).2
    rw [← List.append_assoc] at hm
    obtain rfl := List.append_cancel_right hm
    refine ⟨by rw [List.length_append, hlen]; exact Nat.le_add_right _ _, fun c hc => ?_⟩
    exact (List.mem_append.mp hc).elim (h₁ c) (h₂ c)
  · rintro ⟨hlen, h⟩
    -- the mandatory rounds take the first characters, and the loop takes the others
    refine ⟨_, (mem_roundsEnds_set least).mpr ⟨m.take least, m.drop least ++ r, ?_, rfl,
      List.length_take_of_le hlen, fun c hc => h c (List.mem_of_mem_take hc)⟩, ?_⟩
    · rw [← List.append_assoc, List.take_append_drop]
    · refine (mem_loopEnds_set _).mpr ⟨m.drop least, r, rfl, ?_, by simp,
        fun c hc => h c (List.mem_of_mem_drop hc)⟩
      rw [← lastOr_append, List.take_append_drop]

theorem takes_optional {s : CharSet} {g : Bool} {b : Option Char} {m r : List Char} :
    (rep 0 (some 1) g (set s)).Takes b m r ↔ m.length ≤ 1 ∧ ∀ c ∈ m, s.contains c = true := by
  rw [Takes, ends, roundsEnds, List.flatMap_singleton, mem_loopEnds_set]
  constructor
  · rintro ⟨m', r', hm, hr, hlen, h⟩
    obtain rfl := (Place.mk.inj hr).2
    rw [List.append_cancel_right hm]
    exact ⟨hlen, h⟩
  · rintro ⟨hlen, h⟩
    exact ⟨m, r, rfl, rfl, hlen, h⟩

end Expr

/-! ## Segments -/

/-- One character of a set, or an unbounded run of them. -/
inductive Segment
  | one (s : CharSet)
  | run (least : Nat) (greedy : Bool) (s : CharSet)

namespace Segment

def expr : Segment → Expr
  | one s => .set s
  | run least greedy s => .rep least none greedy (.set s)

/-- The texts that a segment takes. -/
def Fits : Segment → List Char → Prop
  | one s, m => ∃ c, m = [c] ∧ s.contains c = true
  | run least _ s, m => least ≤ m.length ∧ ∀ c ∈ m, s.contains c = true

theorem takes_expr {a : Segment} {b : Option Char} {m r : List Char} :
    a.expr.Takes b m r ↔ a.Fits m := by
  cases a with
  | one s => exact Expr.takes_set
  | run least greedy s => exact Expr.takes_run

/-- The characters that a segment may take. -/
def chars : Segment → CharSet
  | one s | run _ _ s => s

theorem Fits.contains {a : Segment} {m : List Char} (h : a.Fits m) :
    ∀ c ∈ m, a.chars.contains c = true := by
  cases a with
  | one s =>
    obtain ⟨c, rfl, hc⟩ := h
    simpa [chars] using hc
  | run least greedy s => exact h.2

end Segment

/-- The texts that a sequence of segments takes. -/
def SegmentsFit : List Segment → List Char → Prop
  | [], m => m = []
  | a :: as, m => ∃ m₁ m₂, m = m₁ ++ m₂ ∧ a.Fits m₁ ∧ SegmentsFit as m₂

theorem segmentsFit_append {as as' : List Segment} {m : List Char} :
    SegmentsFit (as ++ as') m ↔ ∃ m₁ m₂, m = m₁ ++ m₂ ∧ SegmentsFit as m₁ ∧ SegmentsFit as' m₂ := by
  induction as generalizing m with
  | nil =>
    constructor
    · exact fun h => ⟨[], m, rfl, rfl, h⟩
    · rintro ⟨m₁, m₂, rfl, rfl, h⟩
      exact h
  | cons a as ih =>
    constructor
    · rintro ⟨m₁, m₂, rfl, ha, h⟩
      obtain ⟨m₃, m₄, rfl, h₃, h₄⟩ := ih.mp h
      exact ⟨m₁ ++ m₃, m₄, (List.append_assoc ..).symm, ⟨m₁, m₃, rfl, ha, h₃⟩, h₄⟩
    · rintro ⟨_, m₂, rfl, ⟨m₁, m₃, rfl, ha, h₃⟩, h₂⟩
      exact ⟨m₁, m₃ ++ m₂, List.append_assoc .., ha, ih.mpr ⟨m₃, m₂, rfl, h₃, h₂⟩⟩

/-- A sequence that begins with segments takes a text of those segments and then the rest. -/
theorem takes_segments_append {as : List Segment} {es : List Expr} {b : Option Char}
    {m r : List Char} :
    (Expr.ofParts (as.map Segment.expr ++ es)).Takes b m r ↔
      ∃ m₁ m₂, m = m₁ ++ m₂ ∧ SegmentsFit as m₁ ∧ (Expr.ofParts es).Takes (lastOr b m₁) m₂ r := by
  induction as generalizing b m with
  | nil =>
    constructor
    · exact fun h => ⟨[], m, rfl, rfl, h⟩
    · rintro ⟨m₁, m₂, rfl, rfl, h⟩
      exact h
  | cons a as ih =>
    rw [List.map_cons, List.cons_append, Expr.takes_ofParts_cons]
    constructor
    · rintro ⟨m₁, m₂, rfl, ha, h⟩
      obtain ⟨m₃, m₄, rfl, h₃, h₄⟩ := ih.mp h
      refine ⟨m₁ ++ m₃, m₄, (List.append_assoc ..).symm,
        ⟨m₁, m₃, rfl, Segment.takes_expr.mp ha, h₃⟩, ?_⟩
      rwa [lastOr_append]
    · rintro ⟨_, m₂, rfl, ⟨m₁, m₃, rfl, ha, h₃⟩, h₂⟩
      rw [lastOr_append] at h₂
      exact ⟨m₁, m₃ ++ m₂, List.append_assoc .., Segment.takes_expr.mpr ha,
        ih.mpr ⟨m₃, m₂, rfl, h₃, h₂⟩⟩

/-- A sequence of nothing but segments takes the texts of those segments, wherever they stand. -/
theorem takes_segments {as : List Segment} {b : Option Char} {m r : List Char} :
    (Expr.ofParts (as.map Segment.expr)).Takes b m r ↔ SegmentsFit as m := by
  rw [← List.append_nil (as.map Segment.expr), takes_segments_append]
  constructor
  · rintro ⟨m₁, m₂, rfl, h, hnil⟩
    rwa [Expr.takes_ofParts_nil.mp hnil, List.append_nil]
  · exact fun h => ⟨m, [], (List.append_nil m).symm, h, Expr.takes_ofParts_nil.mpr rfl⟩

end Pattern

end MarkerSweep
