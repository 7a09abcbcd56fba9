import MarkerSweep.Pattern.Program
import MarkerSweep.Proofs.Pattern.Ends
/-!
# The code of an expression finds its ends

`Program.Yields` is what a program finds from an instruction and a place when it forgets nothing and
tries every continuation, the preferred one first. It is defined by the program alone and holds of a
list only if the exhaustive trial comes to an end. The main statement about it is that the code of
an expression, followed by anything, yields what that continuation yields from each of the ends of
the expression in turn.

Whatever the code of a sequence or of a repetition looks like, it is read only here, and only once.
`Program.Composes` collects how a statement about stretches of code has to fit together, and whatever
fits together in this way holds of the code of an expression and its ends (`Composes.code`).
-/

set_option autoImplicit false

namespace MarkerSweep.Pattern

namespace Program

/-- The places at which the program accepts when it is started at an instruction and a place, in the
order in which an exhaustive trial finds them. -/
inductive Yields (p : Program) : Nat → Place → List Place → Prop
  | accept {pc : Nat} {q : Place} : p.code[pc]? = some .accept → Yields p pc q [q]
  | jump {pc target : Nat} {q : Place} {l : List Place} :
      p.code[pc]? = some (.jump target) → Yields p target q l → Yields p pc q l
  | split {pc first second : Nat} {q : Place} {l l' : List Place} :
      p.code[pc]? = some (.split first second) → Yields p first q l → Yields p second q l' →
        Yields p pc q (l ++ l')
  | consume {pc : Nat} {s : Unicode.CharSet} {b : Option Char} {c : Char} {r : List Char}
      {l : List Place} :
      p.code[pc]? = some (.consume s) → s.contains c = true → Yields p (pc + 1) ⟨some c, r⟩ l →
        Yields p pc ⟨b, c :: r⟩ l
  | refuse {pc : Nat} {s : Unicode.CharSet} {q : Place} :
      p.code[pc]? = some (.consume s) → (∀ c ∈ q.rest.head?, s.contains c = false) →
        Yields p pc q []
  | holds {pc : Nat} {a : Look} {q : Place} {l : List Place} :
      p.code[pc]? = some (.look a) → a.holds q.before q.rest.head? = true →
        Yields p (pc + 1) q l → Yields p pc q l
  | fails {pc : Nat} {a : Look} {q : Place} :
      p.code[pc]? = some (.look a) → a.holds q.before q.rest.head? = false → Yields p pc q []

/-- A program yields one list only. -/
theorem Yields.unique {p : Program} {pc : Nat} {q : Place} {l l' : List Place}
    (h : p.Yields pc q l) (h' : p.Yields pc q l') : l = l' := by
  induction h generalizing l' with
  | accept hc => cases h' <;> simp_all
  | jump hc _ ih =>
    cases h' with
    | jump hc' h' =>
      rw [hc, Option.some.injEq, Instr.jump.injEq] at hc'
      exact ih (hc' ▸ h')
    | _ => simp_all
  | split hc _ _ ih ih' =>
    cases h' with
    | split hc' h₁ h₂ =>
      rw [hc, Option.some.injEq, Instr.split.injEq] at hc'
      rw [ih (hc'.1 ▸ h₁), ih' (hc'.2 ▸ h₂)]
    | _ => simp_all
  | consume hc hs _ ih =>
    cases h' with
    | consume _ _ h' => exact ih h'
    | refuse hc' hn => simp_all
    | _ => simp_all
  | refuse hc hn =>
    cases h' with
    | consume hc' hs _ => simp_all
    | refuse => rfl
    | _ => simp_all
  | holds hc ha _ ih =>
    cases h' with
    | holds _ _ h' => exact ih h'
    | _ => simp_all
  | fails hc ha =>
    cases h' with
    | fails => rfl
    | _ => simp_all

/-! ## Code at an address -/

/-- Some instructions stand in the program from an address on. -/
def Placed (p : Program) (base : Nat) (is : List Instr) : Prop := is <+: p.code.toList.drop base

namespace Placed

variable {p : Program} {base : Nat}

theorem head {i : Instr} {is : List Instr} (h : p.Placed base (i :: is)) :
    p.code[base]? = some i := by
  obtain ⟨t, ht⟩ := h
  have hd : (p.code.toList.drop base)[0]? = some i := by rw [← ht]; rfl
  rw [List.getElem?_drop] at hd
  simpa using hd

theorem left {is js : List Instr} (h : p.Placed base (is ++ js)) : p.Placed base is :=
  (List.prefix_append is js).trans h

theorem right {is js : List Instr} (h : p.Placed base (is ++ js)) :
    p.Placed (base + is.length) js := by
  obtain ⟨t, ht⟩ := h
  refine ⟨t, ?_⟩
  rw [← List.drop_drop, ← ht, List.append_assoc, List.drop_left]

theorem tail {i : Instr} {is : List Instr} (h : p.Placed base (i :: is)) :
    p.Placed (base + 1) is := by
  have h' : p.Placed base ([i] ++ is) := h
  exact h'.right

theorem length_blocks {size : Nat} {f : Nat → List Instr} (hf : ∀ i, (f i).length = size)
    (n : Nat) :
    ((List.range n).flatMap f).length = n * size := by
  simp [List.length_flatMap, hf]

/-- Of blocks of one size each is placed where the blocks before it end. -/
theorem block {size : Nat} {f : Nat → List Instr} (hf : ∀ i, (f i).length = size) :
    ∀ {n : Nat}, p.Placed base ((List.range n).flatMap f) →
      ∀ i < n, p.Placed (base + i * size) (f i)
  | 0, _, i, hi => absurd hi (Nat.not_lt_zero i)
  | n + 1, h, i, hi => by
    rw [List.range_succ, List.flatMap_append, List.flatMap_singleton] at h
    rcases Nat.lt_succ_iff_lt_or_eq.mp hi with hi | rfl
    · exact block hf h.left i hi
    · simpa [length_blocks hf] using h.right

end Placed

end Program

theorem Expr.length_code : ∀ (e : Expr) (base : Nat), (e.code base).length = e.size := by
  intro e
  induction e with
  | empty | set _ | look _ => intro; rfl
  | group e ih => exact ih
  | seq a b iha ihb => intro base; simp [code, size, iha, ihb]
  | alt a b iha ihb => intro base; simp [code, size, iha, ihb]; omega
  | rep least most? greedy body ih =>
    intro base
    cases most? with
    | some most => simp [code, size, ih, List.length_flatMap]
    | none =>
      cases least with
      | zero => simp [code, size, ih]
      | succ least => simp [code, size, ih, List.length_flatMap]

/-! ## Stretches of code -/

/-- A property of the bodies of the unbounded repetitions in an expression. -/
def Expr.Loops (P : (Place → List Place) → Prop) : Expr → Prop
  | empty | set _ | look _ => True
  | group e => e.Loops P
  | seq a b | alt a b => a.Loops P ∧ b.Loops P
  | rep _ (some _) _ body => body.Loops P
  | rep _ none _ body => P body.ends ∧ body.Loops P

namespace Program

/-- A statement about the code between two addresses and the places to which it leads, in order, that
fits together as code does. In a loop every round has to satisfy a condition. -/
structure Composes (p : Program) (C : Nat → Nat → (Place → List Place) → Prop)
    (P : (Place → List Place) → Prop) : Prop where
  nothing : ∀ base, C base base fun q => [q]
  trans : ∀ {base mid exit : Nat} {step step' : Place → List Place}, C base mid step →
    C mid exit step' → C base exit fun q => (step q).flatMap step'
  set : ∀ {pc : Nat} {s : Unicode.CharSet}, p.code[pc]? = some (.consume s) →
    C pc (pc + 1) (Expr.set s).ends
  look : ∀ {pc : Nat} {a : Look}, p.code[pc]? = some (.look a) → C pc (pc + 1) (Expr.look a).ends
  jump : ∀ {pc target : Nat}, p.code[pc]? = some (.jump target) → C pc target fun q => [q]
  split : ∀ {pc first second exit : Nat} {step step' : Place → List Place},
    p.code[pc]? = some (.split first second) → C first exit step → C second exit step' →
      C pc exit fun q => step q ++ step' q
  /-- The body leads back to the fork before it. -/
  loop : ∀ {g : Bool} {pc body exit : Nat} {step : Place → List Place}, P step →
    p.code[pc]? = some (fork g body exit) → C body pc step →
      C pc exit fun q => loopEnds g step q.rest.length q
  /-- One round and then a loop, or nothing, is a loop. -/
  unroll : ∀ {g : Bool} {base exit : Nat} {step : Place → List Place}, P step →
    (C base exit fun q =>
      if g then (step q).flatMap (fun r => loopEnds g step r.rest.length r) ++ [q]
      else q :: (step q).flatMap fun r => loopEnds g step r.rest.length r) →
    C base exit fun q => loopEnds g step q.rest.length q

namespace Composes

variable {p : Program} {C : Nat → Nat → (Place → List Place) → Prop}
  {P : (Place → List Place) → Prop} {step : Place → List Place} (hC : p.Composes C P)

include hC

/-- A fork goes to the body of a loop or to its end, whichever is preferred. -/
theorem fork {g : Bool} {pc body exit : Nat} (hc : p.code[pc]? = some (fork g body exit))
    (hb : C body exit step) : C pc exit fun q => if g then step q ++ [q] else q :: step q := by
  cases g
  · exact hC.split hc (hC.nothing exit) hb
  · exact hC.split hc hb (hC.nothing exit)

/-- Mandatory rounds, one after another. -/
theorem rounds {start size : Nat} : ∀ (n : Nat),
    (∀ i < n, C (start + i * size) (start + (i + 1) * size) step) →
      C start (start + n * size) (roundsEnds step n)
  | 0, _ => by
    rw [Nat.zero_mul, Nat.add_zero]
    exact hC.nothing start
  | n + 1, h => by
    have hfirst : C start (start + size) step := by simpa using h 0 (Nat.succ_pos n)
    have hrest : C (start + size) (start + size + n * size) (roundsEnds step n) := by
      refine rounds n fun i hi => ?_
      have := h (i + 1) (Nat.succ_lt_succ hi)
      rwa [Nat.succ_mul, Nat.succ_mul (i + 1), Nat.add_comm _ size, Nat.add_comm _ size,
        ← Nat.add_assoc, ← Nat.add_assoc] at this
    rw [Nat.succ_mul, Nat.add_comm _ size, ← Nat.add_assoc]
    exact hC.trans hfirst hrest

/-- Optional rounds, each behind a fork of its own. -/
theorem optional {g : Bool} {size : Nat} : ∀ (n start : Nat),
    (∀ i < n, p.code[start + i * (size + 1)]? =
      some (Pattern.fork g (start + i * (size + 1) + 1) (start + n * (size + 1)))) →
    (∀ i < n, C (start + i * (size + 1) + 1) (start + (i + 1) * (size + 1)) step) →
      C start (start + n * (size + 1)) (loopEnds g step n)
  | 0, start, _, _ => by
    rw [Nat.zero_mul, Nat.add_zero]
    exact hC.nothing start
  | n + 1, start, hc, hb => by
    have hshift : ∀ i, start + (i + 1) * (size + 1) = start + (size + 1) + i * (size + 1) := by
      intro i
      rw [Nat.succ_mul]
      omega
    have hrest : C (start + (size + 1)) (start + (size + 1) + n * (size + 1))
        (loopEnds g step n) := optional n (start + (size + 1))
      (fun i hi => by simpa only [hshift] using hc (i + 1) (Nat.succ_lt_succ hi))
      (fun i hi => by simpa only [hshift] using hb (i + 1) (Nat.succ_lt_succ hi))
    have hround : C (start + 1) (start + (size + 1)) step := by
      simpa using hb 0 (Nat.succ_pos n)
    have hfork : p.code[start]? = some (Pattern.fork g (start + 1) (start + (n + 1) * (size + 1))) := by
      simpa using hc 0 (Nat.succ_pos n)
    rw [← hshift] at hrest
    exact hC.fork hfork (hC.trans hround hrest)

section Repetition

variable {body : Expr} {base least : Nat} {greedy : Bool}
  (hbody : ∀ base, p.Placed base (body.code base) → C base (base + body.size) body.ends)

include hbody

omit hC in
/-- Copies of the code of a body, one after another. -/
theorem copies {n : Nat}
    (hp : p.Placed base ((List.range n).flatMap fun i => body.code (base + i * body.size))) :
    ∀ i < n, C (base + i * body.size) (base + (i + 1) * body.size) body.ends := by
  intro i hi
  have := hbody _ (hp.block (fun i => body.length_code (base + i * body.size)) i hi)
  rwa [Nat.add_assoc, ← Nat.succ_mul] at this

/-- With an upper bound every optional round has a fork and a copy of its own. -/
theorem rep_most {most : Nat}
    (hp : p.Placed base ((Expr.rep least (some most) greedy body).code base)) :
    C base (base + (Expr.rep least (some most) greedy body).size)
      (Expr.rep least (some most) greedy body).ends := by
  simp only [Expr.code] at hp
  have hforks := hp.right
  rw [Placed.length_blocks fun i => body.length_code (base + i * body.size)] at hforks
  replace hforks := hforks.block fun i => show List.length _ = body.size + 1 by
    simp [Expr.length_code]
  have hopt := hC.optional (most - least) (base + least * body.size)
    (fun i hi => (hforks i hi).head) fun i hi => by
      have hnext : base + least * body.size + (i + 1) * (body.size + 1) =
          base + least * body.size + i * (body.size + 1) + 1 + body.size := by
        rw [Nat.succ_mul]
        omega
      exact hnext ▸ hbody _ (hforks i hi).tail
  have := hC.trans (hC.rounds least (copies hbody hp.left)) hopt
  rwa [Nat.add_assoc] at this

/-- Without mandatory rounds the body jumps back to the fork before it, or ends with a fork that
leads back to the body. -/
theorem rep_star (hP : P body.ends) (hp : p.Placed base ((Expr.rep 0 none greedy body).code base)) :
    C base (base + (Expr.rep 0 none greedy body).size) (Expr.rep 0 none greedy body).ends := by
  have hends : (Expr.rep 0 none greedy body).ends =
      fun q => loopEnds greedy body.ends q.rest.length q := by
    funext q
    simp [Expr.ends, roundsEnds]
  rw [hends]
  simp only [Expr.code] at hp
  have hround := hbody _ hp.tail.left
  have hback := hp.tail.right.head
  rw [Expr.length_code] at hback
  split at hback
  · exact hC.loop hP hp.head (by simpa using hC.trans hround (hC.jump hback))
  · exact hC.unroll hP (hC.fork hp.head (hC.trans hround (hC.loop hP hback hround)))

/-- With mandatory rounds the fork stands behind the last of them and leads back to it. -/
theorem rep_succ (hP : P body.ends)
    (hp : p.Placed base ((Expr.rep (least + 1) none greedy body).code base)) :
    C base (base + (Expr.rep (least + 1) none greedy body).size)
      (Expr.rep (least + 1) none greedy body).ends := by
  simp only [Expr.code, Nat.add_sub_cancel] at hp
  have hfork := hp.right.head
  rw [Placed.length_blocks fun i => body.length_code (base + i * body.size)] at hfork
  have hcopies := copies hbody hp.left
  have hloop := hC.loop hP hfork (hcopies least (Nat.lt_succ_self least))
  have := hC.trans (hC.rounds (least + 1) hcopies) hloop
  rwa [Nat.add_assoc] at this

end Repetition

/-- What fits together holds of the code of an expression and its ends. -/
theorem code : ∀ (e : Expr), e.Loops P → ∀ base, p.Placed base (e.code base) →
    C base (base + e.size) e.ends := by
  intro e
  induction e with
  | empty => exact fun _ base _ => hC.nothing base
  | set s => exact fun _ base hp => hC.set hp.head
  | look a => exact fun _ base hp => hC.look hp.head
  | group e ih => exact ih
  | seq a b iha ihb =>
    -- the second part stands right behind the first
    intro hl base hp
    have hpb := hp.right
    rw [Expr.length_code] at hpb
    have := hC.trans (iha hl.1 base hp.left) (ihb hl.2 _ hpb)
    rwa [Nat.add_assoc] at this
  | alt a b iha ihb =>
    intro hl base hp
    have hpj := hp.tail.right
    rw [Expr.length_code] at hpj
    have hpb := hpj.tail
    have hbase : base + 1 + a.size + 1 = base + a.size + 2 := by omega
    have hexit : base + (Expr.alt a b).size = base + a.size + 2 + b.size := by
      rw [Expr.size]
      omega
    rw [hbase] at hpb
    -- the first branch ends with a jump over the second
    have hfirst := hC.trans (iha hl.1 _ hp.tail.left) (hC.jump hpj.head)
    simp only [List.flatMap_singleton'] at hfirst
    rw [hexit]
    exact hC.split hp.head hfirst (ihb hl.2 _ hpb)
  | rep least most? greedy body ih =>
    intro hl base hp
    cases most? with
    | some most => exact hC.rep_most (ih hl) hp
    | none =>
      cases least with
      | zero => exact hC.rep_star (ih hl.2) hl.1 hp
      | succ least => exact hC.rep_succ (ih hl.2) hl.1 hp

end Composes

/-! ## What a stretch of code yields -/

variable {p : Program} {step : Place → List Place}

/-- The code between two addresses goes from a place to the places that `step` lists, in that order,
and leaves the rest to what stands at its end. -/
def Codes (p : Program) (base exit : Nat) (step : Place → List Place) : Prop :=
  ∀ (q : Place) (k : Place → List Place), (∀ r ∈ step q, p.Yields exit r (k r)) →
    p.Yields base q ((step q).flatMap k)

/-- Every round takes a character. -/
def Shortens (step : Place → List Place) : Prop := ∀ q, ∀ r ∈ step q, r.rest.length < q.rest.length

/-- A loop whose body leads back to its fork. The induction is on the characters left, which every
round makes fewer. -/
theorem codes_loop {g : Bool} {pc body exit : Nat} (hs : Shortens step)
    (hc : p.code[pc]? = some (fork g body exit)) (hb : p.Codes body pc step) :
    p.Codes pc exit fun q => loopEnds g step q.rest.length q := by
  intro q
  induction hn : q.rest.length using Nat.strongRecOn generalizing q with
  | _ n ih =>
    subst hn
    intro k hk
    simp only [loopEnds_unroll hs q] at hk ⊢
    have hexit : p.Yields exit q (k q) := hk q (by cases g <;> simp)
    have hmore := hb q (fun r => (loopEnds g step r.rest.length r).flatMap k) fun r hr => by
      refine ih _ (hs q r hr) r rfl k fun x hx => hk x ?_
      have hx : x ∈ (step q).flatMap fun r => loopEnds g step r.rest.length r :=
        List.mem_flatMap.mpr ⟨r, hr, hx⟩
      cases g
      · exact List.mem_cons_of_mem _ hx
      · exact List.mem_append_left _ hx
    rw [← List.flatMap_assoc] at hmore
    cases g
    · simpa using Yields.split hc hexit hmore
    · simpa using Yields.split hc hmore hexit

theorem codes_composes (p : Program) : p.Composes p.Codes Shortens where
  nothing base q k hk := by simpa using hk q (List.mem_singleton_self q)
  trans h h' q k hk := by
    rw [List.flatMap_assoc]
    exact h q _ fun r hr => h' r k fun x hx => hk x (List.mem_flatMap.mpr ⟨r, hr, hx⟩)
  set := by
    rintro pc s hc ⟨b, _ | ⟨c, r⟩⟩ k hk
    · exact .refuse hc (by simp)
    · by_cases hs : s.contains c = true
      · have := hk ⟨some c, r⟩ (by simp [Expr.ends, hs])
        simpa [Expr.ends, hs] using Yields.consume hc hs this
      · simpa [Expr.ends, hs] using Yields.refuse (q := ⟨b, c :: r⟩) hc (by simpa using hs)
  look := by
    intro pc a hc q k hk
    by_cases ha : a.holds q.before q.rest.head? = true
    · have := hk q (by simp [Expr.ends, ha])
      simpa [Expr.ends, ha] using Yields.holds hc ha this
    · simpa [Expr.ends, ha] using Yields.fails (q := q) hc (by simpa using ha)
  jump hc q k hk := by simpa using Yields.jump hc (hk q (List.mem_singleton_self q))
  split hc h h' q k hk := by
    rw [List.flatMap_append]
    exact .split hc (h q k fun r hr => hk r (List.mem_append_left _ hr))
      (h' q k fun r hr => hk r (List.mem_append_right _ hr))
  loop := codes_loop
  unroll hs h := by
    rw [funext (loopEnds_unroll hs)]
    exact h

end Program

namespace Expr

open Program

theorem loops_of_loopsConsume : ∀ {e : Expr}, e.loopsConsume = true → e.Loops Shortens := by
  intro e
  induction e with
  | empty | set _ | look _ => exact fun _ => trivial
  | group e ih => exact ih
  | seq a b iha ihb | alt a b iha ihb =>
    intro he
    simp only [loopsConsume, Bool.and_eq_true] at he
    exact ⟨iha he.1, ihb he.2⟩
  | rep least most? greedy body ih =>
    cases most? with
    | some most => exact ih
    | none =>
      intro he
      simp only [loopsConsume, Bool.and_eq_true] at he
      exact ⟨fun _ _ => length_lt_of_mem_ends he.1, ih he.2⟩

/-- The code of the expression stands at the start of its program, and `accept` behind it. -/
theorem placed_ofExpr (e : Expr) : (Program.ofExpr e).Placed 0 (e.code 0 ++ [Instr.accept]) := by
  simp [Program.ofExpr, Program.Placed]

theorem getElem?_accept (e : Expr) : (Program.ofExpr e).code[0 + e.size]? = some .accept := by
  have hacc := e.placed_ofExpr.right.head
  rwa [length_code] at hacc

/-- The whole program yields exactly the ends of its expression. -/
theorem yields_ofExpr {e : Expr} (he : e.loopsConsume = true) (q : Place) :
    (Program.ofExpr e).Yields 0 q (e.ends q) := by
  have hcode := (codes_composes (.ofExpr e)).code e (loops_of_loopsConsume he) 0 e.placed_ofExpr.left
  have := hcode q (fun r => [r]) fun r _ => .accept e.getElem?_accept
  simpa using this

end Expr

end MarkerSweep.Pattern
