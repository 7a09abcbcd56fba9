import Mathlib.Data.List.Induction
import MarkerSweep.Yaml.Decode
/-!
# What a value is read as

A decoder that goes well says something of the document: which text a value spells (`Document.Spells`),
which variant it picks (`Document.Picks`), which entries it has (`Document.HasEntries`), all of it through
aliases (`Document.Denotes`). Each of these has one answer at most. For every decoder there is one lemma
that takes a reading apart (`Reads.of_text`, `Reads.of_optional`, …); for those that go through the
entries of a mapping, it turns what each entry preserves into what holds of all entries read.
-/

set_option autoImplicit false

namespace MarkerSweep.Yaml

/-- The value counts as absent where a value may be absent. -/
def Node.isNothing : Node → Bool
  | .void _ => true
  | .scalar _ s => s.style = .plain && match s.tag with
    | some tag => tag = TagText.null && isNull s.text
    | none => s.text.isEmpty || isNull s.text
  | _ => false

/-- The value is no alias. -/
def Node.Direct (n : Node) : Prop := ∀ mark number, n ≠ .aliasOf mark number

theorem Node.direct_of_isNothing {n : Node} (h : n.isNothing = true) : n.Direct := by
  rintro mark number rfl
  cases h

theorem Node.direct_of_isEmptyCollection {n : Node} (h : Decode.isEmptyCollection n = true) :
    n.Direct := by
  rintro mark number rfl
  cases h

namespace Document

/-! ## Values -/

/-- What a value may be taken for: the value itself and, if it is an alias, what the value with the
anchor may be taken for. -/
inductive Denotes (d : Document) : Node → Node → Prop
  | self (n : Node) : Denotes d n n
  | anchored {mark : Mark} {number : Nat} {target n : Node} : d.target? number = some target →
      Denotes d target n → Denotes d (.aliasOf mark number) n

/-- The value is a scalar with the given text. -/
def Spells (d : Document) (n : Node) (text : String) : Prop :=
  ∃ mark s, d.Denotes n (.scalar mark s) ∧ s.text = text

/-- The value is a scalar that picks a variant, by its tag if that spells a name and else by its text. -/
def Picks (d : Document) (n : Node) (name : String) : Prop :=
  ∃ mark s, d.Denotes n (.scalar mark s) ∧ (Decode.tagName? s.tag).getD s.text = name

/-- The value is a mapping that has just the given entries, or counts as one without entries. -/
inductive HasEntries (d : Document) (n : Node) : List (Node × Node) → Prop
  | mapping {mark : Mark} {tag : Option TagText} {entries : List (Node × Node)} :
      d.Denotes n (.mapping mark tag entries true) → HasEntries d n entries
  | empty {m : Node} : d.Denotes n m → Decode.isEmptyCollection m = true → HasEntries d n []

/-- The last of some entries whose key has a property has the given value. -/
def LastUnder (named : Node → Prop) (entries : List (Node × Node)) (value : Node) : Prop :=
  ∃ before key after, entries = before ++ (key, value) :: after ∧ named key ∧
    ∀ p ∈ after, ¬ named p.1

variable {d : Document} {n m m' : Node}

theorem Denotes.trans (h : d.Denotes n m) (h' : d.Denotes m m') : d.Denotes n m' := by
  induction h with
  | self n => exact h'
  | anchored htarget _ ih => exact .anchored htarget (ih h')

theorem Denotes.unique (h : d.Denotes n m) (h' : d.Denotes n m') (hm : m.Direct)
    (hm' : m'.Direct) : m = m' := by
  induction h with
  | self n =>
    cases h' with
    | self => rfl
    | anchored => exact (hm _ _ rfl).elim
  | anchored htarget _ ih =>
    cases h' with
    | self => exact (hm' _ _ rfl).elim
    | anchored htarget' h' =>
      obtain rfl := Option.some.inj (htarget.symm.trans htarget')
      exact ih h' hm

theorem Denotes.scalar_unique {mark mark' : Mark} {s s' : Scalar}
    (h : d.Denotes n (.scalar mark s)) (h' : d.Denotes n (.scalar mark' s')) : s = s' := by
  have heq := h.unique h' nofun nofun
  injection heq

theorem Spells.unique {a b : String} (ha : d.Spells n a) (hb : d.Spells n b) : a = b := by
  obtain ⟨_, s, hs, rfl⟩ := ha
  obtain ⟨_, s', hs', rfl⟩ := hb
  rw [hs.scalar_unique hs']

theorem Picks.unique {a b : String} (ha : d.Picks n a) (hb : d.Picks n b) : a = b := by
  obtain ⟨_, s, hs, rfl⟩ := ha
  obtain ⟨_, s', hs', rfl⟩ := hb
  rw [hs.scalar_unique hs']

theorem HasEntries.unique {a b : List (Node × Node)} (ha : d.HasEntries n a)
    (hb : d.HasEntries n b) : a = b := by
  cases ha with
  | mapping ha =>
    cases hb with
    | mapping hb =>
      have heq := ha.unique hb nofun nofun
      injection heq
    | empty hb hempty =>
      rw [← ha.unique hb nofun (Node.direct_of_isEmptyCollection hempty)] at hempty
      cases hempty
  | empty ha hempty =>
    cases hb with
    | mapping hb =>
      rw [ha.unique hb (Node.direct_of_isEmptyCollection hempty) nofun] at hempty
      cases hempty
    | empty => rfl

section

variable {named : Node → Prop} {entries : List (Node × Node)} {key value v : Node}

theorem not_lastUnder_nil : ¬ LastUnder named [] v := by
  rintro ⟨before, _, _, h, -⟩
  simp at h

theorem lastUnder_concat : LastUnder named (entries ++ [(key, value)]) v ↔
    (named key ∧ v = value) ∨ (¬ named key ∧ LastUnder named entries v) := by
  constructor
  · rintro ⟨before, k, after, heq, hk, hafter⟩
    rcases after.eq_nil_or_concat with rfl | ⟨after, last, rfl⟩
    · obtain ⟨-, hlast⟩ := List.append_inj' heq rfl
      obtain ⟨rfl, rfl⟩ := Prod.mk.inj (List.cons.inj hlast).1
      exact .inl ⟨hk, rfl⟩
    · rw [List.concat_eq_append] at heq hafter
      rw [← List.cons_append, ← List.append_assoc] at heq
      obtain ⟨rfl, hlast⟩ := List.append_inj' heq rfl
      obtain rfl := (List.cons.inj hlast).1
      refine .inr ⟨hafter (key, value) (by simp), before, k, after, rfl, hk, fun p hp => hafter p ?_⟩
      simp [hp]
  · rintro (⟨hk, rfl⟩ | ⟨hk, before, k, after, rfl, hnamed, hafter⟩)
    · exact ⟨entries, key, [], rfl, hk, nofun⟩
    · refine ⟨before, k, after ++ [(key, value)], by simp, hnamed, fun p hp => ?_⟩
      rcases List.mem_append.mp hp with hp | hp
      · exact hafter p hp
      · obtain rfl := List.mem_singleton.mp hp
        exact hk

theorem LastUnder.unique {v' : Node} (h : LastUnder named entries v)
    (h' : LastUnder named entries v') : v = v' := by
  induction entries using List.reverseRecOn with
  | nil => exact absurd h not_lastUnder_nil
  | append_singleton entries p ih =>
    rcases lastUnder_concat.mp h with ⟨hk, rfl⟩ | ⟨hk, h⟩
    · rcases lastUnder_concat.mp h' with ⟨-, rfl⟩ | ⟨hk', -⟩
      · rfl
      · exact absurd hk hk'
    · rcases lastUnder_concat.mp h' with ⟨hk', -⟩ | ⟨-, h'⟩
      · exact absurd hk' hk
      · exact ih h h'

theorem LastUnder.exists_mem (h : LastUnder named entries v) : ∃ p ∈ entries, named p.1 := by
  obtain ⟨before, k, after, rfl, hk, -⟩ := h
  exact ⟨(k, v), by simp, hk⟩

end

end Document

namespace Decode

variable {α β σ : Type} {d : Document}

/-! ## Readings -/

/-- The decoder takes a value from the document, after some number of aliases. -/
def Reads (x : Decode α) (d : Document) (a : α) : Prop :=
  ∃ followed after, (x.run d).run followed = .ok (a, after)

theorem reads_pure {a b : α} : (pure a : Decode α).Reads d b ↔ b = a := by
  constructor
  · rintro ⟨followed, after, h⟩
    cases h
    rfl
  · rintro rfl
    exact ⟨0, 0, rfl⟩

theorem reads_read {d' : Document} : (read : Decode Document).Reads d d' ↔ d' = d := by
  constructor
  · rintro ⟨followed, after, h⟩
    cases h
    rfl
  · rintro rfl
    exact ⟨0, 0, rfl⟩

theorem not_reads_throw {e : Error} {a : α} : ¬ (throw e : Decode α).Reads d a := by
  rintro ⟨followed, after, h⟩
  cases h

theorem Reads.of_bind {x : Decode α} {f : α → Decode β} {b : β} (h : (x >>= f).Reads d b) :
    ∃ a, x.Reads d a ∧ (f a).Reads d b := by
  obtain ⟨followed, after, h⟩ := h
  rw [ReaderT.run_bind, StateT.run_bind] at h
  cases hx : (x.run d).run followed with
  | error e =>
    rw [hx] at h
    cases h
  | ok answer =>
    rw [hx] at h
    exact ⟨answer.1, ⟨_, _, hx⟩, ⟨_, _, h⟩⟩

theorem Reads.of_map {x : Decode α} {f : α → β} {b : β} (h : (f <$> x).Reads d b) :
    ∃ a, x.Reads d a ∧ b = f a := by
  rw [← bind_pure_comp] at h
  obtain ⟨a, ha, hb⟩ := h.of_bind
  exact ⟨a, ha, reads_pure.mp hb⟩

theorem not_reads_brokenOff {a : α} : ¬ (brokenOff : Decode α).Reads d a := by
  intro h
  obtain ⟨d', -, h⟩ := Reads.of_bind h
  revert h
  cases d'.fault <;> exact not_reads_throw

theorem not_reads_unexpected {n : Node} {expected : String} {a : α} :
    ¬ (unexpected n expected : Decode α).Reads d a := by
  unfold unexpected
  split
  case h_1 => split <;> exact not_reads_throw
  case h_6 => exact not_reads_brokenOff
  all_goals exact not_reads_throw

theorem Reads.of_finish {whole : Bool} {u : Unit} (h : (finish whole).Reads d u) : whole = true := by
  cases whole with
  | false => exact absurd h not_reads_brokenOff
  | true => rfl

theorem Reads.of_located {route : Route} {mark : Mark} {x : Decode α} {a : α}
    (h : (located route mark x).Reads d a) : x.Reads d a := by
  obtain ⟨followed, after, h⟩ := h
  refine ⟨followed, after, ?_⟩
  change tryCatch ((x.run d).run followed) _ = _ at h
  cases hx : (x.run d).run followed with
  | ok answer =>
    rw [hx] at h
    exact h
  | error e =>
    -- The handler only gives the complaint a place: it throws in any case.
    rw [hx] at h
    cases e with
    | unfit c place => cases place <;> cases h
    | _ => cases h

theorem Reads.of_resolve {n m : Node} (h : (resolve n).Reads d m) : d.Denotes n m := by
  unfold resolve at h
  split at h
  · obtain ⟨followed, -, h⟩ := h.of_bind
    obtain ⟨-, -, h⟩ := h.of_bind
    obtain ⟨d', hd, h⟩ := h.of_bind
    obtain rfl := reads_read.mp hd
    dsimp only at h
    by_cases hmany : d'.size * 100 < followed + 1
    · rw [if_pos hmany] at h
      obtain ⟨_, hthrow, _⟩ := h.of_bind
      exact absurd hthrow not_reads_throw
    · rw [if_neg hmany] at h
      split at h
      · obtain rfl := reads_pure.mp h
        exact .anchored ‹_› (.self _)
      · exact absurd h not_reads_throw
  · obtain rfl := reads_pure.mp h
    exact .self _

theorem Reads.of_placed {route : Route} {n : Node} {f : Node → Decode α} {a : α}
    (h : (placed route n f).Reads d a) : ∃ m, d.Denotes n m ∧ (f m).Reads d a := by
  obtain ⟨m, hm, h⟩ := Reads.of_bind h
  refine ⟨m, hm.of_resolve, ?_⟩
  cases m with
  | missing => exact absurd h not_reads_brokenOff
  | _ => exact h.of_located

/-! ## Scalars -/

theorem Reads.of_text {expected : String} {route : Route} {n : Node} {s : String}
    (h : (text expected route n).Reads d s) : d.Spells n s := by
  obtain ⟨m, hm, h⟩ := Reads.of_placed h
  split at h
  · exact ⟨_, _, hm, (reads_pure.mp h).symm⟩
  · exact absurd h not_reads_unexpected

theorem Reads.of_optional {f : Node → Decode α} {n : Node} {o : Option α}
    (h : (optional f n).Reads d o) : ∃ m, d.Denotes n m ∧
      ((m.isNothing = true ∧ o = none) ∨ ∃ a, (f m).Reads d a ∧ o = some a) := by
  obtain ⟨m, hm, h⟩ := Reads.of_bind h
  refine ⟨m, hm.of_resolve, ?_⟩
  split at h
  · exact .inl ⟨rfl, reads_pure.mp h⟩
  · exact absurd h not_reads_brokenOff
  · rename_i mark s
    unfold Node.isNothing
    split at h
    · exact .inr h.of_map
    · split at h
      · split at h
        · exact .inr h.of_map
        · split at h
          · exact .inl ⟨by simp_all, reads_pure.mp h⟩
          · exact absurd h not_reads_throw
      · split at h
        · exact .inl ⟨by simp_all, reads_pure.mp h⟩
        · exact .inr h.of_map
  · exact .inr h.of_map

theorem Reads.of_pick {variants : List (String × α)} {name : String} {a : α}
    (h : (pick variants name).Reads d a) : variants.lookup name = some a := by
  unfold pick at h
  split at h
  · rw [reads_pure.mp h]
    assumption
  · exact absurd h not_reads_throw

theorem Reads.of_variant {variants : List (String × α)} {route : Route} {n : Node} {a : α}
    (h : (variant variants route n).Reads d a) :
    ∃ name, d.Picks n name ∧ variants.lookup name = some a := by
  obtain ⟨m, hm, h⟩ := Reads.of_placed h
  have hunit : ∀ {x : Decode α} {expected : String},
      ¬ (x >>= fun _ => unexpected m expected : Decode α).Reads d a := by
    intro x expected h
    obtain ⟨_, _, h⟩ := h.of_bind
    exact not_reads_unexpected h
  split at h
  · split at h
    · rename_i name htag
      obtain ⟨b, hb, h⟩ := h.of_bind
      split at h
      · obtain rfl := reads_pure.mp h
        exact ⟨name, ⟨_, _, hm, by rw [htag, Option.getD_some]⟩, hb.of_pick⟩
      · exact absurd h not_reads_unexpected
    · rename_i s _ htag
      exact ⟨s.text, ⟨_, _, hm, by rw [htag, Option.getD_none]⟩, h.of_pick⟩
  · split at h
    · exact absurd h hunit
    · exact absurd h not_reads_unexpected
  · split at h
    · exact absurd h hunit
    · exact absurd h not_reads_unexpected
  · exact absurd h not_reads_unexpected

/-! ## Mappings -/

/-- What holds before the first of some entries, and is preserved by reading one more, holds after the
last one. -/
theorem Reads.of_foldEntries {route : Route} {entry : Node → Route → Node → σ → Decode σ} {s s' : σ}
    {earlier entries : List (Node × Node)} (P : List (Node × Node) → σ → Prop)
    (hstep : ∀ {earlier key inner value s s'}, P earlier s →
      (entry key inner value s).Reads d s' → P (earlier ++ [(key, value)]) s')
    (hs : P earlier s) (h : (foldEntries route entry s entries).Reads d s') :
    P (earlier ++ entries) s' := by
  induction entries generalizing earlier s with
  | nil =>
    obtain rfl := reads_pure.mp h
    rwa [List.append_nil]
  | cons e entries ih =>
    obtain ⟨next, hentry, hrest⟩ := Reads.of_bind h
    rw [List.append_cons]
    exact ih (hstep hs hentry) hrest

theorem Reads.of_mapping {expected : String} {entry : Route → Node → Route → Node → σ → Decode σ}
    {done : σ → Decode α} {start : σ} {route : Route} {n : Node} {a : α}
    (P : List (Node × Node) → σ → Prop) (hstart : P [] start)
    (hstep : ∀ {earlier key inner value s s'}, P earlier s →
      (entry route key inner value s).Reads d s' → P (earlier ++ [(key, value)]) s')
    (h : (mapping expected entry done start route n).Reads d a) :
    ∃ entries s, d.HasEntries n entries ∧ P entries s ∧ (done s).Reads d a := by
  obtain ⟨m, hm, h⟩ := Reads.of_placed h
  split at h
  · obtain ⟨s, hfold, h⟩ := h.of_bind
    obtain ⟨_, hwhole, h⟩ := h.of_bind
    obtain rfl := hwhole.of_finish
    exact ⟨_, s, .mapping hm, hfold.of_foldEntries P hstep hstart, h⟩
  · split at h
    · exact ⟨[], start, .empty hm ‹_›, hstart, h⟩
    · exact absurd h not_reads_unexpected

theorem Reads.of_recordEntry {fields : List (Field σ)} {route inner : Route} {key value : Node}
    {s s' : List String × σ} (h : (recordEntry fields route key inner value s).Reads d s') :
    ∃ name, d.Spells key name ∧
      ((fields.find? (·.name = name) = none ∧ s' = s) ∨
        ∃ f a, fields.find? (·.name = name) = some f ∧ name ∉ s.1 ∧
          (f.read inner value s.2).Reads d a ∧ s' = (name :: s.1, a)) := by
  obtain ⟨name, hname, h⟩ := Reads.of_bind h
  refine ⟨name, hname.of_text, ?_⟩
  split at h
  · obtain ⟨_, _, h⟩ := h.of_bind
    exact .inl ⟨‹_›, reads_pure.mp h⟩
  · split at h
    · exact absurd h not_reads_throw
    · rename_i hnew
      obtain ⟨a, ha, h⟩ := h.of_bind
      exact .inr ⟨_, a, ‹_›, by simpa using hnew, ha, reads_pure.mp h⟩

theorem Reads.of_checkFields {fields : List (Field σ)} {s : List String × σ} {a : σ}
    (h : (checkFields fields s).Reads d a) : a = s.2 := by
  unfold checkFields at h
  split at h
  · exact absurd h not_reads_throw
  · exact reads_pure.mp h

/-! ## Texts -/

theorem reads_of_ofText {f : Route → Node → Decode α} {text : String} {a : α}
    (h : ofText f text = .ok a) :
    (f [] (Document.ofText text).root).Reads (Document.ofText text) a := by
  unfold ofText at h
  dsimp only at h
  cases hrun : ((f [] (Document.ofText text).root).run (Document.ofText text)).run 0 with
  | error e =>
    rw [hrun] at h
    cases h
  | ok answer =>
    rw [hrun] at h
    dsimp only [bind, Except.bind] at h
    split at h
    · cases h
    · split at h
      · cases h
      · obtain rfl := Except.ok.inj h
        exact ⟨0, answer.2, hrun⟩

end Decode

end MarkerSweep.Yaml
