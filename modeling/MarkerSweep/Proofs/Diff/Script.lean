import MarkerSweep.Diff.Compact
import MarkerSweep.Diff.Compare
/-!
# Scripts lead from one list to another

Comparing two lists gives a script that starts from the one and leads to the other, wherever the
search splits them: the place of a split decides how long the script is, never where it leads
(`sides_compare`). Moving edits together changes neither end. An edit that moves past kept items,
meets another edit of its kind or swaps places with one of the other kind leaves both sides of the
script as they were, and `SameSides` is kept under whatever stands around the edit, so the walks up
and down the script follow from these three steps (`sides_compact`).
-/

set_option autoImplicit false

namespace MarkerSweep.Diff

variable {α : Type}

/-! ## The two sides of a script -/

@[simp] theorem oldSide_nil : oldSide ([] : List (Edit α)) = [] := rfl

@[simp] theorem newSide_nil : newSide ([] : List (Edit α)) = [] := rfl

@[simp] theorem oldSide_cons (e : Edit α) (s : List (Edit α)) :
    oldSide (e :: s) = e.old ++ oldSide s := List.flatMap_cons

@[simp] theorem newSide_cons (e : Edit α) (s : List (Edit α)) :
    newSide (e :: s) = e.new ++ newSide s := List.flatMap_cons

@[simp] theorem oldSide_append (s t : List (Edit α)) :
    oldSide (s ++ t) = oldSide s ++ oldSide t := List.flatMap_append

@[simp] theorem newSide_append (s t : List (Edit α)) :
    newSide (s ++ t) = newSide s ++ newSide t := List.flatMap_append

attribute [simp] Edit.old Edit.new

/-- Both scripts start from the same list and lead to the same list. -/
def SameSides (s t : List (Edit α)) : Prop := oldSide s = oldSide t ∧ newSide s = newSide t

namespace SameSides

variable {s s' t t' u : List (Edit α)}

theorem refl (s : List (Edit α)) : SameSides s s := ⟨rfl, rfl⟩

theorem trans (h : SameSides s t) (h' : SameSides t u) : SameSides s u :=
  ⟨h.1.trans h'.1, h.2.trans h'.2⟩

theorem symm (h : SameSides s t) : SameSides t s := ⟨h.1.symm, h.2.symm⟩

theorem append (h : SameSides s s') (h' : SameSides t t') : SameSides (s ++ t) (s' ++ t') := by
  constructor
  · rw [oldSide_append, oldSide_append, h.1, h'.1]
  · rw [newSide_append, newSide_append, h.2, h'.2]

/-- What stands around the part of a script that changes does not matter. -/
theorem around (h : SameSides s t) (front back : List (Edit α)) :
    SameSides (front ++ (s ++ back)) (front ++ (t ++ back)) :=
  (refl front).append (h.append (refl back))

end SameSides

/-! ## Comparing -/

theorem sides_keep? (items : List α) : SameSides (Edit.keep? items) [.keep items] := by
  cases items with
  | nil => exact ⟨rfl, rfl⟩
  | cons => exact SameSides.refl _

/-- Whatever is done between a shared front and a shared back leads from the whole of one list to the
whole of the other. -/
theorem sides_between {front back old new : List α} {middle : List (Edit α)}
    (h : oldSide middle = old ∧ newSide middle = new) :
    oldSide (Edit.keep? front ++ middle ++ Edit.keep? back) = front ++ (old ++ back) ∧
      newSide (Edit.keep? front ++ middle ++ Edit.keep? back) = front ++ (new ++ back) := by
  have hfront := sides_keep? front
  have hback := sides_keep? back
  simp [hfront.1, hfront.2, hback.1, hback.2, h.1, h.2]

section Compare

variable [DecidableEq α]

theorem sharedFront_prefix : ∀ a b : List α, sharedFront a b <+: a ∧ sharedFront a b <+: b
  | [], _ => by simp [sharedFront]
  | _ :: _, [] => by simp [sharedFront]
  | a :: as, b :: bs => by
    by_cases h : a = b
    · simpa [sharedFront, h] using sharedFront_prefix as bs
    · simp [sharedFront, h]

theorem sharedFront_self : ∀ a : List α, sharedFront a a = a
  | [] => rfl
  | a :: as => by rw [sharedFront, if_pos rfl, sharedFront_self as]

/-- The parts of two lists make up the lists. -/
theorem trim_eq (old new : List α) :
    (trim old new).front ++ ((trim old new).old ++ (trim old new).back) = old ∧
      (trim old new).front ++ ((trim old new).new ++ (trim old new).back) = new := by
  rw [trim]
  obtain ⟨hfrontOld, hfrontNew⟩ := sharedFront_prefix old new
  rw [List.prefix_iff_eq_append] at hfrontOld hfrontNew
  generalize sharedFront old new = front at *
  generalize old.drop front.length = old' at *
  generalize new.drop front.length = new' at *
  obtain ⟨hbackOld, hbackNew⟩ := sharedFront_prefix old'.reverse new'.reverse
  rw [← List.reverse_suffix, List.reverse_reverse, List.suffix_iff_eq_append] at hbackOld hbackNew
  rw [hbackOld, hbackNew, hfrontOld, hfrontNew]
  exact ⟨rfl, rfl⟩

/-- Comparing leads from the one list to the other if comparing the halves does, and a split may be
anywhere. -/
theorem sides_compareBy {halves : List α → List α → List (Edit α)}
    (h : ∀ old new, oldSide (halves old new) = old ∧ newSide (halves old new) = new)
    (old new : List α) :
    oldSide (compareBy halves old new) = old ∧ newSide (compareBy halves old new) = new := by
  rw [compareBy]
  obtain ⟨hold, hnew⟩ := trim_eq old new
  generalize trim old new = t at *
  rw [← hold, ← hnew]
  refine sides_between ?_
  -- what is left is compared in one of four ways
  split
  · simp_all
  · split
    · simp_all
    · split
      · simp_all
      · simp [h]

theorem sides_compareFrom (fuel : Nat) (old new : List α) :
    oldSide (compareFrom fuel old new) = old ∧ newSide (compareFrom fuel old new) = new := by
  induction fuel generalizing old new with
  | zero => simp [compareFrom]
  | succ fuel ih => exact sides_compareBy ih old new

/-- Comparing leads from the one list to the other. -/
theorem sides_compare (old new : List α) :
    oldSide (compare old new) = old ∧ newSide (compare old new) = new := sides_compareFrom _ old new

theorem compare_self (l : List α) : compare l l = Edit.keep? l := by
  simp [compare, compareFrom, compareBy, trim, sharedFront_self, Edit.keep?]

end Compare

/-! ## The three ways to move an edit -/

theorem eq_edit_of_items? {c : Change} {e : Edit α} {items : List α} (h : c.items? e = some items) :
    e = c.edit items := by
  cases e <;> cases c <;> simp_all [Change.items?, Change.edit]

/-- An edit may swap places with one of the other kind, for they belong to different sides. -/
theorem sides_swap {c : Change} {e : Edit α} (hkeep : ∀ kept, e ≠ .keep kept)
    (h : c.items? e = none) (items : List α) : SameSides [c.edit items, e] [e, c.edit items] := by
  cases e with
  | keep kept => exact absurd rfl (hkeep kept)
  | delete | insert => cases c <;> simp_all [SameSides, Change.items?, Change.edit]

/-- Two edits of a kind in a row are one edit. -/
theorem sides_join (c : Change) (items more : List α) :
    SameSides [c.edit (items ++ more)] [c.edit items, c.edit more] := by
  cases c <;> simp [SameSides, Change.edit]

@[simp] theorem oldSide_keepBefore (items : List α) (s : List (Edit α)) :
    oldSide (keepBefore items s) = items ++ oldSide s := by
  unfold keepBefore
  split <;> simp

@[simp] theorem newSide_keepBefore (items : List α) (s : List (Edit α)) :
    newSide (keepBefore items s) = items ++ newSide s := by
  unfold keepBefore
  split <;> simp

@[simp] theorem oldSide_keepAfter (items : List α) (s : List (Edit α)) :
    oldSide (keepAfter items s).reverse = oldSide s.reverse ++ items := by
  unfold keepAfter
  split <;> simp

@[simp] theorem newSide_keepAfter (items : List α) (s : List (Edit α)) :
    newSide (keepAfter items s).reverse = newSide s.reverse ++ items := by
  unfold keepAfter
  split <;> simp

section Compact

variable [DecidableEq α]

/-- An edit whose last item is the kept one before it may stand one place higher instead. -/
theorem sides_passUp (c : Change) (items passed kept : List α) :
    SameSides
      [.keep (passUp items passed kept).1.reverse, c.edit (passUp items passed kept).2.1,
        .keep (passUp items passed kept).2.2]
      [.keep kept.reverse, c.edit items, .keep passed] := by
  induction kept generalizing items passed with
  | nil => exact SameSides.refl _
  | cons k kept ih =>
    rw [passUp]
    split
    · rename_i hlast
      obtain ⟨items, rfl⟩ := List.getLast?_eq_some_iff.mp hlast
      refine (ih _ _).trans ?_
      cases c <;> simp [SameSides, Change.edit]
    · exact SameSides.refl _

/-- An edit whose first item is the kept one after it may stand one place lower instead. -/
theorem sides_passDown (c : Change) (items passed kept : List α) :
    SameSides
      [.keep (passDown items passed kept).2.2.reverse, c.edit (passDown items passed kept).2.1,
        .keep (passDown items passed kept).1]
      [.keep passed.reverse, c.edit items, .keep kept] := by
  induction kept generalizing items passed with
  | nil => exact SameSides.refl _
  | cons k kept ih =>
    cases items with
    | nil => exact SameSides.refl _
    | cons i items =>
      rw [passDown]
      split
      · rename_i heq
        subst heq
        refine (ih _ _).trans ?_
        cases c <;> simp [SameSides, Change.edit]
      · exact SameSides.refl _

/-! ## Walking up and down -/

/-- The script in which an edit on its way stands. -/
def Moving.script (m : Moving α) (c : Change) : List (Edit α) :=
  m.above.reverse ++ c.edit m.items :: m.below

theorem sides_moveUp (c : Change) (items : List α) (below above : List (Edit α)) :
    SameSides ((moveUp c items below above).script c) (above.reverse ++ c.edit items :: below) := by
  fun_induction moveUp c items below above with
  | case1 => exact SameSides.refl _
  | case2 items below kept above left items' passed hpass below' hleft ih =>
    have hup := sides_passUp c items [] kept.reverse
    rw [hpass, List.isEmpty_iff.mp hleft] at hup
    refine (ih.trans ?_).trans (hup.around above.reverse below |>.trans ?_)
    · simp [SameSides, below']
    · simp [SameSides]
  | case3 items below kept above left items' passed hpass below' hleft =>
    have hup := sides_passUp c items [] kept.reverse
    rw [hpass] at hup
    refine SameSides.trans ?_ (hup.around above.reverse below |>.trans ?_)
    · simp [SameSides, Moving.script, below']
    · simp [SameSides]
  | case4 items below e above hkeep more he ih =>
    obtain rfl := eq_edit_of_items? he
    refine (ih.trans ((sides_join c more items).around above.reverse below)).trans ?_
    simp [SameSides]
  | case5 items below e above hkeep he ih =>
    refine (ih.trans ((sides_swap hkeep he items).around above.reverse below)).trans ?_
    simp [SameSides]

theorem sides_moveDown (c : Change) (items : List α) (above below : List (Edit α)) :
    SameSides ((moveDown c items above below).script c) (above.reverse ++ c.edit items :: below) := by
  fun_induction moveDown c items above below with
  | case1 => exact SameSides.refl _
  | case2 items above kept below left items' passed hpass above' hleft ih =>
    have hdown := sides_passDown c items [] kept
    rw [hpass, List.isEmpty_iff.mp hleft] at hdown
    refine (ih.trans ?_).trans (hdown.around above.reverse below |>.trans ?_)
    · simp [SameSides, above']
    · simp [SameSides]
  | case3 items above kept below left items' passed hpass above' hleft =>
    have hdown := sides_passDown c items [] kept
    rw [hpass] at hdown
    refine SameSides.trans ?_ (hdown.around above.reverse below |>.trans ?_)
    · simp [SameSides, Moving.script, above']
    · simp [SameSides]
  | case4 items above e below hkeep more he ih =>
    obtain rfl := eq_edit_of_items? he
    exact ih.trans ((sides_join c items more).around above.reverse below)
  | case5 items above e below hkeep he ih =>
    have hswap := (sides_swap hkeep he items).around above.reverse below
    refine ih.trans (SameSides.trans ?_ hswap.symm)
    simp [SameSides]

theorem sides_compactFrom (c : Change) (fuel : Nat) (above below : List (Edit α)) :
    SameSides (compactFrom c fuel above below) (above.reverse ++ below) := by
  fun_induction compactFrom c fuel above below with
  | case1 => simp [SameSides]
  | case2 => exact SameSides.refl _
  | case3 fuel above e below items he up down ih =>
    obtain rfl := eq_edit_of_items? he
    have hdown := sides_moveDown c up.items up.above up.below
    have hup := sides_moveUp c items below above
    refine (ih.trans ?_).trans (hdown.trans hup)
    simp [SameSides, Moving.script, down]
  | case4 fuel above e below he ih =>
    refine ih.trans ?_
    simp [SameSides]

/-- Moving edits together changes neither side of a script. -/
theorem sides_compact (s : List (Edit α)) : SameSides (compact s) s :=
  (sides_compactFrom .insert _ [] _).trans (sides_compactFrom .delete _ [] s)

theorem compact_keep? (l : List α) : compact (Edit.keep? l) = Edit.keep? l := by
  cases l <;> rfl

end Compact

end MarkerSweep.Diff
