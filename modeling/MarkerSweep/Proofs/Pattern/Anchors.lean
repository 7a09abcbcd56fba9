import MarkerSweep.Pattern.Regex
/-!
# Line anchors and what a pattern means

Whether `^` and `$` look at line breaks has no bearing on whether a pattern means something, nor on
which fault it has (`Regex.expr_alike`): no fault looks at that switch, and no part of a pattern turns
it into another one. The expressions themselves are not of one shape, though. `^` and `\A` are the
same assertion as long as lines do not count and two different ones as soon as they do, so a choice
may share the beginning of its branches in one reading and not in the other. Nothing is said here of
how much memory the two expressions take.
-/

set_option autoImplicit false

namespace MarkerSweep.Pattern

/-- The same switches, but for line anchors. -/
def Flags.withLines (f : Flags) (lines : Bool) : Flags := { f with multiLine := lines }

/-- A directive says the same about line anchors to both, or leaves them as they differ. -/
theorem Flags.apply_withLines (f : Flags) (lines : Bool) (items : List FlagItem) :
    (f.withLines lines).apply items =
      (f.apply items).withLines ((flagState items .multiLine).getD lines) := rfl

/-! ## Classes -/

section

variable (f : Flags) (lines : Bool)

mutual

theorem ClassItem.chars_withLines : ∀ i : ClassItem, i.chars (f.withLines lines) = i.chars f
  | .empty _ => by rw [ClassItem.chars, ClassItem.chars]
  | .literal _ | .range .. | .ascii _ | .property _ | .short _ => by
    rw [ClassItem.chars, ClassItem.chars]
    rfl
  | .bracketed span negated set => by
    rw [ClassItem.chars, ClassItem.chars, ClassSet.chars_withLines set]
    rfl
  | .union _ items => by
    rw [ClassItem.chars, ClassItem.chars, ClassItem.unionChars_withLines items]

theorem ClassItem.unionChars_withLines : ∀ items : List ClassItem,
    ClassItem.unionChars (f.withLines lines) items = ClassItem.unionChars f items
  | [] => rfl
  | i :: rest => by
    rw [ClassItem.unionChars, ClassItem.unionChars, ClassItem.chars_withLines i,
      ClassItem.unionChars_withLines rest]

theorem ClassSet.chars_withLines : ∀ s : ClassSet, s.chars (f.withLines lines) = s.chars f
  | .item i => by rw [ClassSet.chars, ClassSet.chars, ClassItem.chars_withLines i]
  | .binary _ op lhs rhs => by
    rw [ClassSet.chars, ClassSet.chars, ClassSet.chars_withLines lhs, ClassSet.chars_withLines rhs]
    rfl

end

end

/-! ## Trees -/

/-- Two readings with the same fault, or two that go on with the same switches but for line anchors. -/
inductive Alike {α : Type} : Except Fault (α × Flags) → Except Fault (α × Flags) → Prop
  | fault (e : Fault) : Alike (.error e) (.error e)
  | meaning (a a' : α) (f : Flags) (lines : Bool) : Alike (.ok (a, f)) (.ok (a', f.withLines lines))

namespace Alike

variable {α β : Type} {x y : Except Fault (α × Flags)}

theorem bind {k l : α × Flags → Except Fault (β × Flags)} (h : Alike x y)
    (hkl : ∀ a a' f lines, Alike (k (a, f)) (l (a', f.withLines lines))) :
    Alike (x >>= k) (y >>= l) := by
  cases h with
  | fault e => exact .fault e
  | meaning a a' f lines => exact hkl a a' f lines

/-- What is read without a look at line anchors. -/
theorem of_eq {x y : Except Fault α} {g : α → β} (h : y = x) (f : Flags) (lines : Bool) :
    Alike (x >>= fun a => pure (g a, f)) (y >>= fun a => pure (g a, f.withLines lines)) := by
  rw [h]
  cases x with
  | error e => exact .fault e
  | ok a => exact .meaning _ _ f lines

end Alike

mutual

theorem Ast.meaning_alike : ∀ (a : Ast) (f : Flags) (lines : Bool),
    Alike (a.meaning f) (a.meaning (f.withLines lines))
  | .empty _, f, lines => by
    rw [Ast.meaning, Ast.meaning]
    exact .meaning _ _ f lines
  | .flags _ items, f, lines => by
    rw [Ast.meaning, Ast.meaning, Flags.apply_withLines]
    exact .meaning _ _ _ _
  | .literal _, f, lines | .dot _, f, lines | .property _, f, lines | .short _, f, lines => by
    rw [Ast.meaning, Ast.meaning]
    exact .of_eq rfl f lines
  | .assertion _ _, f, lines => by
    rw [Ast.meaning, Ast.meaning]
    exact .meaning _ _ f lines
  | .bracketed _ _ set, f, lines => by
    rw [Ast.meaning, Ast.meaning, ClassSet.chars_withLines]
    cases set.chars f with
    | error e => exact .fault e
    | ok s => exact .of_eq rfl f lines
  | .repetition _ _ _ body, f, lines => by
    rw [Ast.meaning, Ast.meaning]
    exact (Ast.meaning_alike body f lines).bind fun _ _ f lines => .meaning _ _ f lines
  | .group _ (.flags items) body, f, lines => by
    rw [Ast.meaning, Ast.meaning]
    exact (Ast.meaning_alike body (f.apply items) _).bind fun _ _ _ _ => .meaning _ _ f lines
  | .group _ .capture body, f, lines | .group _ (.named _) body, f, lines => by
    simp only [Ast.meaning]
    exact (Ast.meaning_alike body f lines).bind fun _ _ _ _ => .meaning _ _ f lines
  | .alternation _ branches, f, lines => by
    rw [Ast.meaning, Ast.meaning]
    exact (Ast.meanings_alike branches f lines).bind fun _ _ f lines => .meaning _ _ f lines
  | .concat _ parts, f, lines => by
    rw [Ast.meaning, Ast.meaning]
    exact (Ast.meanings_alike parts f lines).bind fun _ _ f lines => .meaning _ _ f lines

theorem Ast.meanings_alike : ∀ (as : List Ast) (f : Flags) (lines : Bool),
    Alike (Ast.meanings f as) (Ast.meanings (f.withLines lines) as)
  | [], f, lines => .meaning _ _ f lines
  | a :: rest, f, lines => by
    rw [Ast.meanings, Ast.meanings]
    exact (Ast.meaning_alike a f lines).bind fun _ _ f lines =>
      (Ast.meanings_alike rest f lines).bind fun _ _ f lines => .meaning _ _ f lines

end

/-- A pattern means something with line anchors exactly if it does without them, and otherwise has the
same fault in both readings. -/
theorem Regex.expr_alike (pattern : String) (lines : Bool) :
    (∃ e, Regex.expr pattern false = .error e ∧ Regex.expr pattern lines = .error e) ∨
      ∃ e e', Regex.expr pattern false = .ok e ∧ Regex.expr pattern lines = .ok e' := by
  rw [Regex.expr, Regex.expr]
  cases parse pattern.toList with
  | error fault => exact .inl ⟨_, rfl, rfl⟩
  | ok tree =>
    have halike := tree.meaning_alike { multiLine := false } lines
    rw [show Flags.withLines { multiLine := false } lines = { multiLine := lines } from rfl] at halike
    dsimp only
    generalize tree.meaning { multiLine := false } = x at halike
    generalize tree.meaning { multiLine := lines } = y at halike
    cases halike with
    | fault => exact .inl ⟨_, rfl, rfl⟩
    | meaning => exact .inr ⟨_, _, rfl, rfl⟩

end MarkerSweep.Pattern
