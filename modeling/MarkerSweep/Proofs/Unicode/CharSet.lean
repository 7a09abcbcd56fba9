import MarkerSweep.Unicode.Classes
/-!
# Members of character sets

The sets that the built-in patterns use, read as conditions on a character.
-/

set_option autoImplicit false

namespace MarkerSweep.Unicode

namespace CharSet

theorem exists_of_within {n : Nat} : ∀ {rs : List (Nat × Nat)}, within n rs = true →
    ∃ r ∈ rs, r.1 ≤ n ∧ n ≤ r.2
  | [], h => by simp [within] at h
  | (lo, hi) :: rest, h => by
    rw [within] at h
    split at h
    · exact absurd h (by simp)
    · rename_i hlo
      rcases Bool.or_eq_true _ _ |>.mp h with h | h
      · exact ⟨_, List.mem_cons_self, Nat.le_of_not_lt hlo, of_decide_eq_true h⟩
      · obtain ⟨r, hr, hn⟩ := exists_of_within h
        exact ⟨r, List.mem_cons_of_mem _ hr, hn⟩

theorem contains_singleton {c d : Char} : (singleton d).contains c = true ↔ c = d := by
  constructor
  · intro h
    obtain ⟨r, hr, h₁, h₂⟩ := exists_of_within h
    obtain rfl := List.mem_singleton.mp hr
    exact Char.toNat_inj.mp (Nat.le_antisymm h₂ h₁)
  · rintro rfl
    simp [contains, singleton, within]

/-- Every character but a line feed. -/
def notLineFeed : CharSet := (singleton '\n').complement

theorem contains_notLineFeed {c : Char} : notLineFeed.contains c = true ↔ c ≠ '\n' := by
  have hmax : c.toNat ≤ 1114111 := by
    have := c.valid
    rcases this with h | h <;> simp only [Char.toNat] <;> omega
  have hne : c ≠ '\n' ↔ c.toNat ≠ 10 :=
    not_congr ⟨congrArg Char.toNat, fun h => Char.toNat_inj.mp h⟩
  rw [hne]
  have hranges : notLineFeed = ⟨[(0, 9), (11, 1114111)]⟩ := by decide
  simp only [hranges, contains, within]
  constructor
  · intro h
    simp at h
    omega
  · intro h
    simp
    omega

end CharSet

theorem isBlank_lineFeed : isBlank '\n' = true := by decide

end MarkerSweep.Unicode
