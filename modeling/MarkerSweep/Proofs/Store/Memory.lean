import MarkerSweep.Memory
import MarkerSweep.Proofs.Store.Cleaning
/-!
# Looking up files in memory

Paths that agree part by part are one key, so what a file is after another one was put in depends on
the parts only.
-/

set_option autoImplicit false

namespace MarkerSweep

namespace Path

theorem same_iff {p q : Path} : p.same q = true ↔ p.parts = q.parts := by
  rw [same, beq_iff_eq]

theorem same_of_same {p q : Path} (h : p.same q = true) (r : Path) : p.same r = q.same r := by
  rw [same, same_iff.mp h, same]

end Path

namespace Memory

variable {m : Memory} {path : Path} {text : String}

theorem find?_replace (q : Path) : ∀ files : List (Path × String),
    ((replace path text files).find? (·.1.same q)).map (·.2) =
      if path.same q then some text else (files.find? (·.1.same q)).map (·.2)
  | [] => by by_cases hq : path.same q = true <;> simp [replace, hq]
  | (p, old) :: rest => by
    by_cases hp : p.same path = true
    · -- this is the file that is replaced, and it is found by the same paths as before
      have hsame := Path.same_of_same hp q
      by_cases hq : path.same q = true <;> simp [replace, hp, hsame, hq]
    · by_cases hq : p.same q = true
      · have hpath : path.same q = false := by
          rw [← Bool.not_eq_true, Path.same_iff]
          rw [Path.same_iff] at hp hq
          exact fun h => hp (hq.trans h.symm)
        simp [replace, hp, hq, hpath]
      · simpa [replace, hp, hq] using find?_replace q rest

theorem get?_put (q : Path) :
    (m.put path text).get? q = if path.same q then some text else m.get? q :=
  find?_replace q m.files

instance : Steady Memory where
  read := Memory.read
  run_read _ _ := rfl

theorem write_of_readOnly (h : m.readOnly = true) :
    m.write path text = (.error .permissionDenied, { m with writes := m.writes ++ [path] }) := by
  rw [write, if_pos h]

theorem write_of_not_readOnly (h : m.readOnly = false) :
    m.write path text = (.ok (), { m with writes := m.writes ++ [path] }.put path text) := by
  rw [write, if_neg (by simp [h])]

end Memory

end MarkerSweep
