import MarkerSweep.Proofs.Store.Cleaning
import MarkerSweep.Proofs.Store.FileTree
/-!
# A disk

A tree of files whose system can refuse to read or to write for reasons of its own, such as
permissions or a lack of room, and that notes where writes were attempted. A refused write leaves the
files as they were; whether the system refuses does not depend on what has been written before.
-/

set_option autoImplicit false

namespace MarkerSweep

structure Disk where
  tree : FileTree
  /-- What the system does not let be read. -/
  unreadable : Path → Option IoError := fun _ => none
  /-- What the system does not let be written. -/
  unwritable : Path → String → Option IoError := fun _ _ => none
  /-- Where writes were attempted, in order. -/
  writes : List Path := []

namespace Disk

def read (d : Disk) (path : Path) : Except IoError String :=
  match d.unreadable path with
  | some error => .error error
  | none => d.tree.read path

def write (d : Disk) (path : Path) (text : String) : Except IoError Unit × Disk :=
  let d := { d with writes := d.writes ++ [path] }
  match d.unwritable path text with
  | some error => (.error error, d)
  | none =>
    match d.tree.write path text with
    | .ok tree => (.ok (), { d with tree := tree })
    | .error error => (.error error, d)

instance : Store (StateM Disk) where
  read path := fun d => (d.read path, d)
  write path text := fun d => d.write path text

instance : Steady Disk where
  read := Disk.read
  run_read _ _ := rfl

variable {d d' : Disk} {path : Path} {text : String}

theorem writes_write (d : Disk) (path : Path) (text : String) :
    (d.write path text).2.writes = d.writes ++ [path] := by
  simp only [write]
  split
  · rfl
  · split <;> rfl

theorem write_eq_ok (h : d.write path text = (.ok (), d')) :
    d.tree.write path text = .ok d'.tree ∧ d'.unreadable = d.unreadable := by
  simp only [write] at h
  split at h
  · cases h
  · split at h
    · obtain ⟨-, rfl⟩ := Prod.mk.inj h
      exact ⟨by assumption, rfl⟩
    · cases h

theorem write_eq_error {error : IoError} (h : d.write path text = (.error error, d')) :
    d'.tree = d.tree := by
  simp only [write] at h
  split at h
  · obtain ⟨-, rfl⟩ := Prod.mk.inj h
    rfl
  · split at h
    · cases h
    · obtain ⟨-, rfl⟩ := Prod.mk.inj h
      rfl

theorem read_eq_ok_iff : d.read path = .ok text ↔
    d.unreadable path = none ∧ d.tree.read path = .ok text := by
  rw [read]
  cases d.unreadable path <;> simp

end Disk

namespace FileTree

instance : Steady FileTree where
  read := FileTree.read
  run_read _ _ := rfl

variable {t t' : FileTree} {path : Path} {text : String}

theorem attempt_eq : Cleaner.attempt path text t =
    match t.write path text with
    | .ok tree => (.ok (), tree)
    | .error error => (.error error, t) := rfl

theorem write_of_attempt (h : Cleaner.attempt path text t = (.ok (), t')) :
    t.write path text = .ok t' := by
  rw [attempt_eq] at h
  split at h
  · rename_i tree hwrite
    rw [hwrite, (Prod.mk.inj h).2]
  · cases h

theorem eq_of_attempt_error {error : IoError}
    (h : Cleaner.attempt path text t = (.error error, t')) : t' = t := by
  rw [attempt_eq] at h
  split at h
  · cases h
  · exact (Prod.mk.inj h).2.symm

end FileTree

namespace Disk

/-- The disk that refuses nothing of its own accord. -/
def ofTree (t : FileTree) : Disk := { tree := t }

/-- On a disk that refuses nothing a file is cleaned as it is in the tree alone. -/
theorem call_ofTree (e : Engine) (path : Path) (mode : Mode) (t : FileTree) :
    Cleaner.call e path mode t =
      ((Cleaner.call e path mode (ofTree t)).1, (Cleaner.call e path mode (ofTree t)).2.tree) := by
  cases hread : t.read path with
  | error error =>
    have hdisk : Steady.read (ofTree t) path = .error error := hread
    rw [Cleaner.call_of_unread hread, Cleaner.call_of_unread hdisk, ofTree]
  | ok before =>
    have hdisk : Steady.read (ofTree t) path = .ok before := hread
    cases hengine : (e.clean before path.display).value with
    | error f =>
      rw [Cleaner.call_of_failed hread hengine, Cleaner.call_of_failed hdisk hengine, ofTree]
    | ok answer =>
      obtain ⟨cleaned, summary⟩ := answer
      by_cases hdue : cleaned ≠ before ∧ mode = .write
      · -- the tree takes a text wherever it gives one
        obtain ⟨t', hwrite⟩ := FileTree.write_of_read hread cleaned
        have htree : Cleaner.attempt path cleaned t = (.ok (), t') := by
          rw [FileTree.attempt_eq, hwrite]
        have hofTree : Cleaner.attempt path cleaned (ofTree t) =
            (.ok (), { ofTree t' with writes := [path] }) := by
          change (ofTree t).write path cleaned = _
          simp only [write, ofTree, hwrite, List.nil_append]
        rw [Cleaner.call_of_written hread hengine hdue htree,
          Cleaner.call_of_written hdisk hengine hdue hofTree, ofTree]
      · rw [Cleaner.call_of_kept hread hengine hdue, Cleaner.call_of_kept hdisk hengine hdue, ofTree]

end Disk

/-! ## Stores that keep a tree -/

/-- A store that keeps its files in a tree. It may refuse what the tree would allow, and then the tree
stays as it is. -/
class TreeStore (σ : Type) [Store (StateM σ)] extends Steady σ where
  tree : σ → FileTree
  tree_write : ∀ {s s' : σ} {path : Path} {text : String},
    Cleaner.attempt path text s = (.ok (), s') → (tree s).write path text = .ok (tree s')
  tree_refused : ∀ {s s' : σ} {path : Path} {text : String} {error : IoError},
    Cleaner.attempt path text s = (.error error, s') → tree s' = tree s

instance : TreeStore Disk where
  tree := Disk.tree
  tree_write h := (Disk.write_eq_ok h).1
  tree_refused := Disk.write_eq_error

instance : TreeStore FileTree where
  tree t := t
  tree_write := FileTree.write_of_attempt
  tree_refused := FileTree.eq_of_attempt_error

end MarkerSweep
