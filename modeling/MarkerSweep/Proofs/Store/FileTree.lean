import MarkerSweep.FileTree
/-!
# Files after a write

A file can only be put where no directory is, so it comes in the way of no path that led anywhere
before: the walk to the last name of a path passes through directories alone, and stays as it was.
Hence what is written at a path is read back at that path, and nowhere else has anything changed.
-/

set_option autoImplicit false

namespace MarkerSweep

namespace FileTree

theorem decode_toUTF8 (text : String) : decode text.toUTF8 = .ok text := by
  simp [decode, String.fromUTF8?, String.fromUTF8, text.isValidUTF8]

variable {t t' : FileTree} {place above below : Place} {name : Name} {path : Path}
  {bytes : ByteArray}

/-! ## Nodes -/

theorem node?_set_self {node : Node} (h : place ≠ []) :
    (t.set place node).node? place = some node := by
  have hfind : (t.nodes.filter (·.1 ≠ place)).find? (·.1 = place) = none := by
    rw [List.find?_filter, List.find?_eq_none]
    simp
  rw [node?, if_neg h, set, List.find?_append, hfind]
  simp

theorem node?_set_of_ne {node : Node} {q : Place} (h : q ≠ place) :
    (t.set place node).node? q = t.node? q := by
  have hfind : (t.nodes.filter (·.1 ≠ place)).find? (·.1 = q) = t.nodes.find? (·.1 = q) := by
    rw [List.find?_filter]
    congr 1
    funext p
    by_cases hp : p.1 = q <;> simp [hp, h]
  rw [node?, node?, set, List.find?_append, hfind]
  simp [h.symm]

/-! ## The way to a file -/

theorem enter_eq_ok_iff : t.enter above name = .ok below ↔
    t.follow above name = .ok (.directory below) := by
  rw [enter]
  cases h : t.follow above name with
  | error e => simp [bind, Except.bind]
  | ok target =>
    cases target <;> simp [bind, Except.bind, throw, throwThe, MonadExceptOf.throw, pure, Except.pure]

theorem follow_eq_directory (bytes : ByteArray) (h : t.follow above name = .ok (.directory below))
    (hplace : t.node? place ≠ some .directory) :
    (t.set place (.file bytes)).follow above name = .ok (.directory below) := by
  simp only [follow] at h ⊢
  by_cases hq : name :: above = place
  · subst hq
    grind
  · rw [node?_set_of_ne hq]
    exact h

/-- What a name that leads to no directory leads to, once a file is put there. -/
theorem follow_set_self (bytes : ByteArray) (h : t.follow above name = .ok (.free place) ∨
    ∃ old, t.follow above name = .ok (.file place old)) :
    t.node? place ≠ some .directory ∧
      (t.set place (.file bytes)).follow above name = .ok (.file place bytes) := by
  have hplace : place = name :: above ∧ t.node? place ≠ some .directory := by
    simp only [follow] at h
    grind
  obtain ⟨rfl, hnode⟩ := hplace
  refine ⟨hnode, ?_⟩
  simp only [follow] at h ⊢
  rw [node?_set_self (by simp)]
  grind

theorem foldlM_enter_set (hplace : t.node? place ≠ some .directory) {names : List Name}
    (h : names.foldlM t.enter above = .ok below) :
    names.foldlM (t.set place (.file bytes)).enter above = .ok below := by
  induction names generalizing above with
  | nil => exact h
  | cons name rest ih =>
    rw [List.foldlM_cons] at h ⊢
    cases henter : t.enter above name with
    | error e => rw [henter] at h; cases h
    | ok next =>
      have hset := enter_eq_ok_iff.mpr
        (follow_eq_directory bytes (enter_eq_ok_iff.mp henter) hplace)
      rw [henter] at h
      rw [hset]
      exact ih h

theorem parent_eq_ok_iff : t.parent path = .ok above ↔
    0 ∉ path.bytes.toList ∧ path.bytes.isEmpty = false ∧ path.bytes.size ≤ maxPath ∧
      (names path).dropLast.foldlM t.enter (t.start path) = .ok above := by
  simp only [parent, bind, Except.bind, throw, throwThe, MonadExceptOf.throw]
  by_cases hnul : 0 ∈ path.bytes.toList
  · simp [hnul]
  by_cases hempty : path.bytes.isEmpty = true
  · simp [hnul, hempty]
  by_cases hlong : maxPath < path.bytes.size
  · simp [hnul, hempty, hlong, Nat.not_le.mpr hlong]
  · simp [hnul, hempty, hlong, Nat.not_lt.mp hlong]

theorem parent_set (hplace : t.node? place ≠ some .directory) (h : t.parent path = .ok above) :
    (t.set place (.file bytes)).parent path = .ok above := by
  rw [parent_eq_ok_iff] at h ⊢
  obtain ⟨hnul, hempty, hshort, hwalk⟩ := h
  exact ⟨hnul, hempty, hshort, foldlM_enter_set hplace hwalk⟩

/-! ## The end of a path -/

/-- The path ends at a file: where it lies, and what it holds. -/
def HasFile (t : FileTree) (path : Path) (place : Place) (bytes : ByteArray) : Prop :=
  asksForDirectory path = false ∧
    ∃ above, t.parent path = .ok above ∧ t.last path above = .ok (.file place bytes)

/-- The path ends at a file, or where there is none and one can be made. -/
def EndsAt (t : FileTree) (path : Path) (place : Place) : Prop :=
  asksForDirectory path = false ∧
    ∃ above, t.parent path = .ok above ∧
      (t.last path above = .ok (.free place) ∨ ∃ bytes, t.last path above = .ok (.file place bytes))

theorem HasFile.endsAt (h : t.HasFile path place bytes) : t.EndsAt path place := by
  obtain ⟨hslash, above, hparent, hlast⟩ := h
  exact ⟨hslash, above, hparent, .inr ⟨bytes, hlast⟩⟩

theorem readBytes_eq_ok_iff :
    t.readBytes path = .ok bytes ↔ ∃ place, t.HasFile path place bytes := by
  simp only [readBytes, bind, Except.bind, throw, throwThe, MonadExceptOf.throw, pure, Except.pure]
  cases hparent : t.parent path with
  | error e => simp [HasFile, hparent]
  | ok above =>
    cases hlast : t.last path above with
    | error e => simp [HasFile, hparent, hlast]
    | ok target =>
      cases target <;> cases hslash : asksForDirectory path <;>
        simp [HasFile, hparent, hlast, hslash]

theorem writeBytes_eq_ok_iff : t.writeBytes path bytes = .ok t' ↔
    ∃ place, t.EndsAt path place ∧ t' = t.set place (.file bytes) := by
  simp only [writeBytes, bind, Except.bind, throw, throwThe, MonadExceptOf.throw, pure, Except.pure]
  cases hparent : t.parent path with
  | error e => simp [EndsAt, hparent]
  | ok above =>
    cases hslash : asksForDirectory path with
    | true => simp [EndsAt, hslash]
    | false =>
      cases hlast : t.last path above with
      | error e => simp [EndsAt, hparent, hlast]
      | ok target => cases target <;> simp [EndsAt, hparent, hlast, hslash, eq_comm]

/-- What is put at the end of a path is found at its end. -/
theorem EndsAt.hasFile_set (h : t.EndsAt path place) (bytes : ByteArray) :
    (t.set place (.file bytes)).HasFile path place bytes := by
  obtain ⟨hslash, above, hparent, hlast⟩ := h
  cases hname : (names path).getLast? with
  | none => simp [last, hname] at hlast
  | some name =>
    simp only [last, hname] at hlast
    obtain ⟨hplace, hfollow⟩ := follow_set_self bytes hlast
    refine ⟨hslash, above, parent_set hplace hparent, ?_⟩
    simp only [last, hname]
    exact hfollow

/-! ## Texts -/

variable {text old : String}

/-- A text has been put at the end of a path, and nothing else has changed. -/
structure Rewritten (t : FileTree) (path : Path) (text : String) (t' : FileTree) : Prop where
  read : t'.read path = .ok text
  node : ∃ place, t.EndsAt path place ∧ t'.HasFile path place text.toUTF8 ∧
    ∀ q ≠ place, t'.node? q = t.node? q
  working : t'.working = t.working

theorem read_of_hasFile (h : t.HasFile path place text.toUTF8) : t.read path = .ok text := by
  rw [FileTree.read, readBytes_eq_ok_iff.mpr ⟨place, h⟩]
  exact decode_toUTF8 text

theorem rewritten_of_write (h : t.write path text = .ok t') : t.Rewritten path text t' := by
  obtain ⟨place, hend, rfl⟩ := writeBytes_eq_ok_iff.mp h
  have hfile := hend.hasFile_set text.toUTF8
  exact ⟨read_of_hasFile hfile, ⟨place, hend, hfile, fun q hq => node?_set_of_ne hq⟩, rfl⟩

/-- Where there is a text, one can be put in its place. -/
theorem write_of_read (h : t.read path = .ok old) (text : String) :
    ∃ t', t.write path text = .ok t' := by
  rw [FileTree.read] at h
  cases hbytes : t.readBytes path with
  | error e => rw [hbytes] at h; cases h
  | ok bytes =>
    obtain ⟨place, hfile⟩ := readBytes_eq_ok_iff.mp hbytes
    exact ⟨_, writeBytes_eq_ok_iff.mpr ⟨place, hfile.endsAt, rfl⟩⟩

end FileTree

end MarkerSweep
