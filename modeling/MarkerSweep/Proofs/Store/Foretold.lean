import MarkerSweep.Proofs.Store.Disk
import MarkerSweep.Proofs.Store.Memory
/-!
# What a check foretells

A file is checked, and from the same store it is cleaned in earnest. The check leaves the store alone,
and its report says what the other call does: whether it attempts a write, and, unless the store
refuses that write, what it reports and what it leaves at the path (`Cleaner.Foretold`). This takes two
things of a store besides steady reading: it notes every attempt to write, and it gives back what it
took. The store in memory and the disk both do (`Ledger`).
-/

set_option autoImplicit false

namespace MarkerSweep

/-- A store that notes the attempts to write, refused ones too, and gives back what was written. -/
class Ledger (σ : Type) [Store (StateM σ)] extends Steady σ where
  writes : σ → List Path
  writes_attempt : ∀ (s : σ) (path : Path) (text : String),
    writes (Cleaner.attempt path text s).2 = writes s ++ [path]
  read_attempt : ∀ {s s' : σ} {path : Path} {before text : String}, read s path = .ok before →
    Cleaner.attempt path text s = (.ok (), s') → read s' path = .ok text

instance : Ledger Memory where
  writes := Memory.writes
  writes_attempt m path text := by
    change (m.write path text).2.writes = m.writes ++ [path]
    cases hm : m.readOnly with
    | false => rw [Memory.write_of_not_readOnly hm, Memory.put]
    | true => rw [Memory.write_of_readOnly hm]
  read_attempt := by
    intro m m' path _ text _ hwrite
    change m.write path text = (.ok (), m') at hwrite
    cases hm : m.readOnly with
    | false =>
      rw [Memory.write_of_not_readOnly hm] at hwrite
      obtain ⟨-, rfl⟩ := Prod.mk.inj hwrite
      have hself : path.same path = true := Path.same_iff.mpr rfl
      change Memory.read _ path = .ok text
      rw [Memory.read, Memory.get?_put, if_pos hself]
    | true =>
      rw [Memory.write_of_readOnly hm] at hwrite
      cases hwrite

instance : Ledger Disk where
  writes := Disk.writes
  writes_attempt := Disk.writes_write
  read_attempt := by
    intro d d' path _ text hread hwrite
    obtain ⟨htree, hreadable⟩ := Disk.write_eq_ok hwrite
    obtain ⟨hpath, -⟩ := Disk.read_eq_ok_iff.mp hread
    exact Disk.read_eq_ok_iff.mpr
      ⟨hreadable ▸ hpath, (FileTree.rewritten_of_write htree).read⟩

namespace Cleaner

variable {σ : Type} [Store (StateM σ)] [Ledger σ]

/-- The report of a check is borne out by what the call that writes comes to. -/
structure BorneOut (s : σ) (r : Report) (answer : Except Failure Report × σ) : Prop where
  /-- A write is attempted if and only if the report has a change. -/
  writes : Ledger.writes answer.2 = Ledger.writes s ++ if r.changed then [r.path] else []
  /-- Unless that write is refused, only the note that it was written is new in the report, and the
  cleaned text is at the path. -/
  ok : (r.changed = true → (attempt r.path r.cleaned s).1 = .ok ()) →
    answer.1 = .ok { r with written := r.changed } ∧
      Steady.read answer.2 r.path = .ok r.cleaned
  refused : ∀ error, r.changed = true → (attempt r.path r.cleaned s).1 = .error error →
    answer.1 = .error (Failure.ofCause (.write r.path error))
  unchanged : r.changed = false → answer.2 = s

/-- A check of a file foretells how cleaning it from the same store goes. -/
structure Foretold (e : Engine) (path : Path) (s : σ) : Prop where
  /-- The check leaves the store as it is, the notes of writes included. -/
  untouched : (call e path .check s).2 = s
  unread : ∀ error, Steady.read s path = .error error →
    (call e path .check s).1 = .error (Failure.ofCause (.read path error)) ∧
      call e path .write s = (.error (Failure.ofCause (.read path error)), s)
  failed : ∀ before f, Steady.read s path = .ok before →
    (e.clean before path.display).value = .error f →
    (call e path .check s).1 = .error f ∧ call e path .write s = (.error f, s)
  ok : ∀ before cleaned summary, Steady.read s path = .ok before →
    (e.clean before path.display).value = .ok (cleaned, summary) →
    ∃ r, (call e path .check s).1 = .ok r ∧ r.path = path ∧ r.before = before ∧
      r.cleaned = cleaned ∧ r.summary = summary ∧ (r.changed = true ↔ cleaned ≠ before) ∧
      r.written = false ∧ BorneOut s r (call e path .write s)

section

variable {e : Engine} {path : Path} {s : σ} {before cleaned : String} {summary : Summary}

theorem call_check (hread : Steady.read s path = .ok before)
    (hengine : (e.clean before path.display).value = .ok (cleaned, summary)) :
    call e path .check s =
      (.ok ⟨path, cleaned != before, false, before, cleaned, summary⟩, s) :=
  call_of_kept hread hengine (by simp)

theorem borneOut_unchanged (hread : Steady.read s path = .ok before)
    (hengine : (e.clean before path.display).value = .ok (before, summary)) :
    BorneOut s ⟨path, before != before, false, before, before, summary⟩
      (call e path .write s) := by
  rw [call_of_kept hread hengine (by simp)]
  have hsame : (before != before) = false := bne_self_eq_false before
  rw [hsame]
  constructor
  · simp
  · exact fun _ => ⟨rfl, hread⟩
  · intro error hchanged
    cases hchanged
  · exact fun _ => rfl

theorem borneOut_changed (hread : Steady.read s path = .ok before)
    (hengine : (e.clean before path.display).value = .ok (cleaned, summary))
    (hne : cleaned ≠ before) :
    BorneOut s ⟨path, cleaned != before, false, before, cleaned, summary⟩
      (call e path .write s) := by
  have hchanged : (cleaned != before) = true := bne_iff_ne.mpr hne
  have hwrites := Ledger.writes_attempt s path cleaned
  obtain ⟨answer, s', hwrite⟩ : ∃ answer s', attempt path cleaned s = (answer, s') := ⟨_, _, rfl⟩
  rw [hwrite] at hwrites
  cases answer with
  | ok =>
    rw [call_of_written hread hengine ⟨hne, rfl⟩ hwrite, hchanged]
    constructor
    · exact hwrites
    · exact fun _ => ⟨rfl, Ledger.read_attempt hread hwrite⟩
    · intro error _ hrefused
      rw [hwrite] at hrefused
      cases hrefused
    · intro hunchanged
      cases hunchanged
  | error error =>
    rw [call_of_refused hread hengine ⟨hne, rfl⟩ hwrite, hchanged]
    constructor
    · exact hwrites
    · intro hok
      rw [hwrite] at hok
      cases hok rfl
    · intro error' _ hrefused
      rw [hwrite] at hrefused
      cases hrefused
      rfl
    · intro hunchanged
      cases hunchanged

theorem foretold (e : Engine) (path : Path) (s : σ) : Foretold e path s := by
  constructor
  · cases hread : Steady.read s path with
    | error error => rw [call_of_unread hread]
    | ok before =>
      cases hengine : (e.clean before path.display).value with
      | error f => rw [call_of_failed hread hengine]
      | ok answer => rw [call_check hread hengine]
  · intro error hread
    rw [call_of_unread hread, call_of_unread hread]
    exact ⟨rfl, rfl⟩
  · intro before f hread hengine
    rw [call_of_failed hread hengine, call_of_failed hread hengine]
    exact ⟨rfl, rfl⟩
  · intro before cleaned summary hread hengine
    refine ⟨⟨path, cleaned != before, false, before, cleaned, summary⟩, ?_, rfl, rfl, rfl, rfl,
      bne_iff_ne, rfl, ?_⟩
    · rw [call_check hread hengine]
    · by_cases hne : cleaned = before
      · subst hne
        exact borneOut_unchanged hread hengine
      · exact borneOut_changed hread hengine hne

end

/-- With any engine and at any path, in memory and on a disk, in any state and whatever the system
refuses: checking a file foretells how cleaning it goes. A tree of files by itself is a disk that refuses
nothing. -/
theorem check_foretells_write (e : Engine) (path : Path) :
    (∀ m : Memory, Foretold e path m) ∧ (∀ d : Disk, Foretold e path d) ∧
      ∀ (t : FileTree) (mode : Mode), call e path mode t =
        ((call e path mode (Disk.ofTree t)).1, (call e path mode (Disk.ofTree t)).2.tree) :=
  ⟨foretold e path, foretold e path, fun t mode => Disk.call_ofTree e path mode t⟩

end Cleaner

end MarkerSweep
