import MarkerSweep.Cleaner
/-!
# Cleaning a file in any store

All that cleaning a file needs of a store is that reading changes nothing. Then a call has five ways
out, and each has one equation here: the file cannot be read, the engine fails, no write is due, the
write succeeds, the write is refused. What is said of the cleaner elsewhere comes from these equations,
whatever the store.
-/

set_option autoImplicit false

namespace MarkerSweep

/-- A store that is the same after a file was read. -/
class Steady (σ : Type) [Store (StateM σ)] where
  read : σ → Path → Except IoError String
  run_read : ∀ (s : σ) (path : Path), (Store.read path : StateM σ _).run s = (read s path, s)

theorem run_bind_of_run {σ α β : Type} {x : StateM σ α} {f : α → StateM σ β} {s s' : σ} {a : α}
    (h : x.run s = (a, s')) : (x >>= f).run s = (f a).run s' := by
  rw [StateT.run_bind, h]
  rfl

namespace Steady

variable {σ β : Type} [Store (StateM σ)] [Steady σ] {s : σ} {path : Path}
  {answer : Except IoError String}

/-- After a file was read, all goes on from the same store. -/
theorem run_read_bind {f : Except IoError String → StateM σ β} (h : read s path = answer) :
    ((Store.read path : StateM σ _) >>= f).run s = (f answer).run s :=
  run_bind_of_run (h ▸ run_read s path)

end Steady

namespace Cleaner

variable {σ : Type} [Store (StateM σ)]

/-- What the store answers to a write, and the store after it. -/
def attempt (path : Path) (text : String) (s : σ) : Except IoError Unit × σ :=
  (Store.write path text : StateM σ _).run s

/-- What cleaning a file comes to, and the store after it. -/
def call (e : Engine) (path : Path) (mode : Mode) (s : σ) : Except Failure Report × σ :=
  let answer := (clean e path mode : StateM σ _).run s
  (answer.1.value, answer.2)

/-- The remarks on cleaning a file. -/
def remarks (e : Engine) (path : Path) (mode : Mode) (s : σ) : List Record :=
  ((clean e path mode : StateM σ _).run s).1.records

theorem run_clean (e : Engine) (path : Path) (mode : Mode) (s : σ) :
    (clean e path mode : StateM σ _).run s =
      (⟨(call e path mode s).1, remarks e path mode s⟩, (call e path mode s).2) := rfl

variable [Steady σ] {e : Engine} {path : Path} {mode : Mode} {s s' : σ} {before cleaned : String}
  {summary : Summary}

theorem call_of_unread {error : IoError} (hread : Steady.read s path = .error error) :
    call e path mode s = (.error (Failure.ofCause (.read path error)), s) := by
  simp only [call, clean, Steady.run_read_bind hread]
  rfl

theorem call_of_failed {f : Failure} (hread : Steady.read s path = .ok before)
    (hengine : (e.clean before path.display).value = .error f) :
    call e path mode s = (.error f, s) := by
  simp only [call, clean, Steady.run_read_bind hread, Engine.outcome, hengine, Except.map]
  rfl

/-- Once there is a cleaned text, all is up to saving it. -/
theorem call_eq_save (hread : Steady.read s path = .ok before)
    (hengine : (e.clean before path.display).value = .ok (cleaned, summary)) :
    call e path mode s =
      let answer := (save path mode before ⟨cleaned, cleaned != before, summary⟩ :
        StateM σ _).run s
      (answer.1.value, answer.2) := by
  simp only [call, clean, Steady.run_read_bind hread, Engine.outcome, hengine, Except.map]
  rfl

theorem call_of_kept (hread : Steady.read s path = .ok before)
    (hengine : (e.clean before path.display).value = .ok (cleaned, summary))
    (hkept : ¬ (cleaned ≠ before ∧ mode = .write)) :
    call e path mode s = (.ok ⟨path, cleaned != before, false, before, cleaned, summary⟩, s) := by
  rw [call_eq_save hread hengine, save, if_neg (by simpa using hkept)]
  rfl

theorem call_of_written (hread : Steady.read s path = .ok before)
    (hengine : (e.clean before path.display).value = .ok (cleaned, summary))
    (hdue : cleaned ≠ before ∧ mode = .write) (hwrite : attempt path cleaned s = (.ok (), s')) :
    call e path mode s = (.ok ⟨path, cleaned != before, true, before, cleaned, summary⟩, s') := by
  rw [call_eq_save hread hengine, save, if_pos (by simpa using hdue)]
  rw [attempt] at hwrite
  simp only [run_bind_of_run hwrite]
  rfl

theorem call_of_refused {error : IoError} (hread : Steady.read s path = .ok before)
    (hengine : (e.clean before path.display).value = .ok (cleaned, summary))
    (hdue : cleaned ≠ before ∧ mode = .write)
    (hwrite : attempt path cleaned s = (.error error, s')) :
    call e path mode s = (.error (Failure.ofCause (.write path error)), s') := by
  rw [call_eq_save hread hengine, save, if_pos (by simpa using hdue)]
  rw [attempt] at hwrite
  simp only [run_bind_of_run hwrite]
  rfl

end Cleaner

end MarkerSweep
