import MarkerSweep.Program
import MarkerSweep.Proofs.Clean.Stages
import MarkerSweep.Proofs.Output.Printing
import MarkerSweep.Proofs.Store.Disk
/-!
# How the program ends

A run that is not stopped by its command line ends in one of four ways (`Program.Ending`): it fails,
it finds a file that would be cleaned, it cleans the file, or it finds nothing to clean. In each the
exit code, the status line and what becomes of the files go together, though the program works them out
in different places. Which of them it is depends on the theme, on the target, on whether writing is
asked for, and on whether the store allows it (`Program.run_ends`).
-/

set_option autoImplicit false

namespace MarkerSweep

open CommandLine (Settings)

variable {σ : Type} [Store (StateM σ)]

/-! ## The command -/

namespace Command

variable {e : Engine} {o : Options} {t : Theme} {s s' : σ}

theorem run_of_error {c : Console} {f : Failure}
    (h : Cleaner.call e o.path o.mode s = (.error f, s')) : ∃ records,
      (run e o t c : StateM σ _).run s =
        (⟨.error (f.within ("Failed to clean " ++ o.path.display)), c, records, []⟩, s') := by
  have hclean := Cleaner.run_clean e o.path o.mode s
  rw [h] at hclean
  rw [run, run_bind_of_run hclean]
  exact ⟨_, rfl⟩

/-- Nothing is held up by an error output without a limit. -/
theorem exists_tell (o : Options) (t : Theme) (r : Report) {out : Sink} (hout : out.Sound) : ∃ err,
    tell o t ⟨out, {}⟩ r =
      (⟨(out.write (outText o t r)).1, err⟩, (out.write (outText o t r)).2) := by
  rw [tell_eq Sink.sound_empty hout, Sink.write_unlimited]
  exact ⟨_, rfl⟩

/-- The status line goes to the standard output, whatever goes to the error output. -/
theorem run_of_ok {out : Sink} (hout : out.Sound) {r : Report}
    (h : Cleaner.call e o.path o.mode s = (.ok r, s')) : ∃ x : Run,
      (run e o t ⟨out, {}⟩ : StateM σ _).run s = (x, s') ∧
        x.console.out = (out.write (outText o t r)).1 ∧
        x.result = match (out.write (outText o t r)).2 with
          | .ok () => .ok r
          | .error error => .error (Failure.ofCause (.io error)) := by
  have hclean := Cleaner.run_clean e o.path o.mode s
  rw [h] at hclean
  obtain ⟨err, htell⟩ := exists_tell o t r hout
  rw [run, run_bind_of_run hclean]
  simp only [htell]
  cases (out.write (outText o t r)).2 with
  | ok => exact ⟨_, rfl, rfl, rfl⟩
  | error error => exact ⟨_, rfl, rfl, rfl⟩

end Command

/-! ## The program -/

namespace Program

theorem fetch_builtin :
    (cache.fetch RuleTable.builtin).2.value = .ok ⟨0, builtinCompiled⟩ := by
  have hcompile := RuleTable.prepare_eq_ok_iff.mp prepare_builtin
  rw [cache]
  exact TableCache.fetch_empty hcompile

/-- A table cleans a text as its engine does, whatever the text is called. -/
theorem exists_outcome {t : RuleTable} {c : CompiledTable} (h : t.prepare.value = .ok c)
    (old source : String) : ∃ o, t.clean old = .ok o ∧
      (c.engine.clean old source).value = .ok (o.text, o.summary) :=
  ⟨_, RuleTable.clean_of_prepare h old, rfl⟩

/-- The exit has a code, and a status line is all that is on the standard output. -/
def Says (x : Exit) (code : Nat) (line : String) : Prop :=
  x.code = code ∧ x.out = (line ++ "\n").toUTF8.data

theorem exitCode_of_unchanged {s : Settings} {r : Report} (h : r.changed = false) :
    exitCode s r = 0 := by
  simp [exitCode, h]

theorem exitCode_of_check {s : Settings} {r : Report} (hcheck : s.check = true)
    (h : r.changed = true) : exitCode s r = 1 := by
  simp [exitCode, hcheck, h]

theorem exitCode_of_write {s : Settings} {r : Report} (hcheck : s.check = false) :
    exitCode s r = 0 := by
  simp [exitCode, hcheck]

/-- The status line is the same for every theme, as nothing is written in colours. -/
theorem outText_options (s : Settings) (t : Theme) (r : Report) :
    Command.outText (options s) t r =
      (Output.Status.of r.changed (options s).mode).text r.path ++ "\n" :=
  Theme.line_uncolored t _ _

/-- Cleaning the target with the built-in rules. -/
def targetCall (s : Settings) (st : σ) : Except Failure Report × σ :=
  Cleaner.call builtinCompiled.engine s.path (options s).mode st

section

variable {s : Settings} {st st' : σ} (filter : LogFilter) (t : Theme) (err : Array UInt8)

/-- The program makes an exit of what the command comes to with the built-in rules. -/
theorem clean_of_run {r : Run}
    (h : (Command.run builtinCompiled.engine (options s) t {} : StateM σ _).run st = (r, st')) :
    ∃ earlier, (clean filter s t err : StateM σ _).run st =
      (match r.result with
        | .ok report => ⟨exitCode s report, r.console.out.written, earlier⟩
        | .error f => failed earlier f, st') := by
  have hfetch := fetch_builtin
  -- unfolded within the goal, the program would have to compile the rules, to take a pair apart
  obtain ⟨program, hprogram⟩ : ∃ program, program = @clean (StateM σ) _ _ := ⟨_, rfl⟩
  rw [← hprogram]
  delta clean at hprogram
  rw [hprogram]
  generalize cache.fetch RuleTable.builtin = served at hfetch ⊢
  obtain ⟨_, value, records⟩ := served
  obtain rfl : value = _ := hfetch
  dsimp only
  rw [run_bind_of_run h]
  cases r.result <;> exact ⟨_, rfl⟩

theorem clean_of_error {f : Failure} (h : targetCall s st = (.error f, st')) : ∃ earlier,
    (clean filter s t err : StateM σ _).run st =
      (failed earlier (f.within ("Failed to clean " ++ s.path.display)), st') := by
  obtain ⟨records, hrun⟩ := Command.run_of_error (t := t) (c := {}) (o := options s) h
  exact clean_of_run filter t err hrun

theorem clean_of_ok {r : Report} (h : targetCall s st = (.ok r, st')) : ∃ x,
    (clean filter s t err : StateM σ _).run st = (x, st') ∧
      Says x (exitCode s r) ((Output.Status.of r.changed (options s).mode).text r.path) := by
  obtain ⟨x, hrun, hout, hresult⟩ :=
    Command.run_of_ok (t := t) (o := options s) Sink.sound_empty h
  rw [Sink.write_unlimited] at hout hresult
  obtain ⟨earlier, hclean⟩ := clean_of_run filter t err hrun
  simp only [hout, hresult] at hclean
  exact ⟨_, hclean, rfl, by rw [outText_options]⟩

end

/-! ## The theme -/

section

variable [Steady σ] {s : Settings} {st : σ} {t : Theme}

/-- The theme that is asked for, as the store has it. -/
def loadTheme (s : Settings) (st : σ) : Except Failure Theme :=
  match s.theme with
  | none => .ok .builtin
  | some path => (Theme.load path (Steady.read st path)).mapError (·.within "Theme error")

theorem run_theme (s : Settings) (st : σ) :
    (theme s : StateM σ _).run st = (loadTheme s st, st) := by
  rw [theme, loadTheme]
  cases s.theme with
  | none => rfl
  | some path =>
    simp only [Steady.run_read_bind rfl]
    rfl

theorem loadTheme_eq_error_iff : (∃ f, loadTheme s st = .error f) ↔
    ∃ path f, s.theme = some path ∧ Theme.load path (Steady.read st path) = .error f := by
  rw [loadTheme]
  cases s.theme with
  | none => simp
  | some path => cases h : Theme.load path (Steady.read st path) <;> simp [h, Except.mapError]

variable {i : Invocation} (hs : Settings.ofArguments i.arguments i.target = .ok s)

include hs

theorem run_of_theme_error {f : Failure} (h : loadTheme s st = .error f) : ∃ earlier,
    (run i : StateM σ _).run st = (failed earlier f, st) := by
  have htheme := run_theme s st
  rw [h] at htheme
  simp only [run, hs]
  rw [run_bind_of_run htheme]
  exact ⟨_, rfl⟩

theorem run_of_theme (h : loadTheme s st = .ok t) : ∃ filter err,
    (run i : StateM σ _).run st = (clean filter s t err : StateM σ _).run st := by
  have htheme := run_theme s st
  rw [h] at htheme
  simp only [run, hs]
  rw [run_bind_of_run htheme]
  exact ⟨_, _, rfl⟩

end

/-! ## Endings -/

/-- The ways in which a run can end. -/
inductive Ending
  | failed
  | pending
  | rewritten
  | unchanged
deriving DecidableEq

section

variable [TreeStore σ]

/-- The target can be read, and the built-in rules make something of its text. -/
def Cleans (s : Settings) (st : σ) (old : String) (o : Outcome) : Prop :=
  Steady.read st s.path = .ok old ∧ MarkerSweep.clean old = .ok o

/-- Cleaning would change the target. -/
def Differs (s : Settings) (st : σ) : Prop := ∃ old o, Cleans s st old o ∧ o.text ≠ old

/-- What can make a run fail: the theme, the target, or a write that is due and is refused. -/
inductive Fails (s : Settings) (st : σ) : Prop
  | theme {path : Path} {f : Failure} : s.theme = some path →
      Theme.load path (Steady.read st path) = .error f → Fails s st
  | target {error : IoError} : Steady.read st s.path = .error error → Fails s st
  | write {old : String} {o : Outcome} {error : IoError} : s.check = false → Cleans s st old o →
      o.text ≠ old → (Cleaner.attempt s.path o.text st).1 = .error error → Fails s st

/-- What it means to end in a way: what the settings and the target were, what the exit is, and what
has become of the files. -/
def Ending.Holds (s : Settings) (st : σ) (x : Exit) (st' : σ) : Ending → Prop
  | .failed => x.code = 1 ∧ x.out = #[] ∧
      (∃ earlier message, x.err = earlier ++ ("Error: " ++ message ++ "\n").toUTF8.data) ∧
      TreeStore.tree st' = TreeStore.tree st
  | .pending => s.check = true ∧ Differs s st ∧
      Says x 1 ("🔎 " ++ s.path.displayName ++ " would be cleaned") ∧
      TreeStore.tree st' = TreeStore.tree st
  | .rewritten => s.check = false ∧ ∃ old o, Cleans s st old o ∧ o.text ≠ old ∧
      Says x 0 ("✅ " ++ s.path.displayName ++ " cleaned") ∧
      (TreeStore.tree st).Rewritten s.path o.text (TreeStore.tree st')
  | .unchanged => (∃ old o, Cleans s st old o ∧ o.text = old) ∧
      Says x 0 ("ℹ️ No changes applied to " ++ s.path.displayName) ∧
      TreeStore.tree st' = TreeStore.tree st

variable {s : Settings} {st st' : σ} {x : Exit}

theorem out_ne_empty {code : Nat} {line : String} (h : Says x code line) : x.out ≠ #[] := by
  obtain ⟨-, hout⟩ := h
  rw [hout]
  intro hempty
  have hsize := congrArg Array.size hempty
  simp at hsize

theorem Cleans.unique {old old' : String} {o o' : Outcome} (h : Cleans s st old o)
    (h' : Cleans s st old' o') : old = old' ∧ o = o' := by
  obtain ⟨hread, hclean⟩ := h
  obtain ⟨hread', hclean'⟩ := h'
  rw [hread, Except.ok.injEq] at hread'
  subst hread'
  rw [hclean, Except.ok.injEq] at hclean'
  exact ⟨rfl, hclean'⟩

open Classical in
/-- The ending can be told from the standard output, the settings and the target. -/
theorem Ending.eq_of_holds {e : Ending} (h : e.Holds s st x st') :
    e = if x.out = #[] then .failed
      else if ¬ Differs s st then .unchanged
      else if s.check then .pending else .rewritten := by
  cases e with
  | failed =>
    obtain ⟨-, hout, -⟩ := h
    rw [if_pos hout]
  | pending =>
    obtain ⟨hcheck, hdiffers, hsays, -⟩ := h
    rw [if_neg (out_ne_empty hsays), if_neg (not_not_intro hdiffers), if_pos hcheck]
  | rewritten =>
    obtain ⟨hcheck, old, o, hcleans, hne, hsays, -⟩ := h
    have hdiffers : Differs s st := ⟨old, o, hcleans, hne⟩
    rw [if_neg (out_ne_empty hsays), if_neg (not_not_intro hdiffers), if_neg (by simp [hcheck])]
  | unchanged =>
    obtain ⟨⟨old, o, hcleans, hsame⟩, hsays, -⟩ := h
    have hdiffers : ¬ Differs s st := by
      rintro ⟨old', o', hcleans', hne⟩
      obtain ⟨rfl, rfl⟩ := hcleans.unique hcleans'
      exact hne hsame
    rw [if_neg (out_ne_empty hsays), if_pos hdiffers]

theorem Ending.Holds.unique {e e' : Ending} (h : e.Holds s st x st') (h' : e'.Holds s st x st') :
    e = e' :=
  (Ending.eq_of_holds h).trans (Ending.eq_of_holds h').symm

/-! ## Every run has an ending -/

theorem exists_cleans {old : String} (hread : Steady.read st s.path = .ok old) :
    ∃ o, Cleans s st old o ∧ (builtinCompiled.engine.clean old s.path.display).value =
      .ok (o.text, o.summary) := by
  obtain ⟨o, hclean, hengine⟩ := exists_outcome prepare_builtin old s.path.display
  exact ⟨o, ⟨hread, hclean⟩, hengine⟩

theorem not_fails {t : Theme} {old : String} {o : Outcome} (htheme : loadTheme s st = .ok t)
    (hcleans : Cleans s st old o)
    (hwrite : s.check = false → o.text ≠ old → (Cleaner.attempt s.path o.text st).1 = .ok ()) :
    ¬ Fails s st := by
  intro hfails
  cases hfails with
  | theme hpath hload =>
    obtain ⟨f, herror⟩ := loadTheme_eq_error_iff.mpr ⟨_, _, hpath, hload⟩
    rw [htheme] at herror
    cases herror
  | target hread =>
    rw [hcleans.1] at hread
    cases hread
  | write hcheck hcleans' hne herror =>
    obtain ⟨rfl, rfl⟩ := hcleans.unique hcleans'
    rw [hwrite hcheck hne] at herror
    cases herror

theorem holds_failed {earlier : Array UInt8} {f : Failure}
    (htree : TreeStore.tree st' = TreeStore.tree st) :
    Ending.failed.Holds s st (failed earlier f) st' :=
  ⟨rfl, rfl, ⟨earlier, f.message, by rw [failed, failureLine, Theme.line_uncolored]⟩, htree⟩

/-- The run has failed and had to, or it has ended in another way and nothing made it fail. -/
def Settled (s : Settings) (st : σ) (x : Exit) (st' : σ) : Prop :=
  Fails s st ∧ Ending.failed.Holds s st x st' ∨
    ¬ Fails s st ∧ ∃ e, e ≠ Ending.failed ∧ e.Holds s st x st'

section

variable (filter : LogFilter) {t : Theme} (err : Array UInt8) {old : String} {o : Outcome}

theorem clean_unread {error : IoError} (hread : Steady.read st s.path = .error error) :
    ∃ x st', (clean filter s t err : StateM σ _).run st = (x, st') ∧ Settled s st x st' := by
  have hcall : targetCall s st = _ := Cleaner.call_of_unread hread
  obtain ⟨earlier, hrun⟩ := clean_of_error filter t err hcall
  exact ⟨_, _, hrun, .inl ⟨.target hread, holds_failed rfl⟩⟩

variable (htheme : loadTheme s st = .ok t) (hcleans : Cleans s st old o)
  (hengine : (builtinCompiled.engine.clean old s.path.display).value = .ok (o.text, o.summary))

include htheme hcleans hengine

theorem clean_unchanged (hsame : o.text = old) :
    ∃ x st', (clean filter s t err : StateM σ _).run st = (x, st') ∧ Settled s st x st' := by
  have hcall : targetCall s st = _ := Cleaner.call_of_kept hcleans.1 hengine (by simp [hsame])
  obtain ⟨x, hrun, hsays⟩ := clean_of_ok filter t err hcall
  rw [hsame, bne_self_eq_false, exitCode_of_unchanged rfl] at hsays
  have hfails : ¬ Fails s st := not_fails htheme hcleans fun _ hne => absurd hsame hne
  exact ⟨x, st, hrun, .inr ⟨hfails, .unchanged, by decide, ⟨old, o, hcleans, hsame⟩, hsays, rfl⟩⟩

theorem clean_pending (hcheck : s.check = true) (hne : o.text ≠ old) :
    ∃ x st', (clean filter s t err : StateM σ _).run st = (x, st') ∧ Settled s st x st' := by
  have hmode : (options s).mode = .check := by simp [options, hcheck]
  have hcall : targetCall s st = _ := Cleaner.call_of_kept hcleans.1 hengine (by simp [hmode])
  obtain ⟨x, hrun, hsays⟩ := clean_of_ok filter t err hcall
  rw [bne_iff_ne.mpr hne, exitCode_of_check hcheck rfl, hmode] at hsays
  have hfails : ¬ Fails s st := not_fails htheme hcleans fun h => by simp [hcheck] at h
  exact ⟨x, st, hrun, .inr ⟨hfails, .pending, by decide, hcheck, ⟨old, o, hcleans, hne⟩, hsays, rfl⟩⟩

theorem clean_due (hcheck : s.check = false) (hne : o.text ≠ old) :
    ∃ x st', (clean filter s t err : StateM σ _).run st = (x, st') ∧ Settled s st x st' := by
  have hdue : o.text ≠ old ∧ (options s).mode = .write := ⟨hne, by simp [options, hcheck]⟩
  obtain ⟨answer, st', hattempt⟩ :
    ∃ answer st', Cleaner.attempt s.path o.text st = (answer, st') := ⟨_, _, rfl⟩
  cases answer with
  | ok =>
    have hcall : targetCall s st = _ := Cleaner.call_of_written hcleans.1 hengine hdue hattempt
    obtain ⟨x, hrun, hsays⟩ := clean_of_ok filter t err hcall
    rw [bne_iff_ne.mpr hne, exitCode_of_write hcheck, hdue.2] at hsays
    have hfails : ¬ Fails s st :=
      not_fails htheme hcleans fun _ _ => congrArg Prod.fst hattempt
    have hwritten := FileTree.rewritten_of_write (TreeStore.tree_write hattempt)
    exact ⟨x, st', hrun,
      .inr ⟨hfails, .rewritten, by decide, hcheck, old, o, hcleans, hne, hsays, hwritten⟩⟩
  | error error =>
    have hcall : targetCall s st = _ := Cleaner.call_of_refused hcleans.1 hengine hdue hattempt
    obtain ⟨earlier, hrun⟩ := clean_of_error filter t err hcall
    have hfails : Fails s st := .write hcheck hcleans hne (congrArg Prod.fst hattempt)
    exact ⟨_, st', hrun, .inl ⟨hfails, holds_failed (TreeStore.tree_refused hattempt)⟩⟩

end

/-- With a theme, the target decides on the ending. -/
theorem clean_settled (filter : LogFilter) {t : Theme} (err : Array UInt8)
    (htheme : loadTheme s st = .ok t) :
    ∃ x st', (clean filter s t err : StateM σ _).run st = (x, st') ∧ Settled s st x st' := by
  cases hread : Steady.read st s.path with
  | error error => exact clean_unread filter err hread
  | ok old =>
    obtain ⟨o, hcleans, hengine⟩ := exists_cleans hread
    by_cases hsame : o.text = old
    · exact clean_unchanged filter err htheme hcleans hengine hsame
    · cases hcheck : s.check with
      | true => exact clean_pending filter err htheme hcleans hengine hcheck hsame
      | false => exact clean_due filter err htheme hcleans hengine hcheck hsame

/-- The exit of the program, and the store after it. -/
def finish (i : Invocation) (st : σ) : Exit × σ := (run i : StateM σ _).run st

/-- From a store, the program ends in exactly one way, and it fails exactly if something makes it
fail. -/
structure Ends (i : Invocation) (s : Settings) (st : σ) : Prop where
  unique : ∃! e : Ending, e.Holds s st (finish i st).1 (finish i st).2
  failed_iff : Ending.failed.Holds s st (finish i st).1 (finish i st).2 ↔ Fails s st

section

variable {i : Invocation} (hs : Settings.ofArguments i.arguments i.target = .ok s)

include hs

theorem finish_settled (st : σ) : ∃ x st', finish i st = (x, st') ∧ Settled s st x st' := by
  cases htheme : loadTheme s st with
  | error f =>
    obtain ⟨earlier, hrun⟩ := run_of_theme_error hs htheme
    obtain ⟨path, f', hpath, hload⟩ := loadTheme_eq_error_iff.mp ⟨f, htheme⟩
    exact ⟨_, _, hrun, .inl ⟨.theme hpath hload, holds_failed rfl⟩⟩
  | ok t =>
    obtain ⟨filter, err, hrun⟩ := run_of_theme hs htheme
    rw [finish, hrun]
    exact clean_settled filter err htheme

theorem ends (st : σ) : Ends i s st := by
  obtain ⟨x, st', hfinish, hsettled⟩ := finish_settled hs st
  constructor
  · rw [hfinish]
    obtain ⟨-, hfailed⟩ | ⟨-, e, -, he⟩ := hsettled
    · exact ⟨.failed, hfailed, fun e he => he.unique hfailed⟩
    · exact ⟨e, he, fun e' he' => he'.unique he⟩
  · rw [hfinish]
    obtain ⟨hfails, hfailed⟩ | ⟨hfails, e, hne, he⟩ := hsettled
    · exact iff_of_true hfailed hfails
    · exact iff_of_false (fun hfailed => hne (he.unique hfailed)) hfails

end

end

/-- With any command line that asks for a run, whatever the environment says and on any files, the
program ends in exactly one of the four ways: on a tree of files, and on a disk whose system may refuse
to read and to write. -/
theorem run_ends {i : Invocation} {s : Settings}
    (h : Settings.ofArguments i.arguments i.target = .ok s) :
    (∀ t : FileTree, Ends i s t) ∧ ∀ d : Disk, Ends i s d :=
  ⟨ends h, ends h⟩

/-- The program is asked to check the file that the environment names. -/
def checkNamed : Invocation where
  arguments := ["-c".toUTF8]
  target := some "Report.tsx".toUTF8

theorem run_ends_checkNamed :
    Settings.ofArguments checkNamed.arguments checkNamed.target =
      .ok ⟨Path.ofString "Report.tsx", true, false, false, false, false, none⟩ ∧
    (∀ t : FileTree,
      Ends checkNamed ⟨Path.ofString "Report.tsx", true, false, false, false, false, none⟩ t) ∧
    ∀ d : Disk,
      Ends checkNamed ⟨Path.ofString "Report.tsx", true, false, false, false, false, none⟩ d := by
  have h : Settings.ofArguments checkNamed.arguments checkNamed.target =
      .ok ⟨Path.ofString "Report.tsx", true, false, false, false, false, none⟩ := by
    decide +kernel
  exact ⟨h, run_ends h⟩

end Program

end MarkerSweep
