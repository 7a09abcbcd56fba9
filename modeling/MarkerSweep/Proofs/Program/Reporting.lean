import MarkerSweep.Proofs.Program.Endings
/-!
# What reporting leaves alone

How much is told of a run depends on the settings `quiet`, `debug`, `diff` and `summary`, on the theme,
and on the filter in the environment. All of that goes to the error output. The rest of what is seen of
a run (`Program.Seen`) is a function of the target and of whether it is only to be checked
(`Program.plainly`), so two runs that agree on these look the same (`Program.seen_alike`), even if the
standard output takes only so much.
-/

set_option autoImplicit false

namespace MarkerSweep

open CommandLine (Settings)

variable {σ : Type} [Store (StateM σ)]

/-! ## What is seen of a run -/

namespace Program

/-- What is seen of a run, but for its error output. -/
structure Seen (σ : Type) where
  code : Nat
  out : Array UInt8
  files : σ

def seen (x : Exit × σ) : Seen σ := ⟨x.1.code, x.1.out, x.2⟩

/-- The exit code that the command leads to. -/
def codeOf (s : Settings) : Except Failure Report → Nat
  | .ok r => exitCode s r
  | .error _ => 1

/-- What is seen once the command has come to an end. -/
def seenOfRun (s : Settings) (x : Run × σ) : Seen σ :=
  ⟨codeOf s x.1.result, x.1.console.out.written, x.2⟩

/-- What is to be seen of a target that is only to be checked, or to be cleaned. -/
def plainly (path : Path) (check : Bool) (out : Sink) (st : σ) : Seen σ :=
  let mode := if check then .check else .write
  match Cleaner.call builtinCompiled.engine path mode st with
  | (.error _, st) => ⟨1, out.written, st⟩
  | (.ok r, st) =>
    match out.write ((Output.Status.of r.changed mode).text r.path ++ "\n") with
    | (out, .ok ()) => ⟨if check && r.changed then 1 else 0, out.written, st⟩
    | (out, .error _) => ⟨1, out.written, st⟩

section

variable {s : Settings} {out : Sink} {st st' : σ}

theorem plainly_of_error {f : Failure} (h : targetCall s st = (.error f, st')) :
    plainly s.path s.check out st = ⟨1, out.written, st'⟩ := by
  have hcall : Cleaner.call builtinCompiled.engine s.path (if s.check then .check else .write) st =
      (.error f, st') := h
  rw [plainly]
  simp only [hcall]

theorem plainly_of_ok (t : Theme) {r : Report} (h : targetCall s st = (.ok r, st')) :
    plainly s.path s.check out st =
      match out.write (Command.outText (options s) t r) with
      | (out, .ok ()) => ⟨exitCode s r, out.written, st'⟩
      | (out, .error _) => ⟨1, out.written, st'⟩ := by
  have hcall : Cleaner.call builtinCompiled.engine s.path (if s.check then .check else .write) st =
      (.ok r, st') := h
  rw [outText_options, options, plainly]
  simp only [hcall, exitCode]

end

theorem seen_command (s : Settings) (t : Theme) {out : Sink} (hout : out.Sound) (st : σ) :
    seenOfRun s ((Command.run builtinCompiled.engine (options s) t ⟨out, {}⟩ : StateM σ _).run st) =
      plainly s.path s.check out st := by
  obtain ⟨answer, st', hcall⟩ : ∃ answer st', targetCall s st = (answer, st') := ⟨_, _, rfl⟩
  cases answer with
  | error f =>
    obtain ⟨records, hrun⟩ :=
      Command.run_of_error (t := t) (c := ⟨out, {}⟩) (o := options s) hcall
    rw [hrun, plainly_of_error hcall]
    rfl
  | ok r =>
    obtain ⟨x, hrun, hconsole, hresult⟩ :=
      Command.run_of_ok (t := t) (o := options s) hout hcall
    rw [hrun, seenOfRun, hconsole, hresult, plainly_of_ok t hcall]
    obtain ⟨out', written⟩ := out.write (Command.outText (options s) t r)
    cases written <;> rfl

/-- The program adds nothing to what is seen of the command. -/
theorem seen_clean (filter : LogFilter) (s : Settings) (t : Theme) (err : Array UInt8) (st : σ) :
    seen ((clean filter s t err : StateM σ _).run st) = plainly s.path s.check {} st := by
  obtain ⟨answer, st', hcall⟩ : ∃ answer st', targetCall s st = (answer, st') := ⟨_, _, rfl⟩
  cases answer with
  | error f =>
    obtain ⟨earlier, hclean⟩ := clean_of_error filter t err hcall
    rw [hclean, plainly_of_error hcall]
    rfl
  | ok r =>
    obtain ⟨x, hclean, hcode, hout⟩ := clean_of_ok filter t err hcall
    rw [hclean, plainly_of_ok t hcall, Sink.write_unlimited, seen, hcode, hout, outText_options]

/-! ## Two runs -/

section

variable [Steady σ] {i : Invocation} {s : Settings} {st : σ}

/-- If a theme is asked for, its file can be read and holds one. -/
def ThemeLoads (s : Settings) (st : σ) : Prop :=
  ∀ path, s.theme = some path → ∃ t, Theme.load path (Steady.read st path) = .ok t

theorem loadTheme_of_loads (h : ThemeLoads s st) : ∃ t, loadTheme s st = .ok t := by
  rw [loadTheme]
  cases htheme : s.theme with
  | none => exact ⟨_, rfl⟩
  | some path =>
    obtain ⟨t, ht⟩ := h path htheme
    exact ⟨t, by simp only [ht, Except.mapError]⟩

theorem seen_finish (hs : Settings.ofArguments i.arguments i.target = .ok s)
    (htheme : ThemeLoads s st) : seen (finish i st) = plainly s.path s.check {} st := by
  obtain ⟨t, ht⟩ := loadTheme_of_loads htheme
  obtain ⟨filter, err, hrun⟩ := run_of_theme hs ht
  rw [finish, hrun, seen_clean]

end

/-- Runs on the same target that are all to check it, or all to clean it, look the same to one who does
not see the error output, if the themes they ask for load: on a tree of files, and on a disk whose
system may refuse to read and to write. That is so even for a standard output that takes only so
much. -/
theorem seen_alike {i₁ i₂ : Invocation} {s₁ s₂ : Settings}
    (h₁ : Settings.ofArguments i₁.arguments i₁.target = .ok s₁)
    (h₂ : Settings.ofArguments i₂.arguments i₂.target = .ok s₂)
    (hpath : s₁.path = s₂.path) (hcheck : s₁.check = s₂.check) :
    (∀ t : FileTree, ThemeLoads s₁ t → ThemeLoads s₂ t →
        seen (finish i₁ t) = seen (finish i₂ t)) ∧
      (∀ d : Disk, ThemeLoads s₁ d → ThemeLoads s₂ d →
        seen (finish i₁ d) = seen (finish i₂ d)) ∧
      ∀ (d : Disk) (limit : Option Nat) (t₁ t₂ : Theme),
        let after := fun (s : Settings) (t : Theme) =>
          (Command.run builtinCompiled.engine (options s) t ⟨{ limit }, {}⟩ : StateM Disk _).run d
        seenOfRun s₁ (after s₁ t₁) = seenOfRun s₂ (after s₂ t₂) := by
  refine ⟨fun t ht₁ ht₂ => ?_, fun d hd₁ hd₂ => ?_, fun d limit t₁ t₂ => ?_⟩
  · rw [seen_finish h₁ ht₁, seen_finish h₂ ht₂, hpath, hcheck]
  · rw [seen_finish h₁ hd₁, seen_finish h₂ hd₂, hpath, hcheck]
  · intro after
    simp only [after]
    rw [seen_command s₁ t₁ Sink.sound_empty, seen_command s₂ t₂ Sink.sound_empty, hpath, hcheck]

/-- Nothing is asked for but to clean a file. -/
def silent : Invocation where
  arguments := ["Report.tsx".toUTF8]

/-- All there is to tell of the same file is asked for, in the colours of a theme. -/
def talkative : Invocation where
  arguments := ["-Dsd", "--theme", "theme.yaml"].map String.toUTF8
  target := some "Report.tsx".toUTF8
  logFilter := some "trace".toUTF8

def silentSettings : Settings := ⟨Path.ofString "Report.tsx", false, false, false, false, false, none⟩

def talkativeSettings : Settings :=
  { silentSettings with
    diff := true, summary := true, debug := true, theme := some (Path.ofString "theme.yaml") }

def themeText : String := "success: \x7b fg: magenta \x7d\n"

/-- The directory of both runs. -/
def directory : FileTree :=
  ((FileTree.empty []).addFile (Path.ofString "Report.tsx")
      "// MF_REPORT_A\nrender();\n".toUTF8).addFile
    (Path.ofString "theme.yaml") themeText.toUTF8

theorem themeLoads_talkative : ThemeLoads talkativeSettings directory := by
  intro path hpath
  obtain rfl : Path.ofString "theme.yaml" = path := Option.some.inj hpath
  have hread : Steady.read directory (Path.ofString "theme.yaml") = .ok themeText := by
    decide +kernel
  have hparse : Theme.parse themeText = .ok [(.success, ⟨some ⟨"magenta"⟩⟩)] := by
    decide +kernel
  refine ⟨(Theme.ofStyles [(.success, ⟨some ⟨"magenta"⟩⟩)]).filled Theme.builtinStyles, ?_⟩
  simp only [hread, Theme.load, hparse]

theorem seen_alike_talkative :
    Settings.ofArguments silent.arguments silent.target = .ok silentSettings ∧
      Settings.ofArguments talkative.arguments talkative.target = .ok talkativeSettings ∧
      seen (finish silent directory) = seen (finish talkative directory) := by
  have hsilent : Settings.ofArguments silent.arguments silent.target = .ok silentSettings := by
    decide +kernel
  have htalkative : Settings.ofArguments talkative.arguments talkative.target =
      .ok talkativeSettings := by
    decide +kernel
  obtain ⟨htrees, -, -⟩ := seen_alike hsilent htalkative rfl rfl
  exact ⟨hsilent, htalkative,
    htrees directory (fun path hpath => by cases hpath) themeLoads_talkative⟩

end Program

end MarkerSweep
