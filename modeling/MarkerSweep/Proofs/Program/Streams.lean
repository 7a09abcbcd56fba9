import MarkerSweep.Proofs.Output.Printing
import MarkerSweep.Proofs.Store.Cleaning
/-!
# Outputs that take only so much

Both outputs of the command may fill up at any byte. The error output then keeps as much as it takes of
what there is to write to it, and the standard output gets nothing unless all of that has been written
(`Command.run_limited`). No failure to write goes unnoticed, and none has any effect on the files: they
are as cleaning has left them, whatever is told about it.
-/

set_option autoImplicit false

namespace MarkerSweep

variable {σ : Type} [Store (StateM σ)]

/-! ## Reports -/

namespace Cleaner

/-- The report is about what has happened: the file has been read and cleaned, and its new text has been
written exactly if the report says so. -/
structure Reported (e : Engine) (path : Path) (mode : Mode) (s s' : σ) (r : Report) : Prop where
  sets : r.path = path ∧ r.changed = (r.cleaned != r.before) ∧
    r.written = (r.changed && mode = .write)
  cleans : (e.clean r.before path.display).value = .ok (r.cleaned, r.summary)
  stores : ∃ s₁, (Store.read path : StateM σ _).run s = (.ok r.before, s₁) ∧
    if r.written then attempt path r.cleaned s₁ = (.ok (), s') else s' = s₁

variable {e : Engine} {path : Path} {mode : Mode} {s s₁ s' : σ} {before : String} {o : Outcome}
  {r : Report}

/-- What saving comes to when it goes well. -/
theorem report_of_save {records : List Record}
    (h : (save path mode before o : StateM σ _).run s₁ = (⟨.ok r, records⟩, s')) :
    r = report path before o (o.changed && mode = .write) ∧
      if o.changed && mode = .write then attempt path o.text s₁ = (.ok (), s') else s' = s₁ := by
  rw [save] at h
  split at h
  · rename_i hdue
    obtain ⟨answer, s₂, hwrite⟩ : ∃ answer s₂, attempt path o.text s₁ = (answer, s₂) := ⟨_, _, rfl⟩
    rw [run_bind_of_run hwrite] at h
    cases answer with
    | ok =>
      obtain ⟨hvalue, rfl⟩ := Prod.mk.inj h
      obtain rfl := Except.ok.inj (Logged.mk.inj hvalue).1
      rw [if_pos hdue, hdue]
      exact ⟨rfl, hwrite⟩
    | error error => cases (Logged.mk.inj (Prod.mk.inj h).1).1
  · rename_i hkept
    obtain ⟨hvalue, rfl⟩ := Prod.mk.inj h
    obtain rfl := Except.ok.inj (Logged.mk.inj hvalue).1
    rw [if_neg hkept, Bool.eq_false_iff.mpr hkept]
    exact ⟨rfl, rfl⟩

theorem reported_of_call (h : call e path mode s = (.ok r, s')) : Reported e path mode s s' r := by
  obtain ⟨answer, s₁, hread⟩ :
    ∃ answer s₁, (Store.read path : StateM σ _).run s = (answer, s₁) := ⟨_, _, rfl⟩
  rw [call, clean, run_bind_of_run hread] at h
  cases answer with
  | error error => cases (Prod.mk.inj h).1
  | ok before =>
    cases hengine : (e.clean before path.display).value with
    | error f =>
      simp only [Engine.outcome, hengine] at h
      cases (Prod.mk.inj h).1
    | ok cleaned =>
      obtain ⟨cleaned, summary⟩ := cleaned
      obtain ⟨⟨value, records⟩, s₂, hsave⟩ : ∃ l s₂,
        (save path mode before ⟨cleaned, cleaned != before, summary⟩ : StateM σ _).run s₁ = (l, s₂) :=
        ⟨_, _, rfl⟩
      simp only [Engine.outcome, hengine, Except.map, run_bind_of_run hsave] at h
      obtain ⟨rfl, rfl⟩ := Prod.mk.inj h
      obtain ⟨rfl, hstore⟩ := report_of_save hsave
      exact ⟨⟨rfl, rfl, rfl⟩, hengine, s₁, hread, hstore⟩

end Cleaner

/-! ## The command -/

/-- What a sink without a limit gets. -/
def Printing.bytes (p : Printing Unit) : Array UInt8 := (p.on {}).1.written

theorem Prints.bytes_eq {p : Printing Unit} {text : String} (h : Prints p text) :
    p.bytes = text.toUTF8.data := by
  rw [Printing.bytes, h _ Sink.sound_empty, Sink.write_unlimited]

namespace Command

/-- All there is for the error output: the diff and the summary, if they are asked for. -/
def errBytes (o : Options) (t : Theme) (r : Report) : Array UInt8 :=
  (if o.diff then (Output.printDiff t o.errColored r.path.display r.before r.cleaned).bytes
    else #[]) ++
  (if o.summary then (Output.printSummary t o.errColored r.summary).bytes else #[])

/-- All there is for the standard output: the status line. -/
def outBytes (o : Options) (t : Theme) (r : Report) : Array UInt8 := (printOut o t r).bytes

theorem errBytes_eq (o : Options) (t : Theme) (r : Report) :
    errBytes o t r = (errText o t r).toUTF8.data := by
  rw [errBytes, (Output.prints_diff _ _ _ _ _).bytes_eq, (Output.prints_summary _ _ _).bytes_eq,
    errText]
  simp only [String.toUTF8_eq_toByteArray, String.toByteArray_append, ByteArray.data_append]
  cases o.diff <;> cases o.summary <;> rfl

theorem outBytes_eq (o : Options) (t : Theme) (r : Report) :
    outBytes o t r = (outText o t r).toUTF8.data := (prints_out o t r).bytes_eq

/-- A report, told to outputs that take only so many bytes. -/
structure Told (o : Options) (t : Theme) (r : Report) (nOut nErr : Nat) (x : Run) : Prop where
  err : x.console.err.written = (errBytes o t r).extract 0 nErr
  out : x.console.out.written =
    if (errBytes o t r).size ≤ nErr then (outBytes o t r).extract 0 nOut else #[]
  result : x.result =
    if (errBytes o t r).size ≤ nErr ∧ (outBytes o t r).size ≤ nOut then .ok r
    else .error (Failure.ofCause (.io .writerFull))

/-- Outputs that take only so many bytes. -/
def limited (nOut nErr : Nat) : Console := ⟨{ limit := some nOut }, { limit := some nErr }⟩

theorem tell_limited (o : Options) (t : Theme) (r : Report) (nOut nErr : Nat) :
    tell o t (limited nOut nErr) r =
      (⟨⟨some nOut, if (errBytes o t r).size ≤ nErr then (outBytes o t r).extract 0 nOut else #[]⟩,
          ⟨some nErr, (errBytes o t r).extract 0 nErr⟩⟩,
        if (errBytes o t r).size ≤ nErr ∧ (outBytes o t r).size ≤ nOut then .ok ()
        else .error .writerFull) := by
  rw [tell_eq Sink.sound_empty Sink.sound_empty, errBytes_eq, outBytes_eq, limited, Sink.write_limit,
    Sink.write_limit]
  by_cases herr : (errText o t r).toUTF8.data.size ≤ nErr
  · simp only [herr, if_true, true_and]
  · simp only [herr, false_and, if_false]

/-- The status line says of the file what has happened to it. -/
structure StatusLine (o : Options) (t : Theme) (r : Report) : Prop where
  line : outBytes o t r =
    ((Output.Status.of r.changed o.mode).line t o.outColored o.path).toUTF8.data
  cleaned_iff : Output.Status.of r.changed o.mode = .cleaned ↔ r.written = true
  pending_iff : Output.Status.of r.changed o.mode = .pending ↔ r.changed = true ∧ o.mode = .check
  unchanged_iff : Output.Status.of r.changed o.mode = .unchanged ↔ r.changed = false

variable {e : Engine} {o : Options} {t : Theme} {s s' : σ} {r : Report}

theorem statusLine_of_reported (h : Cleaner.Reported e o.path o.mode s s' r) : StatusLine o t r := by
  obtain ⟨hpath, -, hwritten⟩ := h.sets
  constructor
  · rw [outBytes_eq, outText, hpath]
  · rw [hwritten]
    cases r.changed <;> cases o.mode <;> decide
  · cases r.changed <;> cases o.mode <;> decide
  · cases r.changed <;> cases o.mode <;> decide

/-- With outputs that take only so many bytes, whatever the engine, the options and the theme: the store
is left as cleaning leaves it, which has nothing to do with what there is to tell or with how much of
it is taken. If cleaning fails, nothing is told. -/
theorem run_limited (e : Engine) (o : Options) (t : Theme) (s : σ) (nOut nErr : Nat) : ∃ x,
    (run e o t (limited nOut nErr) : StateM σ _).run s = (x, (Cleaner.call e o.path o.mode s).2) ∧
    match (Cleaner.call e o.path o.mode s).1 with
    | .error f => x.result = .error (f.within ("Failed to clean " ++ o.path.display)) ∧
        x.console.out.written = #[] ∧ x.console.err.written = #[]
    | .ok r => Cleaner.Reported e o.path o.mode s (Cleaner.call e o.path o.mode s).2 r ∧
        StatusLine o t r ∧ Told o t r nOut nErr x := by
  obtain ⟨answer, s', hcall⟩ : ∃ answer s', Cleaner.call e o.path o.mode s = (answer, s') :=
    ⟨_, _, rfl⟩
  have hclean := Cleaner.run_clean e o.path o.mode s
  rw [hcall] at hclean ⊢
  rw [run, run_bind_of_run hclean]
  cases answer with
  | error f => exact ⟨_, rfl, rfl, rfl, rfl⟩
  | ok r =>
    have hreported := Cleaner.reported_of_call hcall
    have hstatus : StatusLine o t r := statusLine_of_reported hreported
    simp only [tell_limited]
    by_cases hfits : (errBytes o t r).size ≤ nErr ∧ (outBytes o t r).size ≤ nOut
    · simp only [if_pos hfits]
      exact ⟨_, rfl, hreported, hstatus, rfl, rfl, (if_pos hfits).symm⟩
    · simp only [if_neg hfits]
      exact ⟨_, rfl, hreported, hstatus, rfl, rfl, (if_neg hfits).symm⟩

end Command

end MarkerSweep
