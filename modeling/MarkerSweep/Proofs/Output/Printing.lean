import MarkerSweep.Command
/-!
# Writing piece by piece

Where a text is cut into pieces makes no difference to what a sink keeps of it: after the first piece
that does not fit whole, nothing more is written (`Sink.write_append`). So what is written piece by
piece comes to the same as its whole text written at once (`Prints`). This is seen of the diff, of the
summary and of the status line by following how they are written.
-/

set_option autoImplicit false

namespace MarkerSweep

/-! ## Sinks -/

namespace Sink

/-- A sink holds no more than it takes. -/
def Sound (s : Sink) : Prop := ∀ n, s.limit = some n → s.written.size ≤ n

theorem sound_empty {limit : Option Nat} : Sound { limit } := fun n _ => Nat.zero_le n

/-- The sink with some more bytes in it. -/
def add (s : Sink) (bytes : Array UInt8) : Sink := { s with written := s.written ++ bytes }

variable {s : Sink} {n : Nat}

@[simp] theorem size_add (bytes : Array UInt8) :
    (s.add bytes).written.size = s.written.size + bytes.size := Array.size_append

theorem add_append (a b : Array UInt8) : s.add (a ++ b) = (s.add a).add b := by
  rw [add, add, add, Array.append_assoc]

theorem writeBytes_none (h : s.limit = none) (bytes : Array UInt8) :
    s.writeBytes bytes = (s.add bytes, .ok ()) := by
  simp [writeBytes, h, add]

theorem writeBytes_fits (h : s.limit = some n) {bytes : Array UInt8}
    (hfits : s.written.size + bytes.size ≤ n) : s.writeBytes bytes = (s.add bytes, .ok ()) := by
  simp [writeBytes, h, hfits, add]

theorem writeBytes_full (h : s.limit = some n) {bytes : Array UInt8}
    (hfull : n < s.written.size + bytes.size) :
    s.writeBytes bytes = (s.add (bytes.extract 0 (n - s.written.size)), .error .writerFull) := by
  simp [writeBytes, h, Nat.not_le.mpr hfull, add]

/-- Goes on with a sink after a write, unless the write failed. -/
def andThen (answer : Sink × Except IoError Unit) (next : Sink → Sink × Except IoError Unit) :
    Sink × Except IoError Unit :=
  match answer with
  | (s, .ok ()) => next s
  | (s, .error e) => (s, .error e)

theorem writeBytes_append (s : Sink) (a b : Array UInt8) :
    s.writeBytes (a ++ b) = andThen (s.writeBytes a) (·.writeBytes b) := by
  cases h : s.limit with
  | none =>
    rw [writeBytes_none h, writeBytes_none h, andThen, writeBytes_none (s := s.add a) h, add_append]
  | some n =>
    have hsize : (a ++ b).size = a.size + b.size := Array.size_append
    have hadd : (s.add a).written.size = s.written.size + a.size := size_add a
    have hcut : ∀ room, (a ++ b).extract 0 room = a.extract 0 room ++ b.extract 0 (room - a.size) := by
      intro room
      rw [Array.extract_append, Nat.zero_sub]
    by_cases hfirst : s.written.size + a.size ≤ n
    · rw [writeBytes_fits h hfirst, andThen]
      by_cases hboth : s.written.size + a.size + b.size ≤ n
      · rw [writeBytes_fits h (by omega), writeBytes_fits (s := s.add a) h (by omega), add_append]
      · -- the first part fits, so the cut is in the second
        rw [writeBytes_full h (by omega), writeBytes_full (s := s.add a) h (by omega), hcut,
          Array.extract_eq_self_of_le (by omega), add_append, hadd, Nat.sub_sub]
    · rw [writeBytes_full h (by omega), writeBytes_full h (by omega), andThen, hcut,
        show n - s.written.size - a.size = 0 by omega, Array.extract_zero, Array.append_empty]

theorem write_append (s : Sink) (a b : String) :
    s.write (a ++ b) = andThen (s.write a) (·.write b) := by
  simp only [write, String.toUTF8_eq_toByteArray, String.toByteArray_append, ByteArray.data_append]
  exact s.writeBytes_append _ _

theorem write_empty (hs : s.Sound) : s.write "" = (s, .ok ()) := by
  have hadd : s.add "".toUTF8.data = s := by
    rw [add, show "".toUTF8.data = #[] from rfl, Array.append_empty]
  cases h : s.limit with
  | none => rw [write, writeBytes_none h, hadd]
  | some n => rw [write, writeBytes_fits h (by simpa using hs n h), hadd]

theorem sound_of_write {text : String} {s' : Sink} (h : s.write text = (s', .ok ())) : s'.Sound := by
  intro n hn
  cases hlimit : s.limit with
  | none =>
    rw [write, writeBytes_none hlimit] at h
    obtain rfl := (Prod.mk.inj h).1
    cases hlimit.symm.trans hn
  | some m =>
    by_cases hfits : s.written.size + text.toUTF8.data.size ≤ m
    · rw [write, writeBytes_fits hlimit hfits] at h
      obtain rfl := (Prod.mk.inj h).1
      obtain rfl := Option.some.inj (hlimit.symm.trans hn)
      rwa [size_add]
    · rw [write, writeBytes_full hlimit (by omega)] at h
      cases (Prod.mk.inj h).2

/-- Without a limit an empty sink keeps everything. -/
theorem write_unlimited (text : String) : write {} text = (⟨none, text.toUTF8.data⟩, .ok ()) := by
  rw [write, writeBytes_none rfl, add, Array.empty_append]

/-- An empty sink keeps as much as it takes. -/
theorem write_limit (n : Nat) (text : String) : write { limit := some n } text =
    (⟨some n, text.toUTF8.data.extract 0 n⟩,
      if text.toUTF8.data.size ≤ n then .ok () else .error .writerFull) := by
  have hadd : ∀ bytes, add { limit := some n } bytes = ⟨some n, bytes⟩ := fun bytes => by
    rw [add, Array.empty_append]
  by_cases hfits : text.toUTF8.data.size ≤ n
  · rw [write, writeBytes_fits rfl (by simpa using hfits), hadd, if_pos hfits,
      Array.extract_eq_self_of_le hfits]
  · rw [write, writeBytes_full rfl (by simpa using hfits), hadd, if_neg hfits]
    rfl

end Sink

open Sink

/-! ## Printing -/

theorem Printing.on_bind (p q : Printing Unit) (s : Sink) :
    Printing.on (do p; q) s = andThen (p.on s) q.on := by
  have hbind : StateT.run (ExceptT.run (do p; q)) s =
      match StateT.run (ExceptT.run p) s with
      | (.ok (), s') => StateT.run (ExceptT.run q) s'
      | (.error e, s') => (.error e, s') := by
    rw [ExceptT.run_bind, StateT.run_bind]
    obtain ⟨answer, s'⟩ := StateT.run (ExceptT.run p) s
    cases answer <;> rfl
  rw [Printing.on, hbind, Printing.on]
  obtain ⟨answer, s'⟩ := StateT.run (ExceptT.run p) s
  cases answer <;> rfl

/-- On any sink that is not already beyond its limit, it comes to writing the text at once. -/
def Prints (p : Printing Unit) (text : String) : Prop := ∀ s : Sink, s.Sound → p.on s = s.write text

namespace Prints

theorem text (t : String) : Prints (Printing.text t) t := fun _ _ => rfl

theorem nothing : Prints (pure ()) "" := fun _ hs => (write_empty hs).symm

variable {p q : Printing Unit} {a b : String}

theorem bind (hp : Prints p a) (hq : Prints q b) : Prints (do p; q) (a ++ b) := by
  intro s hs
  rw [Printing.on_bind, hp s hs, write_append]
  cases h : s.write a with
  | mk s' answer =>
    cases answer with
    | error e => rfl
    | ok => exact hq s' (sound_of_write h)

theorem forM {α : Type} {p : α → Printing Unit} {f : α → String} (h : ∀ a, Prints (p a) (f a)) :
    ∀ l : List α, Prints (l.forM p) (String.join (l.map f))
  | [] => nothing
  | a :: l => by
    rw [List.map_cons, String.join_cons]
    exact (h a).bind (forM h l)

theorem ite {c : Bool} (hp : Prints p a) : Prints (if c then p else pure ()) (if c then a else "") := by
  cases c
  · exact nothing
  · exact hp

end Prints

/-! ## What the outputs print -/

variable (t : Theme) (colored : Bool)

theorem Theme.prints (e : Entry) (text : String) :
    Prints (t.print colored e text) (t.paint colored e text) := by
  rw [print, paint]
  cases t.color? e with
  | none => exact .text text
  | some c =>
    cases colored with
    | false => exact .text text
    | true =>
      dsimp only [if_true]
      rw [Color.paint, String.append_assoc]
      exact (Prints.text _).bind ((Prints.text _).bind (.text _))

theorem Theme.prints_line (e : Entry) (text : String) :
    Prints (t.printLine colored e text) (t.line colored e text) :=
  (t.prints colored e text).bind (.text _)

namespace Output

open Diff

theorem prints_hunkLine : ∀ l : HunkLine (List Char),
    Prints (printHunkLine t colored l) (hunkLine t colored l)
  | .context line => by
    have hsigned : hunkLine t colored (.context line) =
        " " ++ (String.ofList (Text.bare line) ++ "\n") := by
      rw [hunkLine, signed, ← String.append_assoc, ← String.toList_inj]
      simp
    rw [hsigned]
    exact (Prints.text _).bind ((Prints.text _).bind (.text _))
  | .delete line => t.prints_line colored _ _
  | .insert line => t.prints_line colored _ _

theorem prints_hunk (h : Hunk (List Char)) : Prints (printHunk t colored h) (hunk t colored h) :=
  (t.prints_line colored _ _).bind (.forM (prints_hunkLine t colored) _)

theorem prints_diff (label old new : String) :
    Prints (printDiff t colored label old new) (diff t colored label old new) := by
  rw [printDiff, diff]
  cases ofTexts old new with
  | nil => exact .nothing
  | cons h hunks =>
    dsimp only
    rw [String.append_assoc]
    exact (t.prints_line colored _ _).bind
      ((t.prints_line colored _ _).bind (.forM (prints_hunk t colored) _))

theorem prints_summaryLine (h : Hit) :
    Prints (printSummaryLine t colored h) (summaryLine t colored h) := by
  rw [summaryLine]
  simp only [String.append_assoc]
  exact (Prints.text _).bind ((t.prints colored _ _).bind ((Prints.text _).bind
    ((t.prints colored _ _).bind (.text _))))

theorem prints_summary (hits : Summary) :
    Prints (printSummary t colored hits) (summary t colored hits) := by
  cases hits with
  | nil => exact .text _
  | cons h hits => exact (Prints.text _).bind (.forM (prints_summaryLine t colored) _)

end Output

namespace Command

theorem prints_err (o : Options) (t : Theme) (r : Report) :
    Prints (printErr o t r) (errText o t r) := by
  have hsummary := Prints.ite (c := o.summary) (Output.prints_summary t o.errColored r.summary)
  rw [printErr, errText]
  cases o.diff with
  | false =>
    rw [if_neg Bool.false_ne_true, if_neg Bool.false_ne_true, String.empty_append]
    exact hsummary
  | true =>
    rw [if_pos rfl, if_pos rfl]
    exact (Output.prints_diff t o.errColored r.path.display r.before r.cleaned).bind hsummary

theorem prints_out (o : Options) (t : Theme) (r : Report) : Prints (printOut o t r) (outText o t r) :=
  t.prints_line o.outColored _ _

/-- Telling comes to one write to each output, and to none to the standard output if the first one
fails. -/
theorem tell_eq {c : Console} (herr : c.err.Sound) (hout : c.out.Sound) (o : Options) (t : Theme)
    (r : Report) : tell o t c r =
      match c.err.write (errText o t r) with
      | (err, .error e) => ({ c with err := err }, .error e)
      | (err, .ok ()) => (⟨(c.out.write (outText o t r)).1, err⟩, (c.out.write (outText o t r)).2) := by
  rw [tell, prints_err o t r c.err herr]
  obtain ⟨err, answer⟩ := c.err.write (errText o t r)
  cases answer with
  | error e => rfl
  | ok =>
    exact congrArg (fun answer => ((⟨answer.1, err⟩ : Console), answer.2))
      (prints_out o t r c.out hout)

end Command

end MarkerSweep
