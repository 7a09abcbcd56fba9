import MarkerSweep.Proofs.Diff.Patch
import MarkerSweep.Proofs.Output.Printing
/-!
# Colours as decoration

Output is written in fragments, some as they are and some as parts of the output that may have a colour.
A fragment with a colour is written together with the sequence that sets the colour and the one that
takes it back. The fragments are the same in colours and without (`Output.MadeOf`), and if none has an
escape character of its own, deleting all sequences from what is written in colours gives what is written
without (`MadeOf.decorated`). That the diff, the summary and single lines are made of fragments is seen by
following how they are written; only for the lines of a diff does one have to know where they come from
(`plain_hunkLine`).
-/

set_option autoImplicit false

namespace MarkerSweep

/-- The text carries no escape character. -/
def Plain (text : String) : Prop := Color.escape ∉ text.toList

instance : DecidablePred Plain := fun text => inferInstanceAs (Decidable (Color.escape ∉ text.toList))

/-! ## Deleting sequences -/

namespace Color

/-- How many characters the sequence has with which a text starts, if there is one: an escape character,
a bracket, digits and an `m`. -/
def sequenceLength : List Char → Nat
  | c :: '[' :: rest =>
    let digits := rest.takeWhile Char.isDigit
    if c = escape ∧ digits ≠ [] ∧ (rest.drop digits.length).head? = some 'm' then
      digits.length + 3
    else 0
  | _ => 0

/-- A text without its sequences, once the given number of characters has been passed over. -/
def unstyledFrom : Nat → List Char → List Char
  | _, [] => []
  | skipped + 1, _ :: rest => unstyledFrom skipped rest
  | 0, c :: rest =>
    match sequenceLength (c :: rest) with
    | 0 => c :: unstyledFrom 0 rest
    | length + 1 => unstyledFrom length rest

/-- A text without its sequences. -/
def unstyled (text : String) : String := String.ofList (unstyledFrom 0 text.toList)

theorem sequenceLength_of_ne {c : Char} (h : c ≠ escape) (rest : List Char) :
    sequenceLength (c :: rest) = 0 := by
  unfold sequenceLength
  split
  · rename_i heq
    obtain ⟨rfl, -⟩ := List.cons.inj heq
    simp [h]
  · rfl

theorem toList_sequence (n : Nat) :
    (sequence n).toList = escape :: '[' :: (Nat.toDigits 10 n ++ ['m']) := by
  simp [sequence]

theorem sequenceLength_sequence (n : Nat) (rest : List Char) :
    sequenceLength ((sequence n).toList ++ rest) = (sequence n).toList.length := by
  have hdigits : ∀ c ∈ Nat.toDigits 10 n, c.isDigit = true :=
    fun c hc => Nat.isDigit_of_mem_toDigits (by decide) (by decide) hc
  have htake : (Nat.toDigits 10 n ++ 'm' :: rest).takeWhile Char.isDigit = Nat.toDigits 10 n := by
    rw [List.takeWhile_append_of_pos hdigits]
    simp
  have hne : Nat.toDigits 10 n ≠ [] := Nat.toDigits_ne_nil
  rw [toList_sequence]
  simp [sequenceLength, htake, hne]

theorem unstyledFrom_append : ∀ a b : List Char, unstyledFrom a.length (a ++ b) = unstyledFrom 0 b
  | [], _ => rfl
  | _ :: a, b => unstyledFrom_append a b

theorem unstyledFrom_append_of_plain {a : List Char} (h : escape ∉ a) (b : List Char) :
    unstyledFrom 0 (a ++ b) = a ++ unstyledFrom 0 b := by
  induction a with
  | nil => rfl
  | cons c a ih =>
    obtain ⟨hc, ha⟩ := not_or.mp (mt List.mem_cons.mpr h)
    rw [List.cons_append, unstyledFrom, sequenceLength_of_ne (Ne.symm hc)]
    exact congrArg (c :: ·) (ih ha)

theorem unstyled_append_of_plain {a : String} (h : Plain a) (b : String) :
    unstyled (a ++ b) = a ++ unstyled b := by
  rw [unstyled, String.toList_append, unstyledFrom_append_of_plain h, unstyled]
  simp

theorem unstyled_sequence_append (n : Nat) (b : String) :
    unstyled (sequence n ++ b) = unstyled b := by
  have hlength := sequenceLength_sequence n b.toList
  rw [unstyled, String.toList_append, unstyled]
  rw [toList_sequence] at hlength ⊢
  rw [List.cons_append] at hlength ⊢
  rw [unstyledFrom, hlength]
  exact congrArg String.ofList (unstyledFrom_append ('[' :: (Nat.toDigits 10 n ++ ['m'])) b.toList)

example : unstyled "\x1b[32mgreen\x1b[39m \x1b[m" = "green \x1b[m" := by decide +kernel

end Color

/-! ## Plain texts -/

theorem plain_append {a b : String} : Plain (a ++ b) ↔ Plain a ∧ Plain b := by
  simp [Plain]

theorem plain_toString (n : Nat) : Plain (toString n) := by
  have hdigits : (toString n).toList = Nat.toDigits 10 n := by simp
  rw [Plain, hdigits]
  exact Diff.not_mem_toDigits rfl n

/-- Wherever a colour is set in the text, plain text follows and then the sequence that takes the colour
back, and there are no other sequences. -/
inductive Framed : String → Prop
  | nil : Framed ""
  | plain {a b : String} : Plain a → Framed b → Framed (a ++ b)
  | colored (c : Color) {a b : String} : Plain a → Framed b →
      Framed (Color.sequence c.code ++ a ++ Color.sequence Color.resetCode ++ b)

/-! ## Fragments -/

namespace Output

/-- What is written at once: a text as it is, or a text as a part of the output. -/
inductive Fragment
  | bare (text : String)
  | styled (e : Entry) (text : String)

namespace Fragment

def text : Fragment → String
  | bare text | styled _ text => text

def color? (t : Theme) : Fragment → Option Color
  | bare _ => none
  | styled e _ => t.color? e

def print (t : Theme) (colored : Bool) : Fragment → Printing Unit
  | bare text => Printing.text text
  | styled e text => t.print colored e text

/-- The text that is written of a fragment. -/
def paint (t : Theme) (colored : Bool) : Fragment → String
  | bare text => text
  | styled e text => t.paint colored e text

variable {t : Theme} {colored : Bool} {f : Fragment}

theorem prints : ∀ f : Fragment, Prints (f.print t colored) (f.paint t colored)
  | bare text => .text text
  | styled e text => t.prints colored e text

theorem paint_uncolored : ∀ f : Fragment, f.paint t false = f.text
  | bare _ => rfl
  | styled e text => by
    rw [paint, Theme.paint]
    split <;> rfl

theorem paint_of_none (h : f.color? t = none) : f.paint t true = f.text := by
  cases f with
  | bare text => rfl
  | styled e text =>
    rw [color?] at h
    rw [paint, Theme.paint, h]
    rfl

theorem paint_of_some {c : Color} (h : f.color? t = some c) : f.paint t true = c.paint f.text := by
  cases f with
  | bare text => cases h
  | styled e text =>
    rw [color?] at h
    rw [paint, Theme.paint, h]
    rfl

theorem unstyled_paint_append (h : Plain f.text) (rest : String) :
    Color.unstyled (f.paint t true ++ rest) = f.text ++ Color.unstyled rest := by
  cases hcolor : f.color? t with
  | none => rw [paint_of_none hcolor, Color.unstyled_append_of_plain h]
  | some c =>
    rw [paint_of_some hcolor, Color.paint, String.append_assoc, String.append_assoc,
      Color.unstyled_sequence_append, Color.unstyled_append_of_plain h,
      Color.unstyled_sequence_append]

theorem framed_paint_append (h : Plain f.text) {rest : String} (hrest : Framed rest) :
    Framed (f.paint t true ++ rest) := by
  cases hcolor : f.color? t with
  | none =>
    rw [paint_of_none hcolor]
    exact .plain h hrest
  | some c =>
    rw [paint_of_some hcolor]
    exact .colored c h hrest

end Fragment

theorem framed_join {t : Theme} {fragments : List Fragment} (h : ∀ f ∈ fragments, Plain f.text) :
    Framed (String.join (fragments.map (Fragment.paint t true))) := by
  induction fragments with
  | nil => exact .nil
  | cons f fragments ih =>
    obtain ⟨hf, hrest⟩ := List.forall_mem_cons.mp h
    rw [List.map_cons, String.join_cons]
    exact Fragment.framed_paint_append hf (ih hrest)

theorem unstyled_join {t : Theme} {fragments : List Fragment} (h : ∀ f ∈ fragments, Plain f.text) :
    Color.unstyled (String.join (fragments.map (Fragment.paint t true))) =
      String.join (fragments.map (Fragment.paint t false)) := by
  induction fragments with
  | nil => rfl
  | cons f fragments ih =>
    obtain ⟨hf, hrest⟩ := List.forall_mem_cons.mp h
    rw [List.map_cons, String.join_cons, List.map_cons, String.join_cons, Fragment.paint_uncolored,
      Fragment.unstyled_paint_append hf, ih hrest]

/-! ## Writing by fragments -/

/-- What is written, in colours and without, is some fragments that have no escape character of their
own. -/
structure MadeOf (t : Theme) (write : Bool → Printing Unit) (fragments : List Fragment) : Prop where
  plain : ∀ f ∈ fragments, Plain f.text
  written : ∀ colored, write colored = fragments.forM (Fragment.print t colored)

/-- The sequences, well placed, are all that colours add to what is written. -/
structure Decorated (t : Theme) (write : Bool → Printing Unit) (fragments : List Fragment) : Prop
    extends MadeOf t write fragments where
  erased : ∃ text, Prints (write true) text ∧ Framed text ∧ Prints (write false) (Color.unstyled text)

namespace MadeOf

variable {t : Theme} {p q : Bool → Printing Unit} {a b : List Fragment}

theorem nothing : MadeOf t (fun _ => pure ()) [] where
  plain := by simp
  written _ := rfl

theorem fragment {f : Fragment} (h : Plain f.text) :
    MadeOf t (fun colored => f.print t colored) [f] where
  plain := by simpa using h
  written _ := by simp

theorem bind (hp : MadeOf t p a) (hq : MadeOf t q b) :
    MadeOf t (fun colored => do p colored; q colored) (a ++ b) where
  plain := List.forall_mem_append.mpr ⟨hp.plain, hq.plain⟩
  written colored := by
    rw [hp.written, hq.written]
    exact List.forM_append.symm

theorem forM {α : Type} {p : α → Bool → Printing Unit} {fragments : α → List Fragment} (l : List α)
    (h : ∀ x ∈ l, MadeOf t (p x) (fragments x)) :
    MadeOf t (fun colored => l.forM (p · colored)) (l.flatMap fragments) := by
  induction l with
  | nil => exact .nothing
  | cons x l ih =>
    obtain ⟨hx, hl⟩ := List.forall_mem_cons.mp h
    exact hx.bind (ih hl)

theorem decorated (h : MadeOf t p a) : Decorated t p a := by
  refine ⟨h, String.join (a.map (Fragment.paint t true)), ?_, ?_, ?_⟩
  · rw [h.written]
    exact .forM Fragment.prints a
  · exact framed_join h.plain
  · rw [h.written, unstyled_join h.plain]
    exact .forM Fragment.prints a

end MadeOf

/-! ## The outputs -/

open Diff

def lineFragments (e : Entry) (text : String) : List Fragment := [.styled e text, .bare "\n"]

def hunkLineFragments : HunkLine (List Char) → List Fragment
  | .context line => [.bare " ", .bare (String.ofList (Text.bare line)), .bare "\n"]
  | .delete line => lineFragments .diffRemoved (signed '-' line)
  | .insert line => lineFragments .diffAdded (signed '+' line)

def hunkFragments (h : Hunk (List Char)) : List Fragment :=
  lineFragments .diffHeader (hunkHeader h) ++ h.lines.flatMap hunkLineFragments

def diffFragments (label old new : String) : List Fragment :=
  match ofTexts old new with
  | [] => []
  | hunks =>
    lineFragments .diffHeader ("--- " ++ label) ++ (lineFragments .diffHeader ("+++ " ++ label) ++
      hunks.flatMap hunkFragments)

def summaryLineFragments (h : Hit) : List Fragment :=
  [.bare "  ", .styled .summaryRuleName h.rule, .bare ": ",
    .styled .summaryOccurrences (toString h.count), .bare "\n"]

def summaryFragments : Summary → List Fragment
  | [] => [.bare "No markers found.\n"]
  | hits => .bare "Markers removed:\n" :: hits.flatMap summaryLineFragments

variable {t : Theme}

theorem madeOf_bare {text : String} (h : Plain text) :
    MadeOf t (fun _ => Printing.text text) [.bare text] :=
  .fragment (f := .bare text) h

theorem madeOf_styled {e : Entry} {text : String} (h : Plain text) :
    MadeOf t (t.print · e text) [.styled e text] :=
  .fragment (f := .styled e text) h

theorem madeOf_line {e : Entry} {text : String} (h : Plain text) :
    MadeOf t (t.printLine · e text) (lineFragments e text) :=
  (madeOf_styled h).bind (madeOf_bare (by decide))

theorem plain_bare {line : List Char} (h : Color.escape ∉ line) :
    Color.escape ∉ Text.bare line := by
  rw [Text.bare]
  split
  · exact fun hmem => h (List.dropLast_subset _ hmem)
  · exact h

theorem plain_signed {sign : Char} {line : List Char} (hsign : Color.escape ≠ sign)
    (h : Color.escape ∉ line) : Plain (signed sign line) := by
  simp [Plain, signed, hsign, plain_bare h]

theorem plain_hunkHeader (h : Hunk (List Char)) : Plain (hunkHeader h) := by
  simp only [hunkHeader, extent, plain_append, plain_toString, and_true, true_and]
  decide

theorem madeOf_hunkLine {l : HunkLine (List Char)} (h : Color.escape ∉ l.text) :
    MadeOf t (printHunkLine t · l) (hunkLineFragments l) := by
  cases l with
  | context line =>
    have hbare : Plain (String.ofList (Text.bare line)) := by
      rw [Plain, String.toList_ofList]
      exact plain_bare h
    exact (madeOf_bare (by decide)).bind ((madeOf_bare hbare).bind (madeOf_bare (by decide)))
  | delete line => exact madeOf_line (plain_signed (by decide) h)
  | insert line => exact madeOf_line (plain_signed (by decide) h)

theorem madeOf_hunk {h : Hunk (List Char)} (hlines : ∀ l ∈ h.lines, Color.escape ∉ l.text) :
    MadeOf t (printHunk t · h) (hunkFragments h) :=
  (madeOf_line (plain_hunkHeader h)).bind
    (.forM h.lines fun l hl => madeOf_hunkLine (hlines l hl))

/-- A line of a hunk is part of one of the texts. -/
theorem plain_hunkLine {old new : String} (hold : Plain old) (hnew : Plain new)
    {h : Hunk (List Char)} (hmem : h ∈ ofTexts old new) {l : HunkLine (List Char)}
    (hl : l ∈ h.lines) : Color.escape ∉ l.text := by
  have hline : ∀ {text : String}, Plain text → l.text ∈ Text.lines text.toList →
      Color.escape ∉ l.text := by
    intro text hplain hmem hescape
    apply hplain
    rw [← Text.flatten_lines text.toList]
    exact List.mem_flatten.mpr ⟨_, hmem, hescape⟩
  rcases (leads_hunks (Text.lines old.toList) (Text.lines new.toList)).mem_of_mem_lines hmem hl
    with hmem | hmem
  · exact hline hold hmem
  · exact hline hnew hmem

theorem madeOf_diff {label old new : String} (hlabel : Plain label) (hold : Plain old)
    (hnew : Plain new) : MadeOf t (printDiff t · label old new) (diffFragments label old new) := by
  have hhunks : ∀ h ∈ ofTexts old new, MadeOf t (printHunk t · h) (hunkFragments h) :=
    fun h hmem => madeOf_hunk fun l hl => plain_hunkLine hold hnew hmem hl
  unfold printDiff diffFragments
  cases hhunk : ofTexts old new with
  | nil => exact .nothing
  | cons h hunks =>
    rw [hhunk] at hhunks
    have hheader : ∀ sign, Plain sign → Plain (sign ++ label) :=
      fun sign hsign => plain_append.mpr ⟨hsign, hlabel⟩
    exact (madeOf_line (hheader _ (by decide))).bind
      ((madeOf_line (hheader _ (by decide))).bind (.forM (h :: hunks) hhunks))

theorem madeOf_summaryLine {h : Hit} (hrule : Plain h.rule) :
    MadeOf t (printSummaryLine t · h) (summaryLineFragments h) :=
  (madeOf_bare (by decide)).bind ((madeOf_styled hrule).bind
    ((madeOf_bare (by decide)).bind ((madeOf_styled (plain_toString _)).bind
      (madeOf_bare (by decide)))))

theorem madeOf_summary {hits : Summary} (h : ∀ hit ∈ hits, Plain hit.rule) :
    MadeOf t (printSummary t · hits) (summaryFragments hits) := by
  cases hits with
  | nil => exact madeOf_bare (by decide)
  | cons hit hits =>
    exact (madeOf_bare (by decide)).bind
      (.forM (hit :: hits) fun hit hmem => madeOf_summaryLine (h hit hmem))

/-- Whatever the theme, the diff, the summary and single lines are the same fragments in colours and
without, and the sequences around them are all that colours add. A fragment with a colour is written
together with its two sequences, and one without a colour as it is. Kept lines have none. -/
theorem colors_decorate (t : Theme) :
    (∀ label old new, Plain label → Plain old → Plain new →
      Decorated t (printDiff t · label old new) (diffFragments label old new)) ∧
    (∀ hits : Summary, (∀ hit ∈ hits, Plain hit.rule) →
      Decorated t (printSummary t · hits) (summaryFragments hits)) ∧
    (∀ e text, Plain text → Decorated t (t.printLine · e text) (lineFragments e text)) ∧
    (∀ e text, t.print true e text =
      match t.color? e with
      | some c => do
        Printing.text (Color.sequence c.code)
        Printing.text text
        Printing.text (Color.sequence Color.resetCode)
      | none => Printing.text text) ∧
    ∀ line, Color.escape ∉ line → ∃ text, Plain text ∧
      ∀ colored, Prints (printHunkLine t colored (.context line)) text := by
  refine ⟨fun label old new hlabel hold hnew => (madeOf_diff hlabel hold hnew).decorated,
    fun hits h => (madeOf_summary h).decorated, fun e text h => (madeOf_line h).decorated,
    fun e text => ?_, fun line h => ?_⟩
  · rw [Theme.print]
    cases t.color? e <;> rfl
  · refine ⟨hunkLine t false (.context line), ?_, fun colored => ?_⟩
    · exact plain_append.mpr ⟨plain_signed (by decide) h, by decide⟩
    · exact prints_hunkLine t colored (.context line)

end Output

end MarkerSweep
