import Mathlib.Data.List.TakeWhile
import MarkerSweep.Proofs.Pattern.Ends
import MarkerSweep.Text.Lines
/-!
# The lines of a text

A text is cut at its line feeds by `List.splitOn`, and mostly only some of its lines are of
interest: those that are not empty, or those that are not blank. What makes the proofs about rules
work is that such a list of lines is additive. `linesWhere_append` says that the lines of a text are
those of its two halves, wherever a line starts or ends between them, and every match of a marker
has such a place on both of its sides.
-/

set_option autoImplicit false

namespace MarkerSweep

open Unicode Pattern

/-! ## Line starts and line ends -/

/-- What stands before is a line feed or nothing. -/
def AtLineStart (b : Option Char) : Prop := ∀ c ∈ b, c = '\n'

/-- What follows is a line feed or nothing. -/
def AtLineEnd (r : List Char) : Prop := ∀ c ∈ r.head?, c = '\n'

/-- A line starts after `b`, or ends before `r`. -/
def Boundary (b : Option Char) (r : List Char) : Prop := AtLineStart b ∨ AtLineEnd r

@[simp] theorem atLineStart_none : AtLineStart none := by simp [AtLineStart]

@[simp] theorem atLineStart_some {c : Char} : AtLineStart (some c) ↔ c = '\n' := by
  simp [AtLineStart]

@[simp] theorem atLineEnd_nil : AtLineEnd [] := by simp [AtLineEnd]

@[simp] theorem atLineEnd_cons {c : Char} {r : List Char} : AtLineEnd (c :: r) ↔ c = '\n' := by
  simp [AtLineEnd]

theorem AtLineEnd.append {x y : List Char} (hx : AtLineEnd x) (hy : AtLineEnd y) :
    AtLineEnd (x ++ y) := by
  cases x with
  | nil => exact hy
  | cons c x => simpa using hx

theorem AtLineStart.lastOr {b : Option Char} {x : List Char} (hb : AtLineStart b)
    (hx : AtLineStart (lastOr none x)) : AtLineStart (Pattern.lastOr b x) := by
  cases x with
  | nil => exact hb
  | cons c x => exact hx

/-- A text after which a line starts is empty or ends with a line feed. -/
theorem exists_concat_of_atLineStart {b : Option Char} {x : List Char} (hne : x ≠ [])
    (h : AtLineStart (lastOr b x)) : ∃ x', x = x' ++ ['\n'] := by
  obtain ⟨x', c, rfl⟩ := (List.eq_nil_or_concat x).resolve_left hne
  rw [List.concat_eq_append, lastOr_append, lastOr_cons, lastOr_nil, atLineStart_some] at h
  exact ⟨x', by rw [h, List.concat_eq_append]⟩

namespace Text

/-- Texts are built from their lines, the last one on the right. -/
theorem lines_induction {motive : List Char → Prop} (line : ∀ l, '\n' ∉ l → motive l)
    (step : ∀ l s, '\n' ∉ l → motive s → motive (l ++ '\n' :: s)) (s : List Char) : motive s := by
  induction hn : s.length using Nat.strongRecOn generalizing s with
  | ind n ih =>
    by_cases hs : '\n' ∈ s
    · obtain ⟨l, s', rfl, hl⟩ := List.eq_append_cons_of_mem hs
      refine step l s' hl (ih s'.length ?_ s' rfl)
      simp at hn
      omega
    · exact line s hs

/-! ## Some of the lines of a text -/

/-- The lines of a text that a test picks. -/
def linesWhere (p : List Char → Bool) (s : List Char) : List (List Char) :=
  (s.splitOn '\n').filter p

def nonemptyLines : List Char → List (List Char) := linesWhere fun l => !l.isEmpty

/-- A line is blank if all of it is white space. -/
def isBlankLine (l : List Char) : Bool := l.all isBlank

def nonblankLines : List Char → List (List Char) := linesWhere fun l => !isBlankLine l

variable {p : List Char → Bool} {x y s : List Char}

theorem linesWhere_line (h : '\n' ∉ s) : linesWhere p s = if p s then [s] else [] := by
  by_cases hp : p s <;> simp [linesWhere, List.splitOn_eq_singleton h, hp]

theorem linesWhere_append_lineFeed (x y : List Char) :
    linesWhere p (x ++ '\n' :: y) = linesWhere p x ++ linesWhere p y := by
  simp [linesWhere, List.splitOn_append_cons_self]

/-- Picking lines commutes with taking a text apart at a boundary, if empty lines are not picked. -/
theorem linesWhere_append {b : Option Char} (hp : p [] = false) (h : Boundary (lastOr b x) y) :
    linesWhere p (x ++ y) = linesWhere p x ++ linesWhere p y := by
  have hnil : linesWhere p [] = [] := by simp [linesWhere_line, hp]
  by_cases hx : x = []
  · simp [hx, hnil]
  rcases h with h | h
  · obtain ⟨x, rfl⟩ := exists_concat_of_atLineStart hx h
    have hbreak := linesWhere_append_lineFeed (p := p) x []
    rw [hnil, List.append_nil] at hbreak
    rw [hbreak, List.append_assoc, List.singleton_append, linesWhere_append_lineFeed]
  · cases y with
    | nil => simp [hnil]
    | cons c y =>
      rw [atLineEnd_cons] at h
      have hbreak := linesWhere_append_lineFeed (p := p) [] y
      rw [hnil, List.nil_append, List.nil_append] at hbreak
      rw [h, linesWhere_append_lineFeed, hbreak]

theorem nonemptyLines_append {b : Option Char} (h : Boundary (lastOr b x) y) :
    nonemptyLines (x ++ y) = nonemptyLines x ++ nonemptyLines y := linesWhere_append rfl h

theorem nonblankLines_append {b : Option Char} (h : Boundary (lastOr b x) y) :
    nonblankLines (x ++ y) = nonblankLines x ++ nonblankLines y := linesWhere_append rfl h

/-- Where a picked line stands. -/
theorem exists_of_mem_splitOn {l : List Char} (h : l ∈ s.splitOn '\n') :
    '\n' ∉ l ∧ ∃ x y, s = x ++ (l ++ y) ∧ AtLineStart (lastOr none x) ∧ AtLineEnd y := by
  induction s using lines_induction with
  | line s hs =>
    rw [List.splitOn_eq_singleton hs, List.mem_singleton] at h
    subst h
    exact ⟨hs, [], [], by simp⟩
  | step l' s hl' ih =>
    rw [List.splitOn_append_cons_self, List.splitOn_eq_singleton hl', List.mem_append,
      List.mem_singleton] at h
    rcases h with rfl | h
    · exact ⟨hl', [], '\n' :: s, by simp⟩
    · obtain ⟨hn, x, y, rfl, hx, hy⟩ := ih h
      refine ⟨hn, l' ++ '\n' :: x, y, by simp, ?_, hy⟩
      rw [lastOr_append, lastOr_cons]
      exact AtLineStart.lastOr (by simp) hx

/-- If the picked lines of a text come in two parts, the text can be cut at a line feed between
them. -/
theorem exists_of_linesWhere_eq_append {as bs : List (List Char)} (h : linesWhere p s = as ++ bs) :
    as = [] ∨ bs = [] ∨ ∃ x y, s = x ++ '\n' :: y ∧ linesWhere p x = as ∧ linesWhere p y = bs := by
  induction s using lines_induction generalizing as with
  | line l hl =>
    rw [linesWhere_line hl] at h
    split at h
    · rcases List.append_eq_singleton_iff.mp h.symm with ⟨h, -⟩ | ⟨-, h⟩
      · exact .inl h
      · exact .inr (.inl h)
    · exact .inl (List.append_eq_nil_iff.mp h.symm).1
  | step l s hl ih =>
    rw [linesWhere_append_lineFeed] at h
    by_cases hp : p l
    · have hline : linesWhere p l = [l] := by simp [linesWhere_line hl, hp]
      rw [hline, List.singleton_append] at h
      rcases List.cons_eq_append_iff.mp h with ⟨has, -⟩ | ⟨as', rfl, hs⟩
      · exact .inl has
      · rcases ih hs with rfl | hbs | ⟨x, y, rfl, hx, hy⟩
        · exact .inr (.inr ⟨l, s, rfl, hline, hs⟩)
        · exact .inr (.inl hbs)
        · refine .inr (.inr ⟨l ++ '\n' :: x, y, by simp, ?_, hy⟩)
          rw [linesWhere_append_lineFeed, hline, hx, List.singleton_append]
    · -- a line that is not picked may stand on either side; it is put in front
      have hline : linesWhere p l = [] := by simp [linesWhere_line hl, hp]
      rw [hline, List.nil_append] at h
      rcases ih h with has | hbs | ⟨x, y, rfl, hx, hy⟩
      · exact .inl has
      · exact .inr (.inl hbs)
      · refine .inr (.inr ⟨l ++ '\n' :: x, y, by simp, ?_, hy⟩)
        rw [linesWhere_append_lineFeed, hline, hx, List.nil_append]

/-- Some picked lines in a row fill a stretch of the text. -/
theorem exists_of_infix_linesWhere {block : List (List Char)} (hne : block ≠ [])
    (h : block <:+: linesWhere p s) : ∃ x m r, s = x ++ (m ++ r) ∧ AtLineStart (lastOr none x) ∧
      AtLineEnd r ∧ linesWhere p m = block := by
  obtain ⟨as, bs, h⟩ := h
  rw [List.append_assoc] at h
  obtain ⟨x, y, rfl, hx, hy⟩ : ∃ x y, s = x ++ y ∧ AtLineStart (lastOr none x) ∧
      linesWhere p y = block ++ bs := by
    rcases exists_of_linesWhere_eq_append h.symm with rfl | hnil | ⟨x, y, rfl, -, hy⟩
    · exact ⟨[], s, rfl, by simp, h.symm⟩
    · exact absurd (List.append_eq_nil_iff.mp hnil).1 hne
    · exact ⟨x ++ ['\n'], y, by simp, by simp, hy⟩
  rcases exists_of_linesWhere_eq_append hy with hnil | rfl | ⟨m, r, rfl, hm, -⟩
  · exact absurd hnil hne
  · exact ⟨x, y, [], by simp, hx, by simp, by rw [hy, List.append_nil]⟩
  · exact ⟨x, m, '\n' :: r, by simp, hx, by simp, hm⟩

/-! ## Lines with their line feeds -/

theorem linesFrom_append_lineFeed {l : List Char} (hl : '\n' ∉ l) :
    ∀ read, linesFrom read (l ++ '\n' :: s) = (read.reverse ++ (l ++ ['\n'])) :: lines s := by
  induction l with
  | nil => simp [linesFrom, lines]
  | cons c l ih =>
    obtain ⟨hc, hl⟩ := by simpa using hl
    intro read
    rw [List.cons_append, linesFrom, if_neg fun h => hc h.symm, ih hl]
    simp

theorem linesFrom_line {l : List Char} (hl : '\n' ∉ l) :
    ∀ read, linesFrom read l = if read.reverse ++ l = [] then [] else [read.reverse ++ l] := by
  induction l with
  | nil => simp [linesFrom]
  | cons c l ih =>
    obtain ⟨hc, hl⟩ := by simpa using hl
    intro read
    rw [linesFrom, if_neg fun h => hc h.symm, ih hl]
    simp

theorem lines_append_lineFeed {l : List Char} (hl : '\n' ∉ l) :
    lines (l ++ '\n' :: s) = (l ++ ['\n']) :: lines s := linesFrom_append_lineFeed hl []

theorem lines_line {l : List Char} (hl : '\n' ∉ l) : lines l = if l = [] then [] else [l] :=
  linesFrom_line hl []

@[simp] theorem lines_nil : lines [] = [] := rfl

theorem bare_append_lineFeed (l : List Char) : bare (l ++ ['\n']) = l := by simp [bare]

theorem bare_line {l : List Char} (hl : '\n' ∉ l) : bare l = l := by
  rw [bare, if_neg fun h => hl (List.mem_of_getLast? h)]

theorem flatten_lines (s : List Char) : (lines s).flatten = s := by
  induction s using lines_induction with
  | line l hl =>
    rw [lines_line hl]
    by_cases h : l = [] <;> simp [h]
  | step l s hl ih => simp [lines_append_lineFeed hl, ih]

/-- A line is its bare text, mostly with a line feed behind it. -/
theorem line_eq_bare {line : List Char} (h : line ∈ lines s) :
    '\n' ∉ bare line ∧ (line = bare line ∨ line = bare line ++ ['\n']) := by
  induction s using lines_induction with
  | line l hl =>
    rw [lines_line hl] at h
    by_cases hnil : l = []
    · simp [hnil] at h
    · obtain rfl : line = l := by simpa [hnil] using h
      simp [bare_line hl, hl]
  | step l s hl ih =>
    rw [lines_append_lineFeed hl, List.mem_cons] at h
    rcases h with rfl | h
    · simp [bare_append_lineFeed, hl]
    · exact ih h

theorem linesWhere_eq_filter_bare (hp : p [] = false) (s : List Char) :
    linesWhere p s = ((lines s).map bare).filter p := by
  induction s using lines_induction with
  | line l hl =>
    rw [linesWhere_line hl, lines_line hl]
    by_cases hnil : l = []
    · simp [hnil, hp]
    · by_cases hpl : p l <;> simp [hnil, bare_line hl, hpl]
  | step l s hl ih =>
    rw [linesWhere_append_lineFeed, linesWhere_line hl, lines_append_lineFeed hl, ih, List.map_cons,
      bare_append_lineFeed, List.filter_cons]
    by_cases hpl : p l <;> simp [hpl]

theorem lines_concat_lineFeed_append (x y : List Char) :
    lines (x ++ '\n' :: y) = lines (x ++ ['\n']) ++ lines y := by
  induction x using lines_induction with
  | line l hl => simp [lines_append_lineFeed hl]
  | step l x hl ih =>
    simp only [List.append_assoc, List.cons_append, lines_append_lineFeed hl, ih]

theorem lines_append {b : Option Char} (h : AtLineStart (lastOr b x)) (y : List Char) :
    lines (x ++ y) = lines x ++ lines y := by
  by_cases hx : x = []
  · simp [hx]
  · obtain ⟨x, rfl⟩ := exists_concat_of_atLineStart hx h
    rw [List.append_assoc, List.singleton_append, lines_concat_lineFeed_append]

/-- The lines of a text from which lines were taken out. -/
theorem lines_flatten_filter (q : List Char → Bool) (s : List Char) :
    lines ((lines s).filter q).flatten = (lines s).filter q := by
  induction s using lines_induction with
  | line l hl =>
    rw [lines_line hl]
    by_cases hnil : l = []
    · simp [hnil]
    · by_cases hq : q l <;> simp [hnil, hq, lines_line hl]
  | step l s hl ih =>
    rw [lines_append_lineFeed hl, List.filter_cons]
    by_cases hq : q (l ++ ['\n'])
    · simp only [hq, if_true, List.flatten_cons, List.append_assoc, List.singleton_append]
      rw [lines_append_lineFeed hl, ih]
    · simp [hq, ih]

/-! ## Trimming -/

/-- The text neither begins nor ends with a blank, and there is something of it. -/
def tight (w : List Char) : Bool := w.head?.any (!isBlank ·) && w.getLast?.any (!isBlank ·)

theorem dropWhile_append_of_head {p : Char → Bool} {w : List Char}
    (hw : w.head?.any (!p ·) = true) :
    ∀ x : List Char, (x ++ w).dropWhile p = x.dropWhile p ++ w
  | [] => by
    match w, hw with
    | c :: w, hw =>
      have hc : p c = false := by simpa using hw
      simp [hc]
  | c :: x => by
    by_cases hc : p c = true
    · simp [hc, dropWhile_append_of_head hw x]
    · simp [hc]

/-- Trimming stops at a tight stretch from both sides. -/
theorem trimmed_append {w : List Char} (hw : tight w = true) (x y : List Char) :
    trimmed (x ++ (w ++ y)) =
      x.dropWhile isBlank ++ (w ++ (y.reverse.dropWhile isBlank).reverse) := by
  obtain ⟨hhead, hlast⟩ := (Bool.and_eq_true _ _).mp hw
  have hfront : (w ++ y).head?.any (!isBlank ·) = true := by
    cases w with
    | nil => simp at hhead
    | cons c w => exact hhead
  have hback : (w.reverse ++ (x.dropWhile isBlank).reverse).head?.any (!isBlank ·) = true := by
    rw [← List.head?_reverse] at hlast
    cases hr : w.reverse with
    | nil => simp [hr] at hlast
    | cons c w' =>
      rw [hr] at hlast
      exact hlast
  rw [trimmed, dropWhile_append_of_head hfront]
  simp only [List.reverse_append, List.append_assoc]
  rw [dropWhile_append_of_head hback]
  simp

theorem dropWhile_of_all {w : List Char} (hw : ∀ c ∈ w, isBlank c = true) :
    w.dropWhile isBlank = [] :=
  List.dropWhile_eq_nil_iff.mpr hw

/-- Blanks at the end are trimmed away. -/
theorem trimmed_append_blanks {w : List Char} (hw : ∀ c ∈ w, isBlank c = true) (l : List Char) :
    trimmed (l ++ w) = trimmed l := by
  rw [trimmed, trimmed, List.dropWhile_append]
  split
  · rename_i hl
    simp [List.isEmpty_iff.mp hl, dropWhile_of_all hw]
  · rw [List.reverse_append, List.dropWhile_append_of_pos fun c hc => hw c (List.mem_reverse.mp hc)]

theorem infix_trimmed {w l : List Char} (hw : tight w = true) (h : w <:+: l) :
    w <:+: trimmed l := by
  obtain ⟨x, y, rfl⟩ := h
  rw [List.append_assoc, trimmed_append hw]
  exact ⟨_, _, List.append_assoc ..⟩

end Text

end MarkerSweep
