import MarkerSweep.Theme.Color
/-!
# Themes

A theme gives a style to the parts of the output. A part that the theme leaves out, or whose style has
no colour, is written plainly.
-/

set_option autoImplicit false

namespace MarkerSweep

/-- The parts of the output that can have a colour. -/
inductive Entry
  | success
  | info
  | warn
  | error
  | diffAdded
  | diffRemoved
  | diffHeader
  | summaryRuleName
  | summaryOccurrences
deriving DecidableEq

namespace Entry

def all : List Entry :=
  [success, info, warn, error, diffAdded, diffRemoved, diffHeader, summaryRuleName,
    summaryOccurrences]

def name : Entry → String
  | success => "success"
  | info => "info"
  | warn => "warn"
  | error => "error"
  | diffAdded => "diff_added"
  | diffRemoved => "diff_removed"
  | diffHeader => "diff_header"
  | summaryRuleName => "summary_rule_name"
  | summaryOccurrences => "summary_occurrences"

def named? (name : String) : Option Entry := all.find? (·.name = name)

end Entry

structure Style where
  color : Option Color := none
deriving DecidableEq

structure Theme where
  style? : Entry → Option Style

namespace Theme

/-- The theme without a style for anything. -/
def empty : Theme := ⟨fun _ => none⟩

def set (t : Theme) (e : Entry) (s : Style) : Theme :=
  ⟨fun e' => if e' = e then some s else t.style? e'⟩

/-- Gives a part a style if it has none. -/
def fill (t : Theme) (e : Entry) (s : Style) : Theme :=
  match t.style? e with
  | some _ => t
  | none => t.set e s

/-- The theme that has just the given styles, the last one for each part. -/
def ofStyles (styles : List (Entry × Style)) : Theme :=
  styles.foldl (fun t s => t.set s.1 s.2) empty

/-- The theme with the given styles for the parts that have none. -/
def filled (t : Theme) (styles : List (Entry × Style)) : Theme :=
  styles.foldl (fun t s => t.fill s.1 s.2) t

def builtinStyles : List (Entry × Style) :=
  [(.success, ⟨some ⟨"green"⟩⟩), (.info, ⟨some ⟨"cyan"⟩⟩), (.warn, ⟨some ⟨"yellow"⟩⟩),
    (.error, ⟨some ⟨"red"⟩⟩), (.diffAdded, ⟨some ⟨"green"⟩⟩), (.diffRemoved, ⟨some ⟨"red"⟩⟩),
    (.diffHeader, ⟨some ⟨"yellow"⟩⟩), (.summaryRuleName, ⟨some ⟨"brightblue"⟩⟩),
    (.summaryOccurrences, ⟨some ⟨"white"⟩⟩)]

/-- The built-in theme. -/
def builtin : Theme := ofStyles builtinStyles

def color? (t : Theme) (e : Entry) : Option Color := (t.style? e).bind (·.color)

/-- A text as a part of the output, in its colour if colours are on. -/
def paint (t : Theme) (colored : Bool) (e : Entry) (text : String) : String :=
  match t.color? e with
  | some c => if colored then c.paint text else text
  | none => text

/-- A line of its own. -/
def line (t : Theme) (colored : Bool) (e : Entry) (text : String) : String :=
  t.paint colored e text ++ "\n"

theorem line_uncolored (t : Theme) (e : Entry) (text : String) :
    t.line false e text = text ++ "\n" := by
  rw [line, paint]
  split <;> rfl

end Theme

end MarkerSweep
