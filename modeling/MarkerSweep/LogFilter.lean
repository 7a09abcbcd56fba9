import MarkerSweep.Log
import MarkerSweep.Pattern.Regex
import MarkerSweep.Text.Lines
import MarkerSweep.Text.Printable
import MarkerSweep.Unicode.Classes
/-!
# Which remarks are shown

A filter is a list of directives, each of which sets how much is shown of the targets that start with a
name; the longest name that fits decides. A directive without a name fits every target. Besides, a filter
can ask for messages that match a pattern.

A filter is written as directives between commas and perhaps a slash and a pattern behind them. What is
wrong in it is left out with a warning, so every text is a filter.
-/

set_option autoImplicit false

namespace MarkerSweep

/-- How much is shown. -/
inductive Verbosity
  | off
  | error
  | warn
  | info
  | debug
  | trace
deriving DecidableEq

namespace Verbosity

def all : List Verbosity := [off, error, warn, info, debug, trace]

def name : Verbosity → String
  | off => "off"
  | error => "error"
  | warn => "warn"
  | info => "info"
  | debug => "debug"
  | trace => "trace"

/-- Names are known in any mixture of cases. -/
def named? (name : String) : Option Verbosity := all.find? (·.name = name.toLower)

def shows (v : Verbosity) (l : Level) : Bool :=
  match l with
  | .warn => v = warn || v = info || v = debug || v = trace
  | .info => v = info || v = debug || v = trace
  | .debug => v = debug || v = trace

end Verbosity

structure Directive where
  /-- How the targets start that are meant. -/
  name : Option String
  verbosity : Verbosity
deriving DecidableEq

namespace Directive

def fits (d : Directive) (target : String) : Bool :=
  match d.name with
  | some name => name.toList.isPrefixOf target.toList
  | none => true

def length (d : Directive) : Nat := (d.name.getD "").utf8ByteSize

end Directive

structure LogFilter where
  directives : List Directive
  message : Option Pattern.Regex := none

namespace LogFilter

/-! ## Filtering -/

/-- The directive with the longest name that fits a target, the last one of several. -/
def directive? (f : LogFilter) (target : String) : Option Directive :=
  (f.directives.filter (·.fits target)).foldl
    (fun best d =>
      match best with
      | some b => if b.length ≤ d.length then some d else best
      | none => some d)
    none

def matchesMessage (f : LogFilter) (message : String) : Bool :=
  match f.message with
  | some r => !(r.findAll message.toList).isEmpty
  | none => true

def shows (f : LogFilter) (r : Record) : Bool :=
  match f.directive? r.target with
  | some d => d.verbosity.shows r.level && f.matchesMessage r.message
  | none => false

/-! ## Filters as they are written -/

/-- What is wrong with a filter. -/
inductive Warning
  | tooManySlashes (text : String)
  | directive (text : String)
  | pattern (error : Pattern.CompileError)
deriving DecidableEq

def Warning.message (w : Warning) : String :=
  let complaint := match w with
    | .tooManySlashes text => "invalid logging spec '" ++ text ++ "' (too many '/'s)"
    | .directive text => "invalid logging spec '" ++ text ++ "'"
    | .pattern error => "invalid regex filter - " ++ error.message
  "warning: " ++ complaint ++ ", ignoring it\n"

/-- The stretches of a text between separators. -/
def fields (separator : Char) : List Char → List (List Char)
  | [] => [[]]
  | c :: rest =>
    match fields separator rest with
    | [] => [[c]]
    | f :: more => if c = separator then [] :: f :: more else (c :: f) :: more

/-- Reads a directive. A name alone shows everything, and so does one with nothing behind the equals
sign. -/
def parseDirective (text : List Char) : Except Warning Directive :=
  match fields '=' text with
  | [name] =>
    match Verbosity.named? (String.ofList name) with
    | some v => .ok ⟨none, v⟩
    | none => .ok ⟨some (String.ofList name), .trace⟩
  | [name, level] =>
    let level := String.ofList (Text.trimmed level)
    if level.isEmpty then .ok ⟨some (String.ofList name), .trace⟩
    else match Verbosity.named? level with
      | some v => .ok ⟨some (String.ofList name), v⟩
      | none => .error (.directive level)
  | _ => .error (.directive (String.ofList text))

/-- Adds a directive, in the place of one for the same name. -/
def insert (d : Directive) : List Directive → List Directive
  | [] => [d]
  | e :: rest => if e.name = d.name then d :: rest else e :: insert d rest

/-- Without a directive, only errors are shown. -/
def ofDirectives (ds : List Directive) (message : Option Pattern.Regex) : LogFilter :=
  let ds := ds.foldl (fun known d => insert d known) []
  ⟨if ds.isEmpty then [⟨none, .error⟩] else ds, message⟩

def parseDirectives (text : List Char) : List (Except Warning Directive) :=
  (((fields ',' text).map Text.trimmed).filter (!·.isEmpty)).map parseDirective

def parsePattern (text : List Char) : Except Warning Pattern.Regex :=
  (Pattern.Regex.compile (String.ofList text) false).mapError .pattern

def errors {α : Type} (results : List (Except Warning α)) : List Warning :=
  results.filterMap fun
    | .ok _ => none
    | .error w => some w

/-- The filter that a text asks for, and what is wrong with the text. -/
def parse (text : String) : LogFilter × List Warning :=
  match fields '/' text.toList with
  | [directives] =>
    let ds := parseDirectives directives
    (ofDirectives (ds.filterMap Except.toOption) none, errors ds)
  | [directives, pattern] =>
    let ds := parseDirectives directives
    let p := parsePattern pattern
    (ofDirectives (ds.filterMap Except.toOption) p.toOption, errors ds ++ errors [p])
  | _ => (ofDirectives [] none, [.tooManySlashes text])

/-- The names that the targets of all remarks start with. -/
def ownNames : List String := ["mfclean", "mfclean_core"]

/-- The same verbosity for all remarks. -/
def uniform (v : Verbosity) : LogFilter := ⟨ownNames.map fun n => ⟨some n, v⟩, none⟩

/-- The verbosity that two switches ask for; to be quiet comes first. -/
def forced? (quiet debug : Bool) : Option Verbosity :=
  if quiet then some .off else if debug then some .debug else none

/-- The filter that switches and the environment ask for. A switch outdoes the environment. -/
def choose (quiet debug : Bool) (environment : Option String) : LogFilter × List Warning :=
  match forced? quiet debug, environment with
  | some v, _ => (uniform v, [])
  | none, some text => parse text
  | none, none => (uniform .warn, [])

end LogFilter

/-! ## Lines -/

namespace Record

/-- How far the lines of a message after the first are indented. -/
def indent : Nat := 4

def hanging (message : String) : String :=
  String.ofList (message.toList.flatMap fun c =>
    if c = '\n' then c :: List.replicate indent ' ' else [c])

/-- The line that shows a remark. -/
def line (r : Record) : String :=
  let level := r.level.name
  let fill := String.ofList (List.replicate (5 - level.length) ' ')
  Text.printable ("[" ++ level ++ fill ++ " " ++ r.target ++ "] " ++ hanging r.message ++ "\n")

/-- What is said when a filter is to be set where there is one already. -/
def filterKept : Record :=
  ⟨.debug, "mfclean::logger", "Logger already initialised; keeping existing configuration."⟩

end Record

/-- The lines that show the remarks that a filter lets through. -/
def LogFilter.lines (f : LogFilter) (records : List Record) : String :=
  String.join ((records.filter f.shows).map Record.line)

end MarkerSweep
