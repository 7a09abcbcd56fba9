import MarkerSweep.Command
import MarkerSweep.CommandLine.Help
import MarkerSweep.CommandLine.Settings
import MarkerSweep.LogFilter
import MarkerSweep.Rule.Cache
import MarkerSweep.Theme.Load
/-!
# The program

What the program does with its arguments and its environment, wherever files are kept. Its outputs go to
no terminal, so they have no colours. Remarks go to the error output, in between what else is written
there.
-/

set_option autoImplicit false

namespace MarkerSweep

open CommandLine (Settings Stop)

/-- What the program is started with. -/
structure Invocation where
  arguments : List ByteArray
  /-- The path that the environment names. -/
  target : Option ByteArray := none
  /-- The filter that the environment asks for. -/
  logFilter : Option ByteArray := none

/-- What the program leaves behind, apart from files. -/
structure Exit where
  code : Nat
  out : Array UInt8
  err : Array UInt8
deriving DecidableEq

namespace Program

def target : String := "mfclean"

def startRecord : Record :=
  ⟨.info, target, "mfclean started. Version: " ++ CommandLine.programVersion⟩

def configTarget : String := "mfclean_core::config"

def tableRecords (t : RuleTable) : List Record :=
  [⟨.debug, configTarget, "Loading default rules from embedded string..."⟩,
    ⟨.debug, configTarget, "Loaded " ++ toString t.rules.length ++ " rules."⟩]

/-- The exit for a command line that gives no settings. -/
def stopped (i : Invocation) (s : Stop) : Exit :=
  let shown (text : String) : Array UInt8 := (Text.printable text).toUTF8.data
  match s with
  | .help detailed =>
    ⟨0, shown (CommandLine.help detailed (i.target.map Text.lossy)), #[]⟩
  | .version => ⟨0, shown CommandLine.versionLine, #[]⟩
  | .misuse m => ⟨2, #[], shown m.message⟩

/-- The line that tells of a failure. It has the built-in style whatever the theme. -/
def failureLine (f : Failure) : String := Theme.builtin.line false .error ("Error: " ++ f.message)

def failed (err : Array UInt8) (f : Failure) : Exit := ⟨1, #[], err ++ (failureLine f).toUTF8.data⟩

variable {m : Type → Type} [Monad m] [Store m]

/-- The theme that is asked for. -/
def theme (s : Settings) : m (Except Failure Theme) :=
  match s.theme with
  | none => return .ok .builtin
  | some path => return (Theme.load path (← Store.read path)).mapError (·.within "Theme error")

def options (s : Settings) : Options where
  path := s.path
  mode := if s.check then .check else .write
  diff := s.diff
  summary := s.summary

/-- The exit code of a run that went well: in check mode, a file that would change is no success. -/
def exitCode (s : Settings) (r : Report) : Nat := if s.check && r.changed then 1 else 0

/-- The program starts without compiled tables. -/
def cache : DigestCache SipHash.hash := TableCache.empty

/-- Runs the command with a theme; `err` is what has been written to the error output before. -/
def clean (f : LogFilter) (s : Settings) (t : Theme) (err : Array UInt8) : m Exit := do
  let (_, l) := cache.fetch RuleTable.builtin
  let err := err ++ (f.lines (tableRecords .builtin ++ l.records)).toUTF8.data
  match l.value with
  | .error failure => return failed err failure
  | .ok shared =>
    let r ← Command.run shared.table.engine (options s) t {}
    let err := err ++ (f.lines r.records).toUTF8.data ++ r.console.err.written ++
      (f.lines r.closing).toUTF8.data
    match r.result with
    | .ok report => return ⟨exitCode s report, r.console.out.written, err⟩
    | .error failure => return failed err failure

/-- Runs the program. -/
def run (i : Invocation) : m Exit := do
  match Settings.ofArguments i.arguments i.target with
  | .error stop => return stopped i stop
  | .ok s =>
    let (f, warnings) := LogFilter.choose s.quiet s.debug (i.logFilter.bind String.fromUTF8?)
    let err := String.join (warnings.map (·.message)) ++ f.lines [startRecord]
    match ← theme s with
    | .error failure => return failed err.toUTF8.data failure
    | .ok t => clean f s t err.toUTF8.data

end Program

end MarkerSweep
