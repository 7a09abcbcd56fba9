/-!
# What the command line takes

One path, which may be left out, and options. An option has a long name; some have a letter, and one
takes a value.
-/

set_option autoImplicit false

namespace MarkerSweep.CommandLine

inductive Parameter
  | path
  | check
  | diff
  | summary
  | quiet
  | debug
  | theme
  | help
  | version
deriving DecidableEq

namespace Parameter

/-- The options, in the order in which they are listed. -/
def options : List Parameter := [check, diff, summary, quiet, debug, theme, help, version]

def name : Parameter → String
  | path => "path"
  | check => "check"
  | diff => "diff"
  | summary => "summary"
  | quiet => "quiet"
  | debug => "debug"
  | theme => "theme"
  | help => "help"
  | version => "version"

def letter? : Parameter → Option Char
  | path | theme => none
  | check => some 'c'
  | diff => some 'D'
  | summary => some 's'
  | quiet => some 'q'
  | debug => some 'd'
  | help => some 'h'
  | version => some 'V'

def takesValue : Parameter → Bool
  | path | theme => true
  | _ => false

def named? (name : String) : Option Parameter := options.find? (·.name = name)

def lettered? (letter : Char) : Option Parameter := options.find? (·.letter? = some letter)

/-- How a parameter is written in messages. -/
def form : Parameter → String
  | path => "[PATH]"
  | theme => "--theme <FILE>"
  | p => "--" ++ p.name

end Parameter

/-- The name of the program. -/
def programName : String := "mfclean"

def programVersion : String := "0.1.0"

/-- The variable of the environment that stands in for a path that is left out. -/
def targetVariable : String := "MFCLEAN_TARGET"

/-- The path that is taken if there is no other. -/
def defaultTarget : String := "src/pages/Report.tsx"

/-- The usage line of the whole program. -/
def usage : String := "Usage: " ++ programName ++ " [OPTIONS] [PATH]"

/-- The usage line for some parameters: options first, each once, and the path as one that must be given
if it is among them. Without any it is that of the whole program. -/
def usageFor (used : List Parameter) : String :=
  if used.isEmpty then usage
  else
    let path := if used.contains .path then "<PATH>" else "[PATH]"
    String.intercalate " "
      (["Usage:", programName] ++ ((used.filter (· ≠ .path)).eraseDups.map Parameter.form) ++ [path])

end MarkerSweep.CommandLine
