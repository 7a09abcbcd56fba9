import MarkerSweep.CommandLine.Parameter
/-!
# Help

The short help explains each parameter on its own line; the detailed help gives it a paragraph. Both
show what the environment says about the path.
-/

set_option autoImplicit false

namespace MarkerSweep.CommandLine

def about : String := "Strip MF_REPORT development markers from a source file"

def detailedAbout : String :=
  "mfclean removes temporary MF_REPORT_* marker comments, MF_REPORT_DEBUG console.warn statements and " ++
    "their no-console lint directives from one source file, collapses the blank lines they leave " ++
    "behind, and rewrites the file only if something changed."

/-- What a parameter is for. -/
def purpose (detailed : Bool) : Parameter → String
  | .path => "File to clean in place"
  | .check => "Do not write; exit with status 1 if the file would change."
  | .diff => "Show a unified diff of the changes on stderr."
  | .summary => "Print per-rule removal counts on stderr."
  | .quiet => "Suppress all log output."
  | .debug => "Enable debug logging."
  | .theme => "Specify the path to a custom YAML theme file."
  | .help =>
    if detailed then "Print help (see a summary with '-h')"
    else "Print help (see more with '--help')"
  | .version => "Print version"

/-- An option with its letter, if it has one, at the front. -/
def optionForms (p : Parameter) : String :=
  match p.letter? with
  | some c => String.ofList ['-', c] ++ ", " ++ p.form
  | none => "    " ++ p.form

/-- Where the path comes from if it is left out. -/
def sources (target : Option String) : List String :=
  ["[env: " ++ targetVariable ++ "=" ++ target.getD "" ++ "]", "[default: " ++ defaultTarget ++ "]"]

/-- How far explanations are indented under a path. -/
def indent : Nat := 10

/-- A text whose lines after the first are indented. -/
def hanging (text : String) : String :=
  String.ofList (text.toList.flatMap fun c =>
    if c = '\n' then c :: List.replicate indent ' ' else [c])

/-- A text filled up with spaces on the right. -/
def padded (width : Nat) (text : String) : String :=
  text ++ String.ofList (List.replicate (width - text.length) ' ')

def shortHelp (target : Option String) : String :=
  let path := String.intercalate " " (purpose false .path :: sources target)
  let width := (Parameter.options.map fun p => (optionForms p).length).foldl max 0
  let option (p : Parameter) : String :=
    "  " ++ padded width (optionForms p) ++ "  " ++ purpose false p ++ "\n"
  about ++ "\n\n" ++ usage ++ "\n\nArguments:\n  " ++ Parameter.path.form ++ "  " ++ hanging path ++
    "\n\nOptions:\n" ++ String.join (Parameter.options.map option)

def detailedHelp (target : Option String) : String :=
  let entry (forms text : String) : String := "  " ++ forms ++ hanging ("\n" ++ text) ++ "\n"
  let path := purpose true .path ++ "\n\n" ++ String.intercalate "\n" (sources target)
  detailedAbout ++ "\n\n" ++ usage ++ "\n\nArguments:\n" ++ entry Parameter.path.form path ++
    "\nOptions:\n" ++
      String.intercalate "\n" (Parameter.options.map fun p => entry (optionForms p) (purpose true p))

/-- The help text, given what the environment says about the path. -/
def help (detailed : Bool) (target : Option String) : String :=
  if detailed then detailedHelp target else shortHelp target

/-- What is printed if the version is asked for. -/
def versionLine : String := programName ++ " " ++ programVersion ++ "\n"

end MarkerSweep.CommandLine
