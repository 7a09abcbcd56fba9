import MarkerSweep.CommandLine.Parameter
/-!
# Wrong command lines

What is wrong with a command line, what might have been meant, and the text that says so.
-/

set_option autoImplicit false

namespace MarkerSweep.CommandLine

/-- What might have been meant by an argument that is not expected. -/
inductive Tip
  | similar (p : Parameter)
  /-- The argument was to be a path, though it looks like an option. -/
  | asValue
deriving DecidableEq

inductive Misuse
  | unexpected (argument : String) (tip : Option Tip) (used : List Parameter)
  | valueMissing (p : Parameter)
  | repeated (p : Parameter)
  | valueNotExpected (value : String) (p : Parameter) (used : List Parameter)
deriving DecidableEq

namespace Tip

def message (argument : String) : Tip → String
  | similar p => "a similar argument exists: '--" ++ p.name ++ "'"
  | asValue => "to pass '" ++ argument ++ "' as a value, use '-- " ++ argument ++ "'"

end Tip

namespace Misuse

/-- What is wrong. -/
def complaint : Misuse → String
  | unexpected argument _ _ => "unexpected argument '" ++ argument ++ "' found"
  | valueMissing p => "a value is required for '" ++ p.form ++ "' but none was supplied"
  | repeated p => "the argument '" ++ p.form ++ "' cannot be used multiple times"
  | valueNotExpected value p _ =>
    "unexpected value '" ++ value ++ "' for '" ++ p.form ++ "' found; no more were expected"

def tipText? : Misuse → Option String
  | unexpected argument tip _ => tip.map fun t => "  tip: " ++ t.message argument
  | _ => none

def usageLine? : Misuse → Option String
  | unexpected _ _ used | valueNotExpected _ _ used => some (usageFor used)
  | repeated _ => some usage
  | valueMissing _ => none

/-- The whole message, in paragraphs. -/
def message (m : Misuse) : String :=
  let paragraphs :=
    ["error: " ++ m.complaint] ++ m.tipText?.toList ++ m.usageLine?.toList ++
      ["For more information, try '--help'."]
  String.intercalate "\n\n" paragraphs ++ "\n"

end Misuse

end MarkerSweep.CommandLine
