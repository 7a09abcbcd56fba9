import MarkerSweep.Path
import MarkerSweep.Pattern.Regex
/-!
# What can go wrong

A failure is a cause with the contexts that were added on its way out, the outermost first. Its text
joins the contexts and the links of the cause by colons. Faults of reading and writing a source file
name what the system said twice: once in their own text and once as a link of its own.
-/

set_option autoImplicit false

namespace MarkerSweep

/-- What a system refuses. -/
inductive IoError
  | notFound
  | permissionDenied
  | noSuchFile
  | notADirectory
  | isADirectory
  | nameTooLong
  | nulInName
  | invalidUtf8
  | writerFull
  | other (text : String)
deriving DecidableEq

namespace IoError

def message : IoError → String
  | notFound => "entity not found"
  | permissionDenied => "permission denied"
  | noSuchFile => "No such file or directory (os error 2)"
  | notADirectory => "Not a directory (os error 20)"
  | isADirectory => "Is a directory (os error 21)"
  | nameTooLong => "File name too long (os error 36)"
  | nulInName => "file name contained an unexpected NUL byte"
  | invalidUtf8 => "stream did not contain valid UTF-8"
  | writerFull => "writer full"
  | other text => text

end IoError

/-- The longest pattern of a rule, in bytes. -/
def maxPatternLength : Nat := 500

/-- Why a rule does not compile. -/
inductive RuleFault
  | missingPattern (name : String)
  | tooLong (name : String) (length : Nat)
  | pattern (name : String) (error : Pattern.CompileError)
deriving DecidableEq

namespace RuleFault

def message : RuleFault → String
  | missingPattern name => "Rule '" ++ name ++ "' has no pattern"
  | tooLong name length =>
    "Rule '" ++ name ++ "': pattern length (" ++ toString length ++ ") exceeds maximum allowed (" ++
      toString maxPatternLength ++ ")"
  | pattern name error => "Failed to compile cleaning rule '" ++ name ++ "': " ++ error.message

/-- The rule that the fault is about. -/
def rule : RuleFault → String
  | missingPattern name | tooLong name _ | pattern name _ => name

end RuleFault

/-- Causes of failure. -/
inductive Cause
  /-- A source file could not be read. -/
  | read (path : Path) (error : IoError)
  /-- A source file could not be written. -/
  | write (path : Path) (error : IoError)
  /-- Rules of a table do not compile; all of them are named. -/
  | rules (faults : List RuleFault)
  | io (error : IoError)
  | other (message : String)
deriving DecidableEq

namespace Cause

/-- The text of the cause itself. -/
def message : Cause → String
  | read path error => "Failed to read source file " ++ path.display ++ ": " ++ error.message
  | write path error => "Failed to write source file " ++ path.display ++ ": " ++ error.message
  | rules faults =>
    "A fatal error occurred: Failed to compile " ++ toString faults.length ++ " rule(s):\n" ++
      String.intercalate "\n" (faults.map RuleFault.message)
  | io error => error.message
  | other message => message

/-- The cause and what is behind it. -/
def links (c : Cause) : List String :=
  match c with
  | read _ error | write _ error => [c.message, error.message]
  | _ => [c.message]

end Cause

structure Failure where
  contexts : List String
  cause : Cause
deriving DecidableEq

namespace Failure

def ofCause (c : Cause) : Failure := ⟨[], c⟩

def other (message : String) : Failure := ⟨[], .other message⟩

/-- Adds a context around a failure. -/
def within (f : Failure) (context : String) : Failure := ⟨context :: f.contexts, f.cause⟩

def message (f : Failure) : String := String.intercalate ": " (f.contexts ++ f.cause.links)

end Failure

end MarkerSweep
