import MarkerSweep.FileTree
import MarkerSweep.Program
/-!
# The command

Gives the program the files, the arguments and the environment of the system.
-/

set_option autoImplicit false

namespace MarkerSweep

/-- The refusal that an error of the system stands for. -/
def IoError.ofSystem : IO.Error → IoError
  | .noFileOrDirectory .. => .noSuchFile
  | .inappropriateType _ 20 _ => .notADirectory
  | .inappropriateType .. => .isADirectory
  | e => .other (toString e)

instance : Store IO where
  read path := do
    try return FileTree.decode (← IO.FS.readBinFile path.display)
    catch e => return .error (.ofSystem e)
  write path text := do
    try
      IO.FS.writeFile path.display text
      return .ok ()
    catch e => return .error (.ofSystem e)

end MarkerSweep

open MarkerSweep

def main (args : List String) : IO UInt32 := do
  let target ← IO.getEnv CommandLine.targetVariable
  let filter ← IO.getEnv "RUST_LOG"
  let e : Exit ← Program.run
    ⟨args.map String.toUTF8, target.map String.toUTF8, filter.map String.toUTF8⟩
  (← IO.getStdout).write ⟨e.out⟩
  (← IO.getStderr).write ⟨e.err⟩
  return e.code.toUInt32
