import MarkerSweep.Failure
/-!
# Where output goes

A sink takes bytes, perhaps only so many. What does not fit is cut off, and the write fails. Most output
is written piece by piece, and nothing is written after a piece that failed.
-/

set_option autoImplicit false

namespace MarkerSweep

structure Sink where
  /-- How many bytes the sink takes, if there is a limit. -/
  limit : Option Nat := none
  written : Array UInt8 := #[]
deriving DecidableEq

namespace Sink

/-- Writes as much of some bytes as fits. -/
def writeBytes (s : Sink) (bytes : Array UInt8) : Sink × Except IoError Unit :=
  let fits := match s.limit with
    | some n => decide (s.written.size + bytes.size ≤ n)
    | none => true
  if fits then ({ s with written := s.written ++ bytes }, .ok ())
  else
    let room := s.limit.getD 0 - s.written.size
    ({ s with written := s.written ++ bytes.extract 0 room }, .error .writerFull)

def write (s : Sink) (text : String) : Sink × Except IoError Unit := s.writeBytes text.toUTF8.data

end Sink

/-- Writing to a sink, up to the first write that fails. -/
abbrev Printing := ExceptT IoError (StateM Sink)

namespace Printing

def text (t : String) : Printing Unit := fun s => ((s.write t).2, (s.write t).1)

/-- What comes of writing to a sink. -/
def on (p : Printing Unit) (s : Sink) : Sink × Except IoError Unit :=
  let answer := StateT.run (ExceptT.run p) s
  (answer.2, answer.1)

end Printing

end MarkerSweep
