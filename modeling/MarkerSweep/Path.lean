import MarkerSweep.Text.Utf8
/-!
# File paths

A path is a string of bytes. Two paths name the same place when they agree part by part: doubled
slashes, a dot between slashes and a slash at the end do not count, a dot at the very front does.
-/

set_option autoImplicit false

namespace MarkerSweep

/-- The core library's test, whatever others are in scope. -/
instance (priority := 2000) bytesDecidableEq : DecidableEq ByteArray := ByteArray.instDecidableEq

structure Path where
  bytes : ByteArray
deriving DecidableEq

/-- The parts of a path. -/
inductive Part
  | root
  | here
  | up
  | name (bytes : List UInt8)
deriving DecidableEq

namespace Path

def ofString (s : String) : Path := ⟨s.toUTF8⟩

/-- The path as it is shown. -/
def display (p : Path) : String := Text.lossy p.bytes

def slash : UInt8 := 0x2F

def dot : UInt8 := 0x2E

/-- The stretches between slashes, empty ones included. -/
def segments : List UInt8 → List (List UInt8)
  | [] => [[]]
  | b :: rest =>
    if b = slash then [] :: segments rest
    else match segments rest with
      | [] => [[b]]
      | s :: more => (b :: s) :: more

def partOf (segment : List UInt8) : Option Part :=
  if segment = [] || segment = [dot] then none
  else if segment = [dot, dot] then some .up
  else some (.name segment)

/-- The parts that count. -/
def parts (p : Path) : List Part :=
  let ss := segments p.bytes.toList
  let front := match ss with
    | [[]] => []
    | [] :: _ => [Part.root]
    | s :: _ => if s = [dot] then [.here] else []
    | [] => []
  front ++ ss.filterMap partOf

/-- Whether two paths agree part by part. -/
def same (p q : Path) : Bool := p.parts == q.parts

/-- The name of the file at the end of a path. -/
def fileName? (p : Path) : Option String :=
  match p.parts.getLast? with
  | some (.name bytes) => some (Text.lossy ⟨bytes.toArray⟩)
  | _ => none

/-- The name to show for a path: that of the file, or else the whole path. -/
def displayName (p : Path) : String := p.fileName?.getD p.display

end Path

end MarkerSweep
