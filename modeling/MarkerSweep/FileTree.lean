import MarkerSweep.Cleaner
/-!
# A tree of files

Files and directories under a root, and the directory at which paths start that do not start at the
root. A path is walked name by name, and each name on the way must lead to a directory. The first one
that does not decides how the path fails, so reading and writing share the walk and differ only in what
they do at its end.
-/

set_option autoImplicit false

namespace MarkerSweep

namespace FileTree

/-- The name of a file or directory in the directory that holds it. -/
abbrev Name := List UInt8

/-- The names that lead from the root to a node, the innermost one first. -/
abbrev Place := List Name

inductive Node
  | file (bytes : ByteArray)
  | directory
deriving DecidableEq

end FileTree

structure FileTree where
  /-- What there is below the root. -/
  nodes : List (FileTree.Place × FileTree.Node)
  /-- The directory at which paths start. -/
  working : FileTree.Place

namespace FileTree

/-- What the end of a path names. -/
inductive Target
  | file (place : Place) (bytes : ByteArray)
  | directory (place : Place)
  /-- Nothing, in a directory where it could be made. -/
  | free (place : Place)
deriving DecidableEq

def node? (t : FileTree) (place : Place) : Option Node :=
  if place = [] then some .directory else (t.nodes.find? (·.1 = place)).map (·.2)

def set (t : FileTree) (place : Place) (node : Node) : FileTree :=
  { t with nodes := t.nodes.filter (·.1 ≠ place) ++ [(place, node)] }

/-! ## Paths -/

/-- How many bytes a name may have. -/
def maxName : Nat := 255

/-- How many bytes a path may have. -/
def maxPath : Nat := 4095

/-- The names along a path. Doubled slashes do not matter here; dots do, for only a directory can be
left where it is or left upwards. -/
def names (path : Path) : List Name := (Path.segments path.bytes.toList).filter (· ≠ [])

/-- Where a path starts. -/
def start (t : FileTree) (path : Path) : Place :=
  if path.bytes.toList.head? = some Path.slash then [] else t.working

/-- Whether a slash after the last name asks for a directory. -/
def asksForDirectory (path : Path) : Bool := path.bytes.toList.getLast? = some Path.slash

/-- What a name leads to from a directory. -/
def follow (t : FileTree) (place : Place) (name : Name) : Except IoError Target :=
  if name = [Path.dot] then .ok (.directory place)
  else if name = [Path.dot, Path.dot] then .ok (.directory place.tail)
  else if maxName < name.length then .error .nameTooLong
  else match t.node? (name :: place) with
    | none => .ok (.free (name :: place))
    | some .directory => .ok (.directory (name :: place))
    | some (.file bytes) => .ok (.file (name :: place) bytes)

/-- The directory that a name leads to from a directory. -/
def enter (t : FileTree) (place : Place) (name : Name) : Except IoError Place := do
  match ← t.follow place name with
  | .directory place => return place
  | .file _ _ => throw .notADirectory
  | .free _ => throw .noSuchFile

/-- The directory in which the last name of a path is looked up. -/
def parent (t : FileTree) (path : Path) : Except IoError Place := do
  if 0 ∈ path.bytes.toList then throw .nulInName
  if path.bytes.isEmpty then throw .noSuchFile
  if maxPath < path.bytes.size then throw .nameTooLong
  (names path).dropLast.foldlM t.enter (t.start path)

/-- What the last name of a path leads to from its directory. -/
def last (t : FileTree) (path : Path) (place : Place) : Except IoError Target :=
  match (names path).getLast? with
  | some name => t.follow place name
  | none => .ok (.directory place)

/-! ## Reading and writing -/

/-- The bytes of the file at a path. -/
def readBytes (t : FileTree) (path : Path) : Except IoError ByteArray := do
  match ← t.last path (← t.parent path) with
  | .file _ bytes => if asksForDirectory path then throw .notADirectory else return bytes
  | .directory _ => throw .isADirectory
  | .free _ => throw .noSuchFile

/-- Text is what is valid UTF-8. -/
def decode (bytes : ByteArray) : Except IoError String :=
  match String.fromUTF8? bytes with
  | some text => .ok text
  | none => .error .invalidUtf8

def read (t : FileTree) (path : Path) : Except IoError String := do decode (← t.readBytes path)

/-- Puts bytes in the place of the file at a path, or in the place of none. A slash at the end is
refused whatever the last name leads to. -/
def writeBytes (t : FileTree) (path : Path) (bytes : ByteArray) : Except IoError FileTree := do
  let place ← t.parent path
  if asksForDirectory path then throw .isADirectory
  match ← t.last path place with
  | .file place _ | .free place => return t.set place (.file bytes)
  | .directory _ => throw .isADirectory

def write (t : FileTree) (path : Path) (text : String) : Except IoError FileTree :=
  t.writeBytes path text.toUTF8

/-! ## Making and listing a tree -/

/-- Makes the directories that are missing on the way to a place, and the one there. -/
def makeDirectory (t : FileTree) : Place → FileTree
  | [] => t
  | name :: place =>
    let t := t.makeDirectory place
    match t.node? (name :: place) with
    | none => t.set (name :: place) .directory
    | some _ => t

/-- The tree of nothing but the directories that lead to a place, where paths start. -/
def empty (working : Place) : FileTree := (FileTree.mk [] working).makeDirectory working

/-- The place that a path names if all its directories are there. -/
def placeOf (t : FileTree) (path : Path) : Place :=
  (names path).foldl
    (fun place name =>
      if name = [Path.dot] then place
      else if name = [Path.dot, Path.dot] then place.tail
      else name :: place)
    (t.start path)

/-- Puts in a directory and those that lead to it. -/
def addDirectory (t : FileTree) (path : Path) : FileTree := t.makeDirectory (t.placeOf path)

/-- Puts in a file and the directories that lead to it. -/
def addFile (t : FileTree) (path : Path) (bytes : ByteArray) : FileTree :=
  let place := t.placeOf path
  (t.makeDirectory place.tail).set place (.file bytes)

/-- The path from one place to a place below it. -/
def pathFrom? (above place : Place) : Option Path :=
  if above.isSuffixOf place && above.length < place.length then
    let names := (place.take (place.length - above.length)).reverse
    some ⟨(List.intercalate [Path.slash] names).toByteArray⟩
  else none

/-- The files below the directory at which paths start. -/
def files (t : FileTree) : List (Path × ByteArray) :=
  t.nodes.filterMap fun
    | (place, .file bytes) => (pathFrom? t.working place).map (·, bytes)
    | (_, .directory) => none

instance : Store (StateM FileTree) where
  read path := fun t => (t.read path, t)
  write path text := fun t =>
    match t.write path text with
    | .ok t => (.ok (), t)
    | .error e => (.error e, t)

end FileTree

end MarkerSweep
