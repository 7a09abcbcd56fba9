import MarkerSweep.Cleaner
/-!
# A store in memory

Files are found by the parts of their paths. Every attempt to write is noted, also one that is refused
because the store is read-only.
-/

set_option autoImplicit false

namespace MarkerSweep

structure Memory where
  /-- The files under the paths by which they were first put in. -/
  files : List (Path × String) := []
  /-- Where writes were attempted, in order. -/
  writes : List Path := []
  readOnly : Bool := false

namespace Memory

def get? (m : Memory) (path : Path) : Option String :=
  (m.files.find? (·.1.same path)).map (·.2)

/-- Puts a text in the place of the file at a path, or in the place of none. -/
def replace (path : Path) (text : String) : List (Path × String) → List (Path × String)
  | [] => [(path, text)]
  | (p, old) :: rest => if p.same path then (p, text) :: rest else (p, old) :: replace path text rest

def put (m : Memory) (path : Path) (text : String) : Memory :=
  { m with files := replace path text m.files }

/-- Takes out the file at a path, and tells whether there was one. -/
def remove (m : Memory) (path : Path) : Memory × Bool :=
  ({ m with files := m.files.filter fun f => !f.1.same path }, (m.get? path).isSome)

def read (m : Memory) (path : Path) : Except IoError String :=
  match m.get? path with
  | some text => .ok text
  | none => .error .notFound

def write (m : Memory) (path : Path) (text : String) : Except IoError Unit × Memory :=
  let m := { m with writes := m.writes ++ [path] }
  if m.readOnly then (.error .permissionDenied, m) else (.ok (), m.put path text)

instance : Store (StateM Memory) where
  read path := fun m => (m.read path, m)
  write path text := fun m => m.write path text

end Memory

end MarkerSweep
