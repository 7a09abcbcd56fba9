import MarkerSweep.CommandLine.Misuse
import MarkerSweep.Path
import MarkerSweep.Text.Similarity
/-!
# Settings from a command line

The arguments are read one by one. A value is taken note of when it is met, but checked only when the
next option or path comes up, or at the end: so of two mistakes it is not always the first one that is
complained about, and an option that is not known outdoes a value that is missing before it.
-/

set_option autoImplicit false

namespace MarkerSweep.CommandLine

/-- What a command line asks for. -/
structure Settings where
  path : Path
  check : Bool
  diff : Bool
  summary : Bool
  quiet : Bool
  debug : Bool
  theme : Option Path
deriving DecidableEq

/-- Why a command line gives no settings. -/
inductive Stop
  | help (detailed : Bool)
  | version
  | misuse (m : Misuse)
deriving DecidableEq

/-! ## Arguments by their looks -/

/-- What an argument looks like. -/
inductive Shape
  /-- Everything after it is a path. -/
  | divider
  | long (name : List UInt8) (value : Option (List UInt8))
  | letters (bytes : List UInt8)
  | value
deriving DecidableEq

def dash : UInt8 := 0x2D

def equals : UInt8 := 0x3D

/-- A long option up to its first equals sign, and its value behind that. -/
def splitLong (bytes : List UInt8) : Shape :=
  match bytes.dropWhile (· ≠ equals) with
  | [] => .long bytes none
  | _ :: value => .long (bytes.takeWhile (· ≠ equals)) (some value)

def Shape.of : List UInt8 → Shape
  | [a, b] => if a = dash then if b = dash then .divider else .letters [b] else .value
  | a :: b :: rest => if a = dash then if b = dash then splitLong rest else .letters (b :: rest) else .value
  | _ => .value

def decode? (bytes : List UInt8) : Option String := String.fromUTF8? ⟨bytes.toArray⟩

def display (bytes : List UInt8) : String := Text.lossy ⟨bytes.toArray⟩

/-- The longest text that bytes start with, and the bytes after it. -/
def splitText (bytes : List UInt8) : List Char × List UInt8 :=
  let lengths := (List.range (bytes.length + 1)).reverse
  match lengths.findSome? fun n => (decode? (bytes.take n)).map (n, ·) with
  | some (n, text) => (text.toList, bytes.drop n)
  | none => ([], bytes)

/-! ## Reading -/

/-- What has been read so far. -/
structure Reading where
  /-- What has been given and checked, in order. -/
  given : List (Parameter × List UInt8) := []
  /-- What is still to be checked; it may still lack its value. -/
  pending : Option (Parameter × Option (List UInt8)) := none

namespace Reading

def has (r : Reading) (p : Parameter) : Bool := r.given.any (·.1 = p)

/-- What is wrong with the value that is still to be checked. -/
def pendingMisuse? (r : Reading) : Option Misuse :=
  match r.pending with
  | none => none
  | some (p, none) => some (.valueMissing p)
  | some (p, some value) =>
    if r.has p then some (.repeated p) else if value.isEmpty then some (.valueMissing p) else none

/-- Counts a parameter as given. One that is given twice no longer counts. -/
def give (r : Reading) (p : Parameter) (value : List UInt8) : Reading :=
  if r.has p then { r with given := r.given.filter (·.1 ≠ p) }
  else { r with given := r.given ++ [(p, value)] }

/-- Counts what is pending as given, right or wrong. -/
def settle (r : Reading) : Reading :=
  let cleared := { r with pending := none }
  match r.pending with
  | some (p, some value) => cleared.give p value
  | _ => cleared

/-- Checks what is pending. -/
def checked (r : Reading) : Except Stop Reading :=
  match r.pendingMisuse? with
  | some m => .error (.misuse m)
  | none => .ok r.settle

/-- Takes note of a parameter, whose value may still have to come. -/
def noted (r : Reading) (p : Parameter) (value : Option (List UInt8)) : Except Stop Reading := do
  return { ← r.checked with pending := some (p, value) }

def used (r : Reading) : List Parameter := r.given.map (·.1)

def hasPath (r : Reading) : Bool := r.has .path || r.pending.any (·.1 = .path)

/-- An option without a value. -/
def raise (r : Reading) (p : Parameter) : Except Stop Reading := do
  let r ← r.checked
  match p with
  | .help => throw (.help false)
  | .version => throw .version
  | _ => if r.has p then throw (.misuse (.repeated p)) else return r.give p []

/-- How alike names must be for one to be taken for the other. -/
def alikeEnough : Float := 0.7

/-- An option whose name is not known. -/
def unknownLong (r : Reading) (name : String) : Stop :=
  let r := r.settle
  let known := Parameter.options.map Parameter.name
  .misuse <| match (Text.mostSimilar? name.toList alikeEnough known).bind Parameter.named? with
    | some p => .unexpected ("--" ++ name) (some (.similar p)) (r.used ++ [p])
    | none => .unexpected ("--" ++ name) (some .asValue) r.used

/-- An option by its long name. Asked for by its long name, help is detailed. -/
def long (r : Reading) (name : List UInt8) (value : Option (List UInt8)) : Except Stop Reading := do
  match (decode? name).bind Parameter.named? with
  | none => throw (r.unknownLong (display name))
  | some p =>
    match p.takesValue, value with
    | true, none => r.noted p none
    | true, some v => do (← r.noted p (some v)).checked
    | false, some v => throw (.misuse (.valueNotExpected (display v) p (r.used ++ [p])))
    | false, none =>
      if p = .help then
        let _ ← r.checked
        throw (.help true)
      else r.raise p

def unknownLetters (letters : String) : Stop :=
  .misuse (.unexpected ("-" ++ letters) (some .asValue) [])

/-- An option by its letter. -/
def letter (r : Reading) (c : Char) : Except Stop Reading :=
  match Parameter.lettered? c with
  | some p => r.raise p
  | none => .error (unknownLetters (String.ofList [c]))

/-- Options by their letters. -/
def letters (r : Reading) (bytes : List UInt8) : Except Stop Reading := do
  let (text, rest) := splitText bytes
  let r ← text.foldlM letter r
  if rest.isEmpty then return r else throw (unknownLetters (display rest))

/-- A path. There is room for one. -/
def path (r : Reading) (bytes : List UInt8) : Except Stop Reading := do
  if r.hasPath then throw (.misuse (.unexpected (display bytes) none []))
  r.noted .path (some bytes)

/-- The value of the option before it, if that still lacks one, or else a path. -/
def value (r : Reading) (bytes : List UInt8) : Except Stop Reading :=
  match r.pending with
  | some (p, none) => .ok { r with pending := some (p, some bytes) }
  | _ => r.path bytes

def read (r : Reading) : List (List UInt8) → Except Stop Reading
  | [] => r.checked
  | a :: rest =>
    match Shape.of a with
    | .divider => do (← rest.foldlM path r).checked
    | .long name v => do (← r.long name v).read rest
    | .letters bytes => do (← r.letters bytes).read rest
    | .value => do (← r.value a).read rest

def value? (r : Reading) (p : Parameter) : Option Path :=
  (r.given.find? (·.1 = p)).map fun g => ⟨⟨g.2.toArray⟩⟩

end Reading

namespace Settings

/-- The path to clean: the one that is given, or the one that the environment names, or the default. -/
def target (r : Reading) (environment : Option ByteArray) : Except Stop Path :=
  match r.value? .path, environment with
  | some p, _ => .ok p
  | none, some bytes =>
    if bytes.isEmpty then .error (.misuse (.valueMissing .path)) else .ok ⟨bytes⟩
  | none, none => .ok (Path.ofString defaultTarget)

/-- The settings that arguments ask for, given the path that the environment names. -/
def ofArguments (arguments : List ByteArray) (environment : Option ByteArray) :
    Except Stop Settings := do
  let r ← ({} : Reading).read (arguments.map ByteArray.toList)
  return {
    path := ← target r environment
    check := r.has .check
    diff := r.has .diff
    summary := r.has .summary
    quiet := r.has .quiet
    debug := r.has .debug
    theme := r.value? .theme }

end Settings

end MarkerSweep.CommandLine
