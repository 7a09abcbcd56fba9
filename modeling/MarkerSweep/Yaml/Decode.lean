import MarkerSweep.Yaml.Schema
/-!
# Reading values from documents

A decoder takes a value for what it should be. It fails at the first value that does not fit, and the
failure names the way to that value and its place. Following aliases is limited, so that a short text
cannot stand for a huge value.
-/

set_option autoImplicit false

namespace MarkerSweep.Yaml

/-- Reading from a document, with the number of aliases followed so far. -/
abbrev Decode := ReaderT Document (StateT Nat (Except Error))

namespace Decode

def complain {α : Type} (c : Complaint) : Decode α := throw (.unfit c none)

/-- Gives a complaint that has no place yet the given one. -/
def located {α : Type} (route : Route) (mark : Mark) (d : Decode α) : Decode α :=
  tryCatch d fun e => match e with
    | .unfit c none => throw (.unfit c (some (route, mark)))
    | e => throw e

/-- Fails because the document breaks off. -/
def brokenOff {α : Type} : Decode α := do
  match (← read).fault with
  | some e => throw e
  | none => throw .endOfStream

/-- A value, or what it stands for if it is an alias. -/
def resolve (n : Node) : Decode Node := do
  match n with
  | .aliasOf _ number =>
    let followed := (← get) + 1
    set followed
    let d ← read
    if d.size * 100 < followed then throw .tooManyAliases
    match d.target? number with
    | some target => return target
    | none => throw .endOfStream
  | n => return n

/-- Complains that a value is something else than what is expected. -/
def unexpected {α : Type} (n : Node) (expected : String) : Decode α :=
  match n with
  | .scalar _ s =>
    match found s with
    | .ok f => complain (.type f.display expected)
    | .error c => complain c
  | .sequence .. => complain (.type Found.sequence.display expected)
  | .mapping .. => complain (.type Found.map.display expected)
  | .void _ | .aliasOf .. => throw .endOfStream
  | .missing => brokenOff

/-- Reads a value or what it stands for; complaints get its place. -/
def placed {α : Type} (route : Route) (n : Node) (d : Node → Decode α) : Decode α := do
  let n ← resolve n
  match n with
  | .void m | .scalar m _ | .aliasOf m _ | .sequence m .. | .mapping m .. => located route m (d n)
  | .missing => brokenOff

/-! ## Scalars -/

/-- Reads any scalar as the text that it is written as. -/
def text (expected : String) (route : Route) (n : Node) : Decode String :=
  placed route n fun
    | .scalar _ s => return s.text
    | n => unexpected n expected

/-- Whether a scalar may be read as something other than a text of its style and tag. -/
def isReadable (s : Scalar) (tag : TagText) : Bool :=
  s.style = .plain || (s.style = .literal && s.tag = some tag)

def bool (route : Route) (n : Node) : Decode Bool :=
  placed route n fun n => do
    let some b := match n with
        | .scalar _ s => if isReadable s TagText.bool then bool? s.text else none
        | _ => none
      | unexpected n "a boolean"
    return b

/-- Reads a value that may be absent. -/
def optional {α : Type} (d : Node → Decode α) (n : Node) : Decode (Option α) := do
  let n ← resolve n
  match n with
  | .void _ => return none
  | .missing => brokenOff
  | .scalar _ s =>
    if s.style ≠ .plain then some <$> d n
    else match s.tag with
      | some tag =>
        if tag ≠ TagText.null then some <$> d n
        else if isNull s.text then return none
        else complain (.value (Found.text s.text).display "null")
      | none => if s.text.isEmpty || isNull s.text then return none else some <$> d n
  | _ => some <$> d n

/-! ## Collections -/

/-- Whether a value that is no collection counts as an empty one. -/
def isEmptyCollection : Node → Bool
  | .void _ => true
  | .scalar _ s => s.text.isEmpty && s.style = .plain
  | _ => false

/-- Fails if a collection breaks off. -/
def finish (whole : Bool) : Decode Unit := if whole then return else brokenOff

def itemsFrom {α : Type} (route : Route) (item : Route → Node → Decode α) (index : Nat) :
    List Node → Decode (List α)
  | [] => return []
  | n :: rest => do
    let a ← item (route ++ [.index index]) n
    return a :: (← itemsFrom route item (index + 1) rest)

/-- Reads all items of a sequence. -/
def list {α : Type} (item : Route → Node → Decode α) (route : Route) (n : Node) : Decode (List α) :=
  placed route n fun n => do
    match n with
    | .sequence _ _ items whole =>
      let as ← itemsFrom route item 0 items
      finish whole
      return as
    | n => if isEmptyCollection n then return [] else unexpected n "a sequence"

/-- The way to the value of a key. -/
def keyStep : Node → Step
  | .scalar _ s => .key s.text
  | _ => .unnamed

/-- Reads the entries of a mapping one after another, each with what has been read before. -/
def foldEntries {σ : Type} (route : Route) (entry : Node → Route → Node → σ → Decode σ) (s : σ) :
    List (Node × Node) → Decode σ
  | [] => return s
  | (key, value) :: rest => do
    let s ← entry key (route ++ [keyStep key]) value s
    foldEntries route entry s rest

/-- Reads a mapping entry by entry; `done` looks at the result once the end has been reached. -/
def mapping {σ α : Type} (expected : String) (entry : Route → Node → Route → Node → σ → Decode σ)
    (done : σ → Decode α) (start : σ) (route : Route) (n : Node) : Decode α :=
  placed route n fun n => do
    match n with
    | .mapping _ _ entries whole =>
      let s ← foldEntries route (entry route) start entries
      finish whole
      done s
    | n => if isEmptyCollection n then done start else unexpected n expected

/-! ## Records -/

/-- A field of a record: how its value is read into what has been read before. -/
structure Field (σ : Type) where
  name : String
  read : Route → Node → σ → Decode σ
  required : Bool := false

/-- Steps over a value whatever it is. -/
def ignore (n : Node) : Decode Unit := finish n.isWhole

/-- Reads an entry of a record. Unknown fields are stepped over. -/
def recordEntry {σ : Type} (fields : List (Field σ)) (route : Route) (key : Node) (inner : Route)
    (value : Node) (s : List String × σ) : Decode (List String × σ) := do
  let name ← text "field identifier" route key
  match fields.find? (·.name = name) with
  | none =>
    ignore value
    return s
  | some f =>
    if s.1.contains name then complain (.duplicateField name)
    else return (name :: s.1, ← f.read inner value s.2)

/-- Checks that no required field is missing. -/
def checkFields {σ : Type} (fields : List (Field σ)) (s : List String × σ) : Decode σ :=
  match fields.find? fun f => f.required && !s.1.contains f.name with
  | some f => complain (.missingField f.name)
  | none => return s.2

/-- Reads a record. -/
def record {σ : Type} (expected : String) (fields : List (Field σ)) (start : σ) :
    Route → Node → Decode σ :=
  mapping expected (recordEntry fields) (checkFields fields) ([], start)

/-! ## Variants -/

/-- The name that a tag spells. -/
def tagName? (tag : Option TagText) : Option String := do
  let tag ← tag
  let bare := if tag.head? = TagText.bang.head? then tag.drop 1 else tag
  if tag.isEmpty then none else String.fromUTF8? ⟨bare.toArray⟩

/-- The variant with a name. -/
def pick {α : Type} (variants : List (String × α)) (name : String) : Decode α :=
  match variants.lookup name with
  | some a => return a
  | none => complain (.unknownVariant name (variants.map (·.1)))

/-- Reads the name of one of some variants. A tag stands for the name, and then there must be no
value. -/
def variant {α : Type} (variants : List (String × α)) (route : Route) (n : Node) : Decode α :=
  placed route n fun n => do
    match n with
    | .scalar _ s =>
      match tagName? s.tag with
      | some name =>
        let a ← pick variants name
        if s.style = .plain && (s.text.isEmpty || isNull s.text) then return a
        else unexpected n "unit"
      | none => pick variants s.text
    | .sequence _ tag _ _ | .mapping _ tag _ _ =>
      match tagName? tag with
      | some name =>
        let _ ← pick variants name
        unexpected n "unit"
      | none => unexpected n "a YAML tag starting with '!'"
    | n => unexpected n "unit"

/-! ## Texts -/

/-- Reads the only document of a text. Faults of the document count before whatever follows it. -/
def ofText {α : Type} (d : Route → Node → Decode α) (text : String) : Except Error α := do
  let document := Document.ofText text
  let (a, _) ← ((d [] document.root : ReaderT Document (StateT Nat (Except Error)) α).run document).run 0
  match document.fault with
  | some e => throw e
  | none => if document.continued then throw .severalDocuments else return a

end Decode

end MarkerSweep.Yaml
