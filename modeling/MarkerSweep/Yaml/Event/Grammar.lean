import MarkerSweep.Yaml.Event
/-!
# From tokens to events

Reading tokens stops at the first problem; the events before it stand. A value that is left out counts
as an empty plain scalar. Nothing is read of a text beyond its first document, except whether there is
more.
-/

set_option autoImplicit false

namespace MarkerSweep.Yaml

structure GrammarState where
  tokens : List Token
  /-- Why the tokens end where they do, unless the text ends there. -/
  fault : Option Error
  /-- Events so far, the last one first. -/
  events : List Event := []
  /-- What tag handles stand for; the first entry of a handle counts. -/
  handles : List (String × TagText) := []
  /-- Names of anchors with their numbers; the first entry of a name counts. -/
  anchors : List (String × Nat) := []

abbrev Grammar := ExceptT Error (StateM GrammarState)

namespace Grammar

/-! ## Tokens and events -/

/-- The next token. The last one of a text is never stepped over. -/
def peek : Grammar Token := do
  let s ← get
  match s.tokens, s.fault with
  | t :: _, _ => return t
  | [], some e => throw e
  | [], none => return ⟨.streamEnd, Mark.start, Mark.start⟩

def skip : Grammar Unit := modify fun s => { s with tokens := s.tokens.tail }

/-- Steps over the next token and looks at the one after it. -/
def skipPeek : Grammar Token := do
  skip
  peek

def emit (kind : EventKind) (mark : Mark) (anchor : Option Nat := none) : Grammar Unit :=
  modify fun s => { s with events := ⟨kind, mark, anchor⟩ :: s.events }

/-- Stands for a value that is left out. -/
def emitEmpty (mark : Mark) : Grammar Unit := emit (.scalar ⟨"", .plain, none⟩) mark

def refuse {α : Type} (problem : Problem) (mark : Mark) (activity : Activity) (since : Mark) :
    Grammar α := throw (.malformed problem mark (some (activity, since)))

/-- Numbers an anchor. A name that is used again takes its new number from how many names there are, as
a new name would. -/
def numberAnchor (name : String) : Grammar Nat := do
  let s ← get
  let number := s.anchors.length
  let others := s.anchors.filter (·.1 ≠ name)
  set { s with anchors := (name, number) :: others }
  return number

/-- The number of the anchor that an alias names. -/
def resolveAlias (name : String) (mark : Mark) : Grammar Nat := do
  match (← get).anchors.lookup name with
  | some number => return number
  | none => throw (.unknownAnchor mark)

/-! ## Values -/

/-- What stands before a value. -/
structure Properties where
  anchor : Option String := none
  tag : Option (Tag × Mark) := none
  /-- Where the value starts, properties included. -/
  first : Mark

/-- Reads an anchor and a tag, in either order. -/
def properties : Grammar Properties := do
  let t ← peek
  match t.kind with
  | .anchor name =>
    let next ← skipPeek
    match next.kind with
    | .tag g =>
      skip
      return ⟨some name, some (g, next.first), t.first⟩
    | _ => return ⟨some name, none, t.first⟩
  | .tag g =>
    let next ← skipPeek
    match next.kind with
    | .anchor name =>
      skip
      return ⟨some name, some (g, t.first), t.first⟩
    | _ => return ⟨none, some (g, t.first), t.first⟩
  | _ => return ⟨none, none, t.first⟩

/-- The text of a tag with what its handle stands for. -/
def expand (first : Mark) : Option (Tag × Mark) → Grammar (Option TagText)
  | none => return none
  | some (tag, mark) => do
    if tag.handle.isEmpty then return some tag.suffix
    match (← get).handles.lookup tag.handle with
    | some expansion => return some (expansion ++ tag.suffix)
    | none => refuse .tagHandleUnknown mark .node first

def emitFor (p : Properties) (kind : EventKind) : Grammar Unit := do
  let number ← p.anchor.mapM numberAnchor
  emit kind p.first number

/-- A tag that is only an exclamation mark counts as none. -/
def scalarTag (tag : Option TagText) : Option TagText := if tag = some TagText.bang then none else tag

/-- Where a value stands: which forms it may take. -/
inductive Context
  | flow
  | block
  /-- After a key, where the entries of a sequence need not be indented. -/
  | entry
deriving DecidableEq

/-- Whether a token shows that the value before it is left out. -/
def endsFlowEntry (closing : TokenKind) (k : TokenKind) : Bool := k = .flowEntry || k = closing

def endsBlockEntry (k : TokenKind) : Bool := k = .key || k = .value || k = .blockEnd

mutual

/-- Reads a value. -/
def node : Nat → Context → Grammar Unit
  | 0, _ => return
  | n + 1, context => do
    let t ← peek
    match t.kind with
    | .aliasOf name =>
      let number ← resolveAlias name t.first
      emit (.aliasOf number) t.first
      skip
    | _ =>
      let p ← properties
      let t ← peek
      let tag ← expand p.first p.tag
      content n context p tag t

/-- Reads a value whose properties have been read and whose next token is the given one. -/
def content : Nat → Context → Properties → Option TagText → Token → Grammar Unit
  | 0, _, _, _, _ => return
  | n + 1, context, p, tag, t => do
    match t.kind with
    | .scalar text style =>
      emitFor p (.scalar ⟨text, style, scalarTag tag⟩)
      skip
    | .flowSequenceStart =>
      emitFor p (.sequenceStart tag)
      skip
      flowSequence n t.first true
    | .flowMappingStart =>
      emitFor p (.mappingStart tag)
      skip
      flowMapping n t.first true
    | kind =>
      if kind = .blockEntry && context = .entry then
        emitFor p (.sequenceStart tag)
        looseSequence n
      else if kind = .blockSequenceStart && context ≠ .flow then
        emitFor p (.sequenceStart tag)
        skip
        blockSequence n t.first
      else if kind = .blockMappingStart && context ≠ .flow then
        emitFor p (.mappingStart tag)
        skip
        blockMapping n t.first
      else if p.anchor.isSome || tag.isSome then emitFor p (.scalar ⟨"", .plain, tag⟩)
      else
        let activity := if context = .flow then Activity.flowNode else .blockNode
        refuse .nodeMissing t.first activity p.first

/-- Reads the entries of an indented sequence and its end. -/
def blockSequence : Nat → Mark → Grammar Unit
  | 0, _ => return
  | n + 1, first => do
    let t ← peek
    match t.kind with
    | .blockEntry =>
      let next ← skipPeek
      if next.kind = .blockEntry || next.kind = .blockEnd then emitEmpty t.last
      else node n .block
      blockSequence n first
    | .blockEnd =>
      emit .sequenceEnd t.first
      skip
    | _ => refuse .entryMissing t.first .blockCollection first

/-- Reads the entries of a sequence that is not indented. -/
def looseSequence : Nat → Grammar Unit
  | 0 => return
  | n + 1 => do
    let t ← peek
    match t.kind with
    | .blockEntry =>
      let next ← skipPeek
      if next.kind = .blockEntry || endsBlockEntry next.kind then emitEmpty t.last
      else node n .block
      looseSequence n
    | _ => emit .sequenceEnd t.first

/-- Reads the entries of an indented mapping and its end. -/
def blockMapping : Nat → Mark → Grammar Unit
  | 0, _ => return
  | n + 1, first => do
    let t ← peek
    match t.kind with
    | .key =>
      let next ← skipPeek
      if endsBlockEntry next.kind then emitEmpty t.last else node n .entry
      blockValue n
      blockMapping n first
    | .blockEnd =>
      emit .mappingEnd t.first
      skip
    | _ => refuse .keyMissing t.first .blockMapping first

def blockValue : Nat → Grammar Unit
  | 0 => return
  | n + 1 => do
    let t ← peek
    match t.kind with
    | .value =>
      let next ← skipPeek
      if endsBlockEntry next.kind then emitEmpty t.last else node n .entry
    | _ => emitEmpty t.first

/-- Reads the entries of a sequence in brackets and the bracket that closes it. A pair of a key and a
value may stand for a mapping. -/
def flowSequence : Nat → Mark → Bool → Grammar Unit
  | 0, _, _ => return
  | n + 1, first, atFirst => do
    let t ← peek
    if t.kind = .flowSequenceEnd then
      emit .sequenceEnd t.first
      skip
    else if !atFirst && t.kind ≠ .flowEntry then
      refuse .sequenceNotClosed t.first .flowSequence first
    else
      if !atFirst then skip
      let t ← peek
      if t.kind = .key then
        emit (.mappingStart none) t.first
        skip
        flowPair n
        flowSequence n first false
      else if t.kind = .flowSequenceEnd then
        emit .sequenceEnd t.first
        skip
      else
        node n .flow
        flowSequence n first false

/-- Reads a key and a value that stand for a mapping. Where the key is left out, the token in its place
is stepped over. -/
def flowPair : Nat → Grammar Unit
  | 0 => return
  | n + 1 => do
    let t ← peek
    if t.kind = .value || endsFlowEntry .flowSequenceEnd t.kind then
      skip
      emitEmpty t.last
    else node n .flow
    flowValue n .flowSequenceEnd
    emit .mappingEnd (← peek).first

/-- Reads the value of a key, if there is one. -/
def flowValue : Nat → TokenKind → Grammar Unit
  | 0, _ => return
  | n + 1, closing => do
    let t ← peek
    if t.kind = .value then
      let next ← skipPeek
      if endsFlowEntry closing next.kind then emitEmpty next.first else node n .flow
    else emitEmpty t.first

/-- Reads the entries of a mapping in braces and the brace that closes it. -/
def flowMapping : Nat → Mark → Bool → Grammar Unit
  | 0, _, _ => return
  | n + 1, first, atFirst => do
    let t ← peek
    if t.kind = .flowMappingEnd then
      emit .mappingEnd t.first
      skip
    else if !atFirst && t.kind ≠ .flowEntry then
      refuse .mappingNotClosed t.first .flowMapping first
    else
      if !atFirst then skip
      let t ← peek
      if t.kind = .key then
        let next ← skipPeek
        if next.kind = .value || endsFlowEntry .flowMappingEnd next.kind then emitEmpty next.first
        else node n .flow
        flowValue n .flowMappingEnd
        flowMapping n first false
      else if t.kind = .flowMappingEnd then
        emit .mappingEnd t.first
        skip
      else
        node n .flow
        emitEmpty (← peek).first
        flowMapping n first false

end

/-! ## Documents -/

/-- Reads the directives before a document. -/
def directives : Nat → Bool → Grammar Unit
  | 0, _ => return
  | n + 1, versioned => do
    let t ← peek
    match t.kind with
    | .directive (.version major minor) =>
      if versioned then throw (.malformed .versionTwice t.first none)
      if major ≠ 1 || (minor ≠ 1 && minor ≠ 2) then
        throw (.malformed .versionUnsupported t.first none)
      skip
      directives n true
    | .directive (.tag handle expansion) =>
      if ((← get).handles.lookup handle).isSome then
        throw (.malformed .tagHandleTwice t.first none)
      modify fun s => { s with handles := s.handles ++ [(handle, expansion)] }
      skip
      directives n versioned
    | _ => return

/-- The handles that always stand for something, unless a directive says otherwise. -/
def standardHandles : List (String × TagText) :=
  [("!", TagText.bang), ("!!", TagText.ofString TagText.repository)]

def useStandardHandles : Grammar Unit :=
  modify fun s => { s with handles := s.handles ++ standardHandles }

/-- Whether a token must come after the start of a document has been announced. -/
def announces : TokenKind → Bool
  | .directive _ | .documentStart | .streamEnd => true
  | _ => false

/-- Whether a token shows that a document that has been announced is empty. -/
def endsDocument : TokenKind → Bool
  | .directive _ | .documentStart | .documentEnd | .streamEnd => true
  | _ => false

/-- Reads the first document, if there is one. Answers the place where the text ends if there is none,
and else whether something follows the document. -/
def firstDocument (fuel : Nat) : Grammar (Option Mark) := do
  skip
  let t ← peek
  if t.kind = .streamEnd then return some t.first
  if announces t.kind then
    directives fuel false
    useStandardHandles
    let t ← peek
    if t.kind ≠ .documentStart then
      throw (.malformed .documentStartMissing t.first none)
    let t ← skipPeek
    if endsDocument t.kind then emitEmpty t.first else node fuel .block
  else
    useStandardHandles
    node fuel .block
  let t ← peek
  if t.kind = .documentEnd then skip
  return none

end Grammar

/-- Whether anything but marks of its end follows a document. -/
def Scan.continued (s : Scan) : Bool :=
  match s.tokens.dropWhile (·.kind = .documentEnd) with
  | t :: _ => t.kind ≠ .streamEnd
  | [] => s.fault.isSome

/-- The events of the first document. A step takes a token or stands for one that is left out, so there
are at most four for each token. -/
def Stream.ofScan (s : Scan) : Stream :=
  let start : GrammarState := ⟨s.tokens, s.fault, [], [], []⟩
  match (Grammar.firstDocument (4 * s.tokens.length + 8)).run.run start with
  | (.ok emptyAt, final) =>
    ⟨final.events.reverse, none, emptyAt, Scan.continued ⟨final.tokens, s.fault⟩⟩
  | (.error e, final) => ⟨final.events.reverse, some e, none, false⟩

end MarkerSweep.Yaml
