import MarkerSweep.Yaml.Event.Grammar
import MarkerSweep.Yaml.Token.Scan
/-!
# Documents

A document is a tree of values. One that breaks off is kept as far as it goes: what is read from it may
show a fault of its own before the place where it breaks off is reached, and then that fault counts.
-/

set_option autoImplicit false

namespace MarkerSweep.Yaml

/-- A value, or what there is of it. A collection is whole if its end has been reached. -/
inductive Node
  /-- The value of a text without a document. -/
  | void (mark : Mark)
  | scalar (mark : Mark) (s : Scalar)
  | aliasOf (mark : Mark) (number : Nat)
  | sequence (mark : Mark) (tag : Option TagText) (items : List Node) (whole : Bool)
  | mapping (mark : Mark) (tag : Option TagText) (entries : List (Node × Node)) (whole : Bool)
  /-- The document breaks off before the value. -/
  | missing

namespace Node

def isWhole : Node → Bool
  | void _ | scalar _ _ | aliasOf _ _ => true
  | sequence _ _ _ whole | mapping _ _ _ whole => whole
  | missing => false

end Node

/-- A value that bears an anchor. -/
structure Anchored where
  /-- The number of the anchor. -/
  number : Nat
  /-- How many events come before the value. -/
  order : Nat
  node : Node

structure Document where
  root : Node
  anchored : List Anchored
  /-- Why the document breaks off, if it does. -/
  fault : Option Error
  /-- The number of events that the document is made of. -/
  size : Nat
  /-- Something follows the document. -/
  continued : Bool

/-- The value that an alias stands for. If several values bear the anchor, it is the last of the whole
document, even where that comes after the alias. -/
def Document.target? (d : Document) (number : Nat) : Option Node :=
  let later : Option Anchored → Anchored → Option Anchored := fun best a =>
    if a.number ≠ number then best
    else match best with
      | some b => if b.order < a.order then some a else best
      | none => some a
  (d.anchored.foldl later none).map (·.node)

/-! ## Building the tree -/

/-- The members of a collection that has not been closed yet, the last one first. -/
inductive Members
  | items (nodes : List Node)
  | entries (pairs : List (Node × Node)) (key : Option Node)

/-- Adds a member: an item, a key or the value of the last key. -/
def Members.add (child : Node) : Members → Members
  | items nodes => items (child :: nodes)
  | entries pairs none => entries pairs (some child)
  | entries pairs (some key) => entries ((key, child) :: pairs) none

/-- A collection that has not been closed yet. -/
structure OpenNode where
  mark : Mark
  tag : Option TagText
  members : Members
  anchor : Option Nat
  /-- How many events come before it. -/
  order : Nat

def OpenNode.close (o : OpenNode) (whole : Bool) : Node :=
  match o.members with
  | .items nodes => .sequence o.mark o.tag nodes.reverse whole
  | .entries pairs none => .mapping o.mark o.tag pairs.reverse whole
  | .entries pairs (some key) => .mapping o.mark o.tag ((key, .missing) :: pairs).reverse whole

/-- A tree under construction. -/
structure Builder where
  /-- The collections that are open, the innermost first. -/
  stack : List OpenNode := []
  root : Option Node := none
  anchored : List Anchored := []
  /-- The number of events so far. -/
  size : Nat := 0

namespace Builder

/-- Puts a value in its place. -/
def place (b : Builder) (n : Node) (anchor : Option Nat) (order : Nat) : Builder :=
  let anchored := match anchor with
    | some number => ⟨number, order, n⟩ :: b.anchored
    | none => b.anchored
  match b.stack with
  | top :: rest =>
    { b with stack := { top with members := top.members.add n } :: rest, anchored := anchored }
  | [] => { b with root := some n, anchored := anchored }

def openNode (b : Builder) (o : OpenNode) : Builder := { b with stack := o :: b.stack }

/-- Closes the innermost collection. -/
def close (b : Builder) (whole : Bool) : Builder :=
  match b.stack with
  | top :: rest => { b with stack := rest }.place (top.close whole) top.anchor top.order
  | [] => b

def add (b : Builder) (e : Event) : Builder :=
  let grown := match e.kind with
    | .aliasOf number => b.place (.aliasOf e.mark number) none b.size
    | .scalar s => b.place (.scalar e.mark s) e.anchor b.size
    | .sequenceStart tag => b.openNode ⟨e.mark, tag, .items [], e.anchor, b.size⟩
    | .mappingStart tag => b.openNode ⟨e.mark, tag, .entries [] none, e.anchor, b.size⟩
    | .sequenceEnd | .mappingEnd => b.close true
  { grown with size := b.size + 1 }

/-- Closes what a document that breaks off leaves open. -/
def closeAll (b : Builder) : Builder := b.stack.foldl (fun b _ => b.close false) b

end Builder

def Document.ofStream (s : Stream) : Document :=
  let b := (s.events.foldl Builder.add {}).closeAll
  match s.emptyAt with
  | some mark => ⟨.void mark, [], s.fault, 1, s.continued⟩
  | none => ⟨b.root.getD .missing, b.anchored, s.fault, b.size, s.continued⟩

/-! ## Reading a text -/

/-- Characters that a text may hold. -/
def isAllowed (c : Char) : Bool :=
  let n := c.toNat
  n == 0x09 || n == 0x0A || n == 0x0D || (0x20 ≤ n && n ≤ 0x7E) || n == 0x85 ||
    (0xA0 ≤ n && n ≤ 0xFFFD) || 0x10000 ≤ n

/-- How many bytes come before the first character that a text must not hold. -/
def controlOffset? (offset : Nat) : List Char → Option Nat
  | [] => none
  | c :: rest => if isAllowed c then controlOffset? (offset + c.utf8Size) rest else some offset

def byteOrderMark : Char := '\uFEFF'

/-- The first document of a text. A byte order mark before it is no part of it. -/
def Document.ofText (text : String) : Document :=
  match controlOffset? 0 text.toList with
  | some offset => ⟨.missing, [], some (.control offset), 0, false⟩
  | none =>
    let cs := match text.toList with
      | c :: rest => if c = byteOrderMark then rest else c :: rest
      | [] => []
    Document.ofStream (Stream.ofScan (Scan.ofText cs))

end MarkerSweep.Yaml
