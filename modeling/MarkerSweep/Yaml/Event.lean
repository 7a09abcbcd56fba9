import MarkerSweep.Yaml.Token
/-!
# Events

The values of a document in the order of the text: each collection is announced and closed, each scalar
is given as a whole. Aliases and anchors are numbered: an alias has the number of its anchor.
-/

set_option autoImplicit false

namespace MarkerSweep.Yaml

structure Scalar where
  text : String
  style : Style
  tag : Option TagText
deriving DecidableEq

inductive EventKind
  | aliasOf (number : Nat)
  | scalar (s : Scalar)
  | sequenceStart (tag : Option TagText)
  | sequenceEnd
  | mappingStart (tag : Option TagText)
  | mappingEnd
deriving DecidableEq

structure Event where
  kind : EventKind
  mark : Mark
  /-- The number of the anchor that the value bears. -/
  anchor : Option Nat := none
deriving DecidableEq

/-- The events of the first document of a text, up to a problem if there is one. -/
structure Stream where
  events : List Event
  fault : Option Error
  /-- Where the text ends, if it holds no document. -/
  emptyAt : Option Mark
  /-- Something follows the document. -/
  continued : Bool

end MarkerSweep.Yaml
