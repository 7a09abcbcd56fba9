import MarkerSweep.Yaml.Directive
/-!
# Tokens

The smallest parts of a YAML text. The start and end of a block collection have no text of their own:
they show in the indentation.
-/

set_option autoImplicit false

namespace MarkerSweep.Yaml

inductive TokenKind
  | streamStart
  | streamEnd
  | directive (d : Directive)
  | documentStart
  | documentEnd
  | blockSequenceStart
  | blockMappingStart
  | blockEnd
  | flowSequenceStart
  | flowSequenceEnd
  | flowMappingStart
  | flowMappingEnd
  | blockEntry
  | flowEntry
  | key
  | value
  | aliasOf (name : String)
  | anchor (name : String)
  | tag (t : Tag)
  | scalar (text : String) (style : Style)
deriving DecidableEq

structure Token where
  kind : TokenKind
  first : Mark
  last : Mark
deriving DecidableEq

/-- The tokens of a text up to a problem, if there is one. -/
structure Scan where
  tokens : List Token
  fault : Option Error

end MarkerSweep.Yaml
