import MarkerSweep.Failure
import MarkerSweep.Theme.Basic
import MarkerSweep.Yaml.Decode
/-!
# Themes from YAML

A theme is written as a mapping from parts of the output to styles. Parts that it leaves out keep the
style of the built-in theme. If a part is named twice, the last style counts. A style without a colour
means no colour.
-/

set_option autoImplicit false

namespace MarkerSweep

open Yaml (Decode)

namespace Theme

/-- Reads the name of a colour. -/
def decodeColor (route : Yaml.Route) (n : Yaml.Node) : Decode Color := do
  match Color.parse? (← Decode.text "a string" route n) with
  | some c => return c
  | none => Decode.complain (.custom Color.unknownMessage)

def styleFields : List (Decode.Field Style) :=
  [{ name := "fg"
     read := fun route n _ => return ⟨← Decode.optional (decodeColor route) n⟩ }]

def decodeStyle : Yaml.Route → Yaml.Node → Decode Style :=
  Decode.record "struct ThemeStyle" styleFields {}

def decodeEntry : Yaml.Route → Yaml.Node → Decode Entry :=
  Decode.variant (Entry.all.map fun e => (e.name, e))

/-- The styles that a YAML text gives, in its order. -/
def decode : Yaml.Route → Yaml.Node → Decode (List (Entry × Style)) :=
  Decode.mapping "a map"
    (fun route key inner value styles => do
      let e ← decodeEntry route key
      let s ← decodeStyle inner value
      return styles ++ [(e, s)])
    pure []

def parse (text : String) : Except Yaml.Error (List (Entry × Style)) := Decode.ofText decode text

/-- The theme of a file with the given path and content. -/
def load (path : Path) (content : Except IoError String) : Except Failure Theme :=
  match content with
  | .error e =>
    .error ((Failure.ofCause (.io e)).within ("Failed to read theme file " ++ path.display))
  | .ok text =>
    match parse text with
    | .error e =>
      .error ((Failure.other e.message).within ("Failed to parse theme file " ++ path.display))
    | .ok styles => .ok ((ofStyles styles).filled builtinStyles)

end Theme

end MarkerSweep
