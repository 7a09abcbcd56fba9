import MarkerSweep.Yaml.Scalar.Quoted
/-!
# Tags

A tag is written in full between angle brackets, or as a suffix of what a handle stands for. Octets may
be written as a percent sign and two hexadecimal digits, so the text of a tag is a string of bytes.
-/

set_option autoImplicit false

namespace MarkerSweep.Yaml

abbrev TagText := List UInt8

namespace TagText

def ofString (s : String) : TagText := s.toUTF8.toList

def ofChars (cs : List Char) : TagText := ofString (String.ofList cs)

/-- The tags of the YAML repository start with this. -/
def repository : String := "tag:yaml.org,2002:"

def null : TagText := ofString (repository ++ "null")
def bool : TagText := ofString (repository ++ "bool")
def int : TagText := ofString (repository ++ "int")
def float : TagText := ofString (repository ++ "float")

/-- The tag that is an exclamation mark. -/
def bang : TagText := ofString "!"

end TagText

/-- A tag as it is written. An empty handle stands for nothing. -/
structure Tag where
  handle : String
  suffix : TagText
deriving DecidableEq

/-- Where a tag or a part of one is written. -/
inductive TagPlace
  | node
  | directive
deriving DecidableEq

namespace TagPlace

/-- What is being read when a part of a tag is malformed. -/
def uriActivity : TagPlace → Activity
  | node => .tagUri
  | directive => .tagDirectiveUri

end TagPlace

/-- How many octets the character has that starts with a given one. -/
def octetCount? (octet : Nat) : Option Nat :=
  if octet < 0x80 then some 1
  else if octet < 0xC0 then none
  else if octet < 0xE0 then some 2
  else if octet < 0xF0 then some 3
  else if octet < 0xF8 then some 4
  else none

/-- Reads a percent sign and two hexadecimal digits. -/
def octetAt? (c : Cursor) : Option Nat :=
  if c.looksAt '%' then
    let digits := (c.rest.drop 1).take 2
    if digits.length < 2 then none else hexNumber? digits
  else none

/-- Reads the remaining octets of a character. -/
def trailingOctets (place : TagPlace) (start : Mark) :
    Nat → Cursor → Reading (List UInt8 × Cursor)
  | 0, c => .ok ([], c)
  | n + 1, c => do
    let some octet := octetAt? c | refuse .octetMissing c.mark place.uriActivity start
    if octet / 0x40 = 2 then
      let (more, c) ← trailingOctets place start n (c.skip 3)
      return (octet.toUInt8 :: more, c)
    else refuse .octetTrailing c.mark place.uriActivity start

/-- Reads a character that is written as octets. -/
def octets (place : TagPlace) (start : Mark) (c : Cursor) : Reading (List UInt8 × Cursor) := do
  let some octet := octetAt? c | refuse .octetMissing c.mark place.uriActivity start
  let some count := octetCount? octet | refuse .octetLeading c.mark place.uriActivity start
  let (more, c) ← trailingOctets place start (count - 1) (c.skip 3)
  return (octet.toUInt8 :: more, c)

/-- Characters of a suffix, and those that only a tag in full may hold besides. -/
def isUriChar (full : Bool) (c : Char) : Bool :=
  isNameChar c || ";/?:@&=+$.!~*'()%".toList.contains c ||
    (full && (c = ',' || c = '[' || c = ']'))

/-- Reads the characters of a tag. -/
def uriFrom (full : Bool) (place : TagPlace) (start : Mark) :
    Nat → TagText → Cursor → Reading (TagText × Cursor)
  | 0, read, c => .ok (read, c)
  | n + 1, read, c =>
    match c.peek? with
    | some ch =>
      if ch = '%' then do
        let (more, c) ← octets place start c
        uriFrom full place start n (read ++ more) c
      else if isUriChar full ch then
        uriFrom full place start n (read ++ [ch.toNat.toUInt8]) c.next
      else .ok (read, c)
    | none => .ok (read, c)

/-- Reads a tag whose first characters, a leading exclamation mark among them, have been read. That
mark is no part of the result. -/
def uri (full : Bool) (place : TagPlace) (start : Mark) (head : List Char) (c : Cursor) :
    Reading (TagText × Cursor) := do
  let (text, after) ← uriFrom full place start c.rest.length [] c
  if head.isEmpty && text.isEmpty then refuse .tagUriMissing after.mark place.uriActivity start
  else return (TagText.ofChars (head.drop 1) ++ text, after)

/-- Reads an exclamation mark, the name characters after it and the mark that closes the handle, if
there is one. -/
def tagHandle (place : TagPlace) (start : Mark) (c : Cursor) : Reading (List Char × Cursor) :=
  let activity : Activity := match place with
    | .node => .tag
    | .directive => .tagDirectiveHandle
  if !c.looksAt '!' then refuse .tagMarkMissing c.mark activity start
  else
    let (name, c) := c.next.span isNameChar
    if c.looksAt '!' then .ok ('!' :: name ++ ['!'], c.next)
    else if place = .directive && !name.isEmpty then
      refuse .tagMarkMissing c.mark .tagDirectiveHandleEnd start
    else .ok ('!' :: name, c)

/-- Reads a tag in full. -/
def fullTag (start : Mark) (c : Cursor) : Reading (Tag × Cursor) := do
  let (suffix, c) ← uri true .node start [] (c.skip 2)
  if c.looksAt '>' then return (⟨"", suffix⟩, c.next)
  else refuse .tagNotClosed c.mark .tag start

/-- Reads a tag that has a handle, or only an exclamation mark in place of one. -/
def shortTag (start : Mark) (c : Cursor) : Reading (Tag × Cursor) := do
  let (handle, c) ← tagHandle .node start c
  if handle.length > 1 && handle.getLast? = some '!' then
    let (suffix, c) ← uri false .node start [] c
    return (⟨String.ofList handle, suffix⟩, c)
  else
    let (suffix, c) ← uri false .node start handle c
    return (if suffix.isEmpty then ⟨"", TagText.bang⟩ else ⟨"!", suffix⟩, c)

/-- Reads a tag; a blank, a line break, the end or inside brackets a comma must follow it. -/
def tag (flow : Bool) (c : Cursor) : Reading (Tag × Cursor) := do
  let start := c.mark
  let (t, c) ← if c.ahead? 1 = some '<' then fullTag start c else shortTag start c
  if c.endsWord 0 || (flow && c.looksAt ',') then return (t, c)
  else refuse .blankOrBreakMissing c.mark .tag start

end MarkerSweep.Yaml
