import MarkerSweep.Yaml.Cursor
/-!
# What can be wrong with a YAML text

A text may be malformed, name an anchor that nothing bears, or hold something other than what it is
read for. Messages give the place unless it is the very first one. A malformed text is explained by a
problem and, mostly, by the activity during which it showed.
-/

set_option autoImplicit false

namespace MarkerSweep.Yaml

/-- What is being read. -/
inductive Activity
  | nextToken
  | simpleKey
  | directive
  | versionDirective
  | tagDirective
  | tagDirectiveHandle
  | tagDirectiveHandleEnd
  | tagDirectiveUri
  | anchor
  | aliasName
  | tag
  | tagUri
  | blockScalar
  | quotedScalar
  | quotedEscape
  | plainScalar
  | node
  | blockNode
  | flowNode
  | blockCollection
  | blockMapping
  | flowSequence
  | flowMapping
deriving DecidableEq

namespace Activity

def message : Activity → String
  | nextToken => "while scanning for the next token"
  | simpleKey => "while scanning a simple key"
  | directive => "while scanning a directive"
  | versionDirective => "while scanning a %YAML directive"
  | tagDirective => "while scanning a %TAG directive"
  | tagDirectiveHandle => "while scanning a tag directive"
  | tagDirectiveHandleEnd => "while parsing a tag directive"
  | tagDirectiveUri => "while parsing a %TAG directive"
  | anchor => "while scanning an anchor"
  | aliasName => "while scanning an alias"
  | tag => "while scanning a tag"
  | tagUri => "while parsing a tag"
  | blockScalar => "while scanning a block scalar"
  | quotedScalar => "while scanning a quoted scalar"
  | quotedEscape => "while parsing a quoted scalar"
  | plainScalar => "while scanning a plain scalar"
  | node => "while parsing a node"
  | blockNode => "while parsing a block node"
  | flowNode => "while parsing a flow node"
  | blockCollection => "while parsing a block collection"
  | blockMapping => "while parsing a block mapping"
  | flowSequence => "while parsing a flow sequence"
  | flowMapping => "while parsing a flow mapping"

end Activity

inductive Problem
  | tokenStart
  | keyWithoutValue
  | entryNotAllowed
  | keyNotAllowed
  | valueNotAllowed
  | directiveNameMissing
  | directiveNameMalformed
  | directiveUnknown
  | lineEndMissing
  | versionDotMissing
  | versionNumberMissing
  | versionNumberTooLong
  | blankMissing
  | blankOrBreakMissing
  | nameMissing
  | tagNotClosed
  | tagMarkMissing
  | tagUriMissing
  | octetMissing
  | octetLeading
  | octetTrailing
  | indentZero
  | tabInIndent
  | tabBeforePlain
  | documentMarkInside
  | streamEndInside
  | escapeUnknown
  | hexDigitMissing
  | escapeNoCharacter
  | colonInFlow
  | versionTwice
  | versionUnsupported
  | tagHandleTwice
  | documentStartMissing
  | tagHandleUnknown
  | nodeMissing
  | entryMissing
  | keyMissing
  | sequenceNotClosed
  | mappingNotClosed
deriving DecidableEq

namespace Problem

def message : Problem → String
  | tokenStart => "found character that cannot start any token"
  | keyWithoutValue => "could not find expected ':'"
  | entryNotAllowed => "block sequence entries are not allowed in this context"
  | keyNotAllowed => "mapping keys are not allowed in this context"
  | valueNotAllowed => "mapping values are not allowed in this context"
  | directiveNameMissing => "could not find expected directive name"
  | directiveNameMalformed => "found unexpected non-alphabetical character"
  | directiveUnknown => "found unknown directive name"
  | lineEndMissing => "did not find expected comment or line break"
  | versionDotMissing => "did not find expected digit or '.' character"
  | versionNumberMissing => "did not find expected version number"
  | versionNumberTooLong => "found extremely long version number"
  | blankMissing => "did not find expected whitespace"
  | blankOrBreakMissing => "did not find expected whitespace or line break"
  | nameMissing => "did not find expected alphabetic or numeric character"
  | tagNotClosed => "did not find the expected '>'"
  | tagMarkMissing => "did not find expected '!'"
  | tagUriMissing => "did not find expected tag URI"
  | octetMissing => "did not find URI escaped octet"
  | octetLeading => "found an incorrect leading UTF-8 octet"
  | octetTrailing => "found an incorrect trailing UTF-8 octet"
  | indentZero => "found an indentation indicator equal to 0"
  | tabInIndent => "found a tab character where an indentation space is expected"
  | tabBeforePlain => "found a tab character that violates indentation"
  | documentMarkInside => "found unexpected document indicator"
  | streamEndInside => "found unexpected end of stream"
  | escapeUnknown => "found unknown escape character"
  | hexDigitMissing => "did not find expected hexdecimal number"
  | escapeNoCharacter => "found invalid Unicode character escape code"
  | colonInFlow => "found unexpected ':'"
  | versionTwice => "found duplicate %YAML directive"
  | versionUnsupported => "found incompatible YAML document"
  | tagHandleTwice => "found duplicate %TAG directive"
  | documentStartMissing => "did not find expected <document start>"
  | tagHandleUnknown => "found undefined tag handle"
  | nodeMissing => "did not find expected node content"
  | entryMissing => "did not find expected '-' indicator"
  | keyMissing => "did not find expected key"
  | sequenceNotClosed => "did not find expected ',' or ']'"
  | mappingNotClosed => "did not find expected ',' or '\x7d'"

end Problem

/-- A step on the way from the root of a document to one of its values. -/
inductive Step
  | key (name : String)
  | index (n : Nat)
  /-- The value of a key that has no name. -/
  | unnamed
deriving DecidableEq

namespace Step

def display : Step → String
  | key name => name
  | index n => "\\[" ++ toString n ++ "\\]"
  | unnamed => "?"

end Step

/-- The way to a value, from the root. -/
abbrev Route := List Step

/-- How a value differs from what is expected of it. -/
inductive Complaint
  | type (found expected : String)
  | value (found expected : String)
  | missingField (name : String)
  | duplicateField (name : String)
  | unknownVariant (name : String) (allowed : List String)
  | custom (message : String)
deriving DecidableEq

namespace Complaint

def tick (s : String) : String := "`" ++ s ++ "`"

def message : Complaint → String
  | type found expected => "invalid type: " ++ found ++ ", expected " ++ expected
  | value found expected => "invalid value: " ++ found ++ ", expected " ++ expected
  | missingField name => "missing field " ++ tick name
  | duplicateField name => "duplicate field " ++ tick name
  | unknownVariant name allowed =>
    "unknown variant " ++ tick name ++ ", expected one of " ++
      String.intercalate ", " (allowed.map tick)
  | custom message => message

end Complaint

inductive Error
  /-- A character that no YAML text may hold, after the given number of bytes. -/
  | control (offset : Nat)
  | malformed (problem : Problem) (mark : Mark) (context : Option (Activity × Mark))
  | unknownAnchor (mark : Mark)
  | endOfStream
  | tooManyAliases
  | severalDocuments
  /-- A value that does not fit; the place is filled in on the way out. -/
  | unfit (complaint : Complaint) (place : Option (Route × Mark))
deriving DecidableEq

namespace Error

/-- The activity with its place, unless that is the place of the problem. -/
def contextMessage (mark : Mark) : Option (Activity × Mark) → String
  | none => ""
  | some (activity, since) =>
    let place :=
      if since.line == mark.line && since.column == mark.column then "" else since.suffix
    ", " ++ activity.message ++ place

def message : Error → String
  | control offset =>
    "control characters are not allowed" ++
      (if offset = 0 then "" else " at position " ++ toString offset)
  | malformed problem mark context =>
    problem.message ++ mark.suffix ++ contextMessage mark context
  | unknownAnchor mark => "unknown anchor" ++ mark.suffix
  | endOfStream => "EOF while parsing a value"
  | tooManyAliases => "repetition limit exceeded"
  | severalDocuments => "deserializing from YAML containing more than one document is not supported"
  | unfit complaint none => complaint.message
  | unfit complaint (some ([], mark)) => complaint.message ++ mark.suffix
  | unfit complaint (some (route, mark)) =>
    String.intercalate "." (route.map Step.display) ++ ": " ++ complaint.message ++ mark.suffix

end Error

end MarkerSweep.Yaml
