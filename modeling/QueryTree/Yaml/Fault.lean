/-!
# Faults of YAML text

What makes a text unreadable, with the line where it was noticed.
-/

namespace QueryTree.Yaml

/-- What can be wrong with a text. -/
inductive Fault where
  | unreadableCharacter
  | strayCharacter
  | missingColon
  | tooDeep
  /-- An item, a key or a value where none may begin. -/
  | misplacedItem
  | misplacedKey
  | misplacedValue
  /-- A quoted scalar that goes over the end of a document or of the text. -/
  | documentMarkInScalar
  | endInScalar
  | unknownEscape
  | escapeDigits
  | escapeRange
  | tabInScalar
  | zeroIndentation
  | tabIndentation
  | afterHeader
  | emptyName
  | tagHandle
  | tagText
  | tagEscape
  | tagClosing
  | tagEnd
  | unknownDirective
  | directiveName
  | versionNumber
  | incompatibleVersion
  | repeatedDirective
  | documentStart
  | nodeContent
  | blockItem
  | blockKey
  | flowItem
  | flowKey
  | undefinedHandle
  | unknownAnchor (name : String)
  | selfReference (name : String)
  | excessiveReferences
  | unsuitableTag
  | invalidBinary
  | unsuitableKey
  | unsuitableMerge
  | notMapping
  deriving DecidableEq, Repr

def Fault.message : Fault → String
  | .unreadableCharacter => "control characters are not allowed"
  | .strayCharacter => "found character that cannot start any token"
  | .missingColon => "could not find expected ':'"
  | .tooDeep => "exceeded max depth of 10000"
  | .misplacedItem => "block sequence entries are not allowed in this context"
  | .misplacedKey => "mapping keys are not allowed in this context"
  | .misplacedValue => "mapping values are not allowed in this context"
  | .documentMarkInScalar => "found unexpected document indicator"
  | .endInScalar => "found unexpected end of stream"
  | .unknownEscape => "found unknown escape character"
  | .escapeDigits => "did not find expected hexdecimal number"
  | .escapeRange => "found invalid Unicode character escape code"
  | .tabInScalar => "found a tab character that violates indentation"
  | .zeroIndentation => "found an indentation indicator equal to 0"
  | .tabIndentation => "found a tab character where an indentation space is expected"
  | .afterHeader => "did not find expected comment or line break"
  | .emptyName => "did not find expected alphabetic or numeric character"
  | .tagHandle => "did not find expected '!'"
  | .tagText => "did not find expected tag URI"
  | .tagEscape => "did not find URI escaped octet"
  | .tagClosing => "did not find the expected '>'"
  | .tagEnd => "did not find expected whitespace or line break"
  | .unknownDirective => "found unknown directive name"
  | .directiveName => "could not find expected directive name"
  | .versionNumber => "did not find expected version number"
  | .incompatibleVersion => "found incompatible YAML document"
  | .repeatedDirective => "found duplicate directive"
  | .documentStart => "did not find expected <document start>"
  | .nodeContent => "did not find expected node content"
  | .blockItem => "did not find expected '-' indicator"
  | .blockKey => "did not find expected key"
  | .flowItem => "did not find expected ',' or ']'"
  | .flowKey => "did not find expected ',' or '\x7d'"
  | .undefinedHandle => "found undefined tag handle"
  | .unknownAnchor name => "unknown anchor '" ++ name ++ "' referenced"
  | .selfReference name => "anchor '" ++ name ++ "' value contains itself"
  | .excessiveReferences => "document contains excessive aliasing"
  | .unsuitableTag => "cannot decode a value as its tag says"
  | .invalidBinary => "!!binary value contains invalid base64 data"
  | .unsuitableKey => "invalid map key"
  | .unsuitableMerge => "map merge requires map or sequence of maps as the value"
  | .notMapping => "cannot unmarshal into a map"

/-- A fault and the line that is told with it; none is told if it is zero. -/
structure ReadError where
  fault : Fault
  line : Nat
  deriving DecidableEq, Repr

def ReadError.message (error : ReadError) : String :=
  let place := if error.line = 0 then "" else "line " ++ toString error.line ++ ": "
  "yaml: " ++ place ++ error.fault.message

/-- The result of reading, or the first error. -/
abbrev Reading := Except ReadError

end QueryTree.Yaml
