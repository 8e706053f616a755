import QueryTree.Decimal.Real
import QueryTree.Json.Character

/-!
# Values in JSON text

Values are found in a text by looking at as little of it as possible: a value begins with a
character that only values begin with, and ends where it cannot go on. What stands between values
is passed over, so that a text need not be well formed for its values to be found.
-/

namespace QueryTree

/-- The kinds of values. -/
inductive JsonKind where
  | null
  | false
  | number
  | string
  | true
  /-- An array or an object. -/
  | collection
  deriving DecidableEq, Repr

def JsonKind.name : JsonKind → String
  | .null => "Null"
  | .false => "False"
  | .number => "Number"
  | .string => "String"
  | .true => "True"
  | .collection => "JSON"

/-- A value in a text: its kind and the text it is written with. -/
structure JsonPiece where
  kind : JsonKind
  raw : String
  deriving DecidableEq, Repr

/-- What there is to find at some place in a text. -/
inductive JsonScan where
  | value (piece : JsonPiece) (rest : List Char)
  /-- A string that does not end. -/
  | unclosed
  | nothing
  deriving Repr

namespace JsonText

/-- The content of a string up to its closing quote, escapes included, and the rest of the text. -/
def quotedEnd? : List Char → Option (List Char × List Char)
  | [] => none
  | ['\\'] => none
  | '\\' :: char :: rest =>
    (quotedEnd? rest).map fun (content, rest) => ('\\' :: char :: content, rest)
  | char :: rest =>
    if char = '"' then some ([], rest)
    else (quotedEnd? rest).map fun (content, rest) => (char :: content, rest)

/-- Whether a character opens a bracket. -/
def isOpening (char : Char) : Bool := char = '\x7b' || char = '[' || char = '('

/-- Whether a character closes a bracket. -/
def isClosing (char : Char) : Bool := char = '\x7d' || char = ']' || char = ')'

/-- The text up to the end of so many open brackets of any kind, and the rest. Brackets in strings
do not count. -/
def nestedEnd (depth : Nat) (quoted : Bool) : List Char → List Char × List Char
  | [] => ([], [])
  | '\\' :: char :: rest =>
    if quoted then
      let (inside, rest) := nestedEnd depth quoted rest
      ('\\' :: char :: inside, rest)
    else
      let (inside, rest) := nestedEnd depth quoted (char :: rest)
      ('\\' :: inside, rest)
  | char :: rest =>
    if !quoted && isClosing char && depth ≤ 1 then ([char], rest)
    else
      let depth :=
        if quoted then depth
        else if isOpening char then depth + 1
        else if isClosing char then depth - 1
        else depth
      let (inside, rest) := nestedEnd depth (quoted != (char = '"')) rest
      (char :: inside, rest)

/-- Whether a character may stand in a number. -/
def isNumberChar (char : Char) : Bool :=
  ' ' < char && char ≠ ',' && char ≠ ']' && char ≠ '\x7d'

def beginsNumber (char : Char) : Bool :=
  char.isDigit || ['+', '-', 'i', 'I', 'N'].contains char

def beginsValue (char : Char) : Bool :=
  beginsNumber char || ['"', '\x7b', '[', 'n', 't', 'f'].contains char

def wordKind (letter : Char) : JsonKind :=
  if letter = 't' then .true else if letter = 'f' then .false else .null

/-- Find a value that begins with the first of some characters and goes on as long as a test says
so. -/
def scanWhile (kind : JsonKind) (test : Char → Bool) (first : Char) (rest : List Char) :
    JsonScan :=
  .value ⟨kind, String.ofList (first :: rest.takeWhile test)⟩ (rest.dropWhile test)

/-- Find the value that a text begins with. A word with an `n` is null if a `u` follows. -/
def scanValue : List Char → JsonScan
  | [] => .nothing
  | first :: rest =>
    if first = '"' then
      match quotedEnd? rest with
      | some (content, rest) =>
        .value ⟨.string, String.ofList ('"' :: content ++ ['"'])⟩ rest
      | none => .unclosed
    else if first = '\x7b' || first = '[' then
      let (inside, rest) := nestedEnd 1 false rest
      .value ⟨.collection, String.ofList (first :: inside)⟩ rest
    else if beginsNumber first || (first = 'n' && rest.head?.any (· ≠ 'u')) then
      scanWhile .number isNumberChar first rest
    else if first = 'n' || first = 't' || first = 'f' then
      scanWhile (wordKind first) Char.isLower first rest
    else .nothing

def toValue (text : List Char) : List Char := text.dropWhile (!beginsValue ·)

/-- A text without its first bytes; of a character that is cut in two a replacement is left for
each byte. -/
def dropBytes : Nat → List Char → List Char
  | 0, text => text
  | _, [] => []
  | count, char :: rest =>
    if char.utf8Size ≤ count then dropBytes (count - char.utf8Size) rest
    else List.replicate (char.utf8Size - count) '�' ++ rest

/-- The number of four hexadecimal digits; others than digits count as zero. -/
def fourDigits (text : List Char) : Nat := (Text.hexNumber? (text.take 4)).getD 0

/-- Whether a text has so many bytes. -/
def hasBytes (count : Nat) (text : List Char) : Bool := count ≤ (String.ofList text).utf8ByteSize

/-- The character of an escape by its number, after its letter, and the rest of the text. Half of a
pair takes the next escape with it. -/
def numericEscape (text : List Char) : Char × List Char :=
  let code := fourDigits text
  match dropBytes 4 text with
  | '\\' :: 'u' :: rest =>
    if isSurrogate code && hasBytes 4 rest then (pairOf code (fourDigits rest), dropBytes 4 rest)
    else (charOf code, '\\' :: 'u' :: rest)
  | rest => (charOf code, rest)

/-- What the content of a string stands for, at most `bound` characters of it. It ends where an
escape is wrong or a control character stands. -/
def unescape : Nat → List Char → List Char
  | 0, _ => []
  | _, [] => []
  | bound + 1, '\\' :: 'u' :: rest =>
    if hasBytes 4 rest then
      let (char, rest) := numericEscape rest
      char :: unescape bound rest
    else []
  | bound + 1, '\\' :: letter :: rest =>
    match escaped? letter with
    | some char => char :: unescape bound rest
    | none => []
  | bound + 1, char :: rest =>
    if char = '\\' || char < ' ' then [] else char :: unescape bound rest

/-- What the content of a string stands for. Without escapes it stands for itself. -/
def contentText (content : List Char) : String :=
  if content.contains '\\' then String.ofList (unescape content.length content)
  else String.ofList content

end JsonText

namespace JsonPiece

def missing : JsonPiece := ⟨.null, ""⟩

def isPresent (piece : JsonPiece) : Bool := piece.kind ≠ .null || piece.raw ≠ ""

/-- The text of a number: digits stay as they are, others are written out. -/
def numberText (raw : String) : String :=
  let digits := match raw.toList with
    | '-' :: digits => digits
    | digits => digits
  if digits.all Char.isDigit then raw
  else
    match RealNumber.read? raw with
    | some number => number.positional
    | none => "0"

/-- The text of a value: strings without quotes, arrays and objects in full. -/
def text (piece : JsonPiece) : String :=
  match piece.kind with
  | .null => ""
  | .false => "false"
  | .true => "true"
  | .number => numberText piece.raw
  | .string => JsonText.contentText ((piece.raw.toList.drop 1).dropLast)
  | .collection => piece.raw

end JsonPiece

end QueryTree
