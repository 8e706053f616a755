import QueryTree.Text.Hex

/-!
# JSON values and their text

Objects keep the order of their entries and numbers keep their text. A value is written on one
line without blanks, or on several lines that are indented by two blanks for each level. Values
that are nested too deeply are not written.
-/

namespace QueryTree

/-- A JSON value. -/
inductive JsonValue where
  | null
  | bool (value : Bool)
  /-- A number, as it is written. -/
  | number (raw : String)
  | string (text : String)
  | array (items : List JsonValue)
  | object (entries : List (String × JsonValue))
  deriving Repr

namespace JsonNumber

def afterSign : List Char → List Char
  | '-' :: rest => rest
  | rest => rest

/-- What follows the integral part: a zero, or digits that begin with another one. -/
def afterWhole? : List Char → Option (List Char)
  | '0' :: rest => some rest
  | digit :: rest => if digit.isDigit then some (rest.dropWhile Char.isDigit) else none
  | [] => none

/-- What follows the fraction, if there is one. -/
def afterFraction? : List Char → Option (List Char)
  | '.' :: digit :: rest => if digit.isDigit then some (rest.dropWhile Char.isDigit) else none
  | '.' :: [] => none
  | rest => some rest

def afterExponentSign : List Char → List Char
  | '+' :: rest => rest
  | '-' :: rest => rest
  | rest => rest

/-- Whether characters are an exponent or nothing. -/
def isExponent : List Char → Bool
  | [] => true
  | mark :: rest =>
    let digits := afterExponentSign rest
    (mark == 'e' || mark == 'E') && !digits.isEmpty && digits.all Char.isDigit

end JsonNumber

def isJsonNumber (text : String) : Bool :=
  ((JsonNumber.afterWhole? (JsonNumber.afterSign text.toList)).bind
    JsonNumber.afterFraction?).any JsonNumber.isExponent

namespace JsonValue

/-- A character as it stands in a JSON string. The line and paragraph separators are escaped too,
as they end a line in some languages that embed JSON. -/
def stringChar (character : Char) : List Char :=
  let code := character.toNat
  if character = '"' ∨ character = '\\' then ['\\', character]
  else if code = 8 then ['\\', 'b']
  else if code = 12 then ['\\', 'f']
  else if character = '\n' then ['\\', 'n']
  else if character = '\r' then ['\\', 'r']
  else if character = '\t' then ['\\', 't']
  else if code < 0x20 ∨ code = 0x2028 ∨ code = 0x2029 then '\\' :: 'u' :: Text.hexFixed 4 code
  else [character]

def quote (text : String) : String :=
  String.ofList ('"' :: text.toList.flatMap stringChar ++ ['"'])

mutual

def compact : JsonValue → String
  | .null => "null"
  | .bool value => if value then "true" else "false"
  | .number raw => raw
  | .string text => quote text
  | .array items => "[" ++ compactItems items ++ "]"
  | .object entries => "\x7b" ++ compactEntries entries ++ "\x7d"

/-- The items of an array, separated by commas. -/
def compactItems : List JsonValue → String
  | [] => ""
  | [item] => compact item
  | item :: items => compact item ++ "," ++ compactItems items

/-- The entries of an object, separated by commas. -/
def compactEntries : List (String × JsonValue) → String
  | [] => ""
  | [(key, value)] => quote key ++ ":" ++ compact value
  | (key, value) :: entries => quote key ++ ":" ++ compact value ++ "," ++ compactEntries entries

end

def newLine (level : Nat) : String :=
  String.ofList ('\n' :: List.replicate (2 * level) ' ')

mutual

/-- The text of a value on several lines, when its first line stands at a level. -/
def indentedAt (level : Nat) : JsonValue → String
  | .array [] => "[]"
  | .array items => "[" ++ indentedItems (level + 1) items ++ newLine level ++ "]"
  | .object [] => "\x7b\x7d"
  | .object entries => "\x7b" ++ indentedEntries (level + 1) entries ++ newLine level ++ "\x7d"
  | .null => "null"
  | .bool value => if value then "true" else "false"
  | .number raw => raw
  | .string text => quote text

/-- The items of an array, each on lines of its own. -/
def indentedItems (level : Nat) : List JsonValue → String
  | [] => ""
  | [item] => newLine level ++ indentedAt level item
  | item :: items => newLine level ++ indentedAt level item ++ "," ++ indentedItems level items

/-- The entries of an object, each on lines of its own. -/
def indentedEntries (level : Nat) : List (String × JsonValue) → String
  | [] => ""
  | [(key, value)] => newLine level ++ quote key ++ ": " ++ indentedAt level value
  | (key, value) :: entries =>
    newLine level ++ quote key ++ ": " ++ indentedAt level value ++ "," ++
      indentedEntries level entries

end

/-- The text of a value on several lines. -/
def indented (value : JsonValue) : String := indentedAt 0 value

/-! ## Nesting -/

mutual

/-- How deeply arrays and objects are nested. -/
def depth : JsonValue → Nat
  | .array items => depthOfItems items + 1
  | .object entries => depthOfEntries entries + 1
  | _ => 0

def depthOfItems : List JsonValue → Nat
  | [] => 0
  | item :: items => max (depth item) (depthOfItems items)

def depthOfEntries : List (String × JsonValue) → Nat
  | [] => 0
  | (_, value) :: entries => max (depth value) (depthOfEntries entries)

end

mutual

/-- The depth of the deepest object, where the arrays around it do not count. -/
def objectDepth : JsonValue → Nat
  | .array items => objectDepthOfItems items
  | .object entries => depthOfEntries entries + 1
  | _ => 0

/-- The depth of the deepest object in the items of an array. -/
def objectDepthOfItems : List JsonValue → Nat
  | [] => 0
  | item :: items => max (objectDepth item) (objectDepthOfItems items)

end

/-- How deeply a value that is written as a whole may be nested. -/
def nestingLimit : Nat := 10000

end JsonValue

end QueryTree
