import QueryTree.Json.Character
import QueryTree.Setting.Value

/-!
# Settings in JSON

The reader accepts JSON texts and nothing else. All numbers are floating point numbers; one that is
out of their range makes the text unreadable.
-/

namespace QueryTree.SettingValue

open JsonText (skipBlanks escaped? isSurrogate isPair pairOf charOf)

/-- The number of four hexadecimal digits at the beginning of a text. -/
def fourDigits? : List Char → Option (Nat × List Char)
  | a :: b :: c :: d :: rest => (Text.hexNumber? [a, b, c, d]).map (·, rest)
  | _ => none

/-- The second half of a pair at the beginning of a text. -/
def secondHalf? : List Char → Option (Nat × List Char)
  | '\\' :: 'u' :: rest => fourDigits? rest
  | _ => none

/-- The character of a number after `\u`, and the rest of the text. Half of a pair stands for the
replacement character. -/
def unicodeChar (code : Nat) (rest : List Char) : Char × List Char :=
  if isSurrogate code then
    match secondHalf? rest with
    | some (low, after) => if isPair code low then (pairOf code low, after) else ('�', rest)
    | none => ('�', rest)
  else (charOf code, rest)

/-- Read the content of a string up to its closing quote, at most `bound` characters of it. -/
def jsonContent : Nat → List Char → Option (List Char × List Char)
  | 0, _ => none
  | _, [] => none
  | _, '"' :: rest => some ([], rest)
  | bound + 1, '\\' :: 'u' :: rest => do
    let (code, rest) ← fourDigits? rest
    let (char, rest) := unicodeChar code rest
    let (chars, rest) ← jsonContent bound rest
    return (char :: chars, rest)
  | bound + 1, '\\' :: letter :: rest => do
    let char ← escaped? letter
    let (chars, rest) ← jsonContent bound rest
    return (char :: chars, rest)
  | bound + 1, char :: rest => do
    guard (0x20 ≤ char.toNat)
    let (chars, rest) ← jsonContent bound rest
    return (char :: chars, rest)

def jsonNumber? (text : String) : Option SettingValue := do
  guard (isJsonNumber text)
  let decimal ← Decimal.read? text
  return .real (← decimal.toBinary?)

def jsonWord? (word : String) : Option SettingValue :=
  if word = "null" then some .null
  else if word = "true" then some (.truth true)
  else if word = "false" then some (.truth false)
  else jsonNumber? word

mutual

/-- Read a value, nested at most as deep as the bound allows. -/
def json? : Nat → List Char → Option (SettingValue × List Char)
  | 0, _ => none
  | bound + 1, text =>
    match skipBlanks text with
    | '"' :: rest => do
      let (chars, rest) ← jsonContent (rest.length + 1) rest
      return (.string (String.ofList chars), rest)
    | '[' :: rest =>
      match skipBlanks rest with
      | ']' :: rest => some (.list [], rest)
      | _ => (jsonItems? bound rest).map fun (items, rest) => (.list items, rest)
    | '\x7b' :: rest =>
      match skipBlanks rest with
      | '\x7d' :: rest => some (.table [], rest)
      | _ => (jsonEntries? bound rest).map fun (entries, rest) => (.table entries, rest)
    | rest =>
      let isWordChar (char : Char) : Bool :=
        char.isAlphanum || char = '-' || char = '+' || char = '.'
      (jsonWord? (String.ofList (rest.takeWhile isWordChar))).map
        (·, rest.dropWhile isWordChar)

/-- Read the items of a list and its closing bracket. -/
def jsonItems? : Nat → List Char → Option (List SettingValue × List Char)
  | 0, _ => none
  | bound + 1, text => do
    let (first, rest) ← json? bound text
    match skipBlanks rest with
    | ']' :: rest => return ([first], rest)
    | ',' :: rest =>
      let (others, rest) ← jsonItems? bound rest
      return (first :: others, rest)
    | _ => none

/-- Read the entries of a table and its closing brace. -/
def jsonEntries? : Nat → List Char →
    Option (List (SettingKey × SettingValue) × List Char)
  | 0, _ => none
  | bound + 1, text => do
    let '"' :: rest := skipBlanks text | none
    let (name, rest) ← jsonContent (rest.length + 1) rest
    let ':' :: rest := skipBlanks rest | none
    let (value, rest) ← json? bound rest
    match skipBlanks rest with
    | '\x7d' :: rest => return ([(.text (String.ofList name), value)], rest)
    | ',' :: rest =>
      let (others, rest) ← jsonEntries? bound rest
      return ((.text (String.ofList name), value) :: others, rest)
    | _ => none

end

def ofJson? (text : String) : Option SettingValue := do
  let (value, rest) ← json? (2 * text.length + 2) text.toList
  guard (skipBlanks rest).isEmpty
  return value

end QueryTree.SettingValue
