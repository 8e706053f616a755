import QueryTree.Text.Hex
import QueryTree.Text.Printable

/-!
# Quoted text

Text between double quotes in which every character that cannot be printed is escaped. Seven
control characters have a letter of their own, the others below `0x80` are written with two
hexadecimal digits, the rest with four or eight. Canonical string values, the names in messages
and the constants of generated code are all written this way.
-/

namespace QueryTree.Text

/-- The letter that stands for a control character after a backslash. -/
def controlLetter? (character : Char) : Option Char :=
  match character.toNat with
  | 7 => some 'a'
  | 8 => some 'b'
  | 12 => some 'f'
  | 10 => some 'n'
  | 13 => some 'r'
  | 9 => some 't'
  | 11 => some 'v'
  | _ => none

/-- A character as it stands between double quotes. -/
def quotedChar (character : Char) : List Char :=
  if character = '"' ∨ character = '\\' then ['\\', character]
  else if isPrintable character then [character]
  else
    match controlLetter? character with
    | some letter => ['\\', letter]
    | none =>
      let code := character.toNat
      if code < 0x20 ∨ code = 0x7f then '\\' :: 'x' :: hexFixed 2 code
      else if code < 0x10000 then '\\' :: 'u' :: hexFixed 4 code
      else '\\' :: 'U' :: hexFixed 8 code

/-- The characters of a text as they stand between double quotes. -/
def quotedChars (characters : List Char) : List Char :=
  characters.flatMap quotedChar

/-- A text between double quotes, with everything that cannot be printed escaped. -/
def quoted (text : String) : String :=
  String.ofList ('"' :: quotedChars text.toList ++ ['"'])

/-- A character between single quotes, with everything that cannot be printed escaped. -/
def quotedLetter (character : Char) : String :=
  let chars :=
    if character = '\'' then ['\\', '\'']
    else if character = '"' then ['"']
    else quotedChar character
  String.ofList ('\'' :: chars ++ ['\''])

/-- Whether a text can stand between back quotes, where nothing is escaped. -/
def isRaw (text : String) : Bool :=
  text.toList.all fun character =>
    let code := character.toNat
    (code ≥ 0x20 || character = '\t') && code ≠ 0x60 && code ≠ 0x7f && code ≠ 0xfeff

/-- A text between back quotes if that is possible, else between double quotes. -/
def quotedRaw (text : String) : String :=
  if isRaw text then "\x60" ++ text ++ "\x60" else quoted text

end QueryTree.Text
