import QueryTree.Yaml.Character
import QueryTree.Yaml.Pen
import QueryTree.Yaml.Scalar

/-!
# Styles of strings

A string is written plainly if that cannot be misread. Otherwise it is put between single quotes,
or between double quotes if it needs escapes. Strings of several lines are written as blocks. Long
lines are folded at a single blank.
-/

namespace QueryTree.Yaml

/-- Whether a character can be written without an escape. -/
def isPrintable (char : Char) : Bool :=
  let code := char.toNat
  code = 0x0A || (0x20 ≤ code && code ≤ 0x7E) || (0xA0 ≤ code && code ≤ 0xD7FF) ||
    (0xE000 ≤ code && code ≤ 0xFFFD && code ≠ 0xFEFF)

/-- How a string is written. -/
inductive Style where
  | plain
  | single
  | double
  | literal
  deriving DecidableEq, Repr

/-- Whether nothing or a blank follows. -/
def endsOrBlank : List Char → Bool
  | [] => true
  | char :: _ => isBlank char

/-- The characters that cannot begin a plain string. -/
def indicators : List Char :=
  ['#', ',', '[', ']', '\x7b', '\x7d', '&', '*', '!', '|', '>', '\'', '"', '%', '@', '\x60']

/-- Whether a string begins like something else. -/
def beginsWithIndicator : List Char → Bool
  | [] => false
  | first :: rest =>
    indicators.contains first ||
      ((first = '-' || first = '?' || first = ':') && endsOrBlank rest) ||
      ['-', '-', '-'].isPrefixOf (first :: rest) || ['.', '.', '.'].isPrefixOf (first :: rest)

/-- Whether a string holds the end of a key or the beginning of a comment, after a character. -/
def containsIndicator (before : Char) : List Char → Bool
  | [] => false
  | char :: rest =>
    (char = ':' && endsOrBlank rest) ||
      (char = '#' && (isBlank before || isBreak before || before.toNat = 0)) ||
      containsIndicator char rest

/-- Whether a pair of neighbours in a string has a property. -/
def anyNeighbours (holds : Char → Char → Bool) (chars : List Char) : Bool :=
  (chars.zip (chars.drop 1)).any fun (left, right) => holds left right

/-- Whether a blank stands right before the end of a line, or a character cannot be printed. -/
def needsEscapes (chars : List Char) : Bool :=
  anyNeighbours (fun left right => left = ' ' && isBreak right) chars ||
    chars.any (!isPrintable ·)

/-- Whether a line after the first begins with a blank. -/
def hasIndentedLine (chars : List Char) : Bool :=
  anyNeighbours (fun left right => isBreak left && right = ' ') chars

/-- Whether a string can stand between single quotes. -/
def allowsSingle (chars : List Char) : Bool := !needsEscapes chars && !hasIndentedLine chars

/-- Whether a string can be written plainly. -/
def allowsPlain (chars : List Char) : Bool :=
  allowsSingle chars && !chars.any isBreak && chars.head? ≠ some ' ' && chars.getLast? ≠ some ' ' &&
    !beginsWithIndicator chars &&
    match chars with
    | [] => true
    | first :: rest => !containsIndicator first rest

/-- Whether a string can be written as a block. -/
def allowsLiteral (chars : List Char) : Bool := !needsEscapes chars && chars.getLast? ≠ some ' '

/-- The style of a string. Keys in front of a colon stay on one line. -/
def styleOf (text : String) (isKey : Bool) : Style :=
  let chars := text.toList
  let quoted : Style := if allowsSingle chars then .single else .double
  if isKey && chars.any isBreak then .double
  else if chars.contains '\n' then
    if allowsLiteral chars && !isKey then .literal else .double
  else if isReserved text then .double
  else if allowsPlain chars then .plain
  else quoted

/-- The column after which lines are folded. -/
def lineWidth : Nat := 80

/-- Whether a line is folded at a blank: past the width, between two characters that are no
blanks. -/
def foldsAt (pen : Pen) (first afterSpace : Bool) (rest : List Char) : Bool :=
  !afterSpace && !first && lineWidth < pen.column && !rest.isEmpty && rest.head? ≠ some ' '

/-- Write the characters of a plain or single quoted string, each in a given form. -/
def writeFlowing (indent : Nat) (folds : Bool) (form : Char → List Char)
    (first afterSpace afterBreak : Bool) : Pen → List Char → Pen
  | pen, [] => pen
  | pen, char :: rest =>
    if char = ' ' then
      let pen :=
        if folds && foldsAt pen first afterSpace rest then pen.indentTo indent else pen.put char
      writeFlowing indent folds form false true afterBreak pen rest
    else if isBreak char then
      let pen := if !afterBreak && char = '\n' then pen.endLine '\n' else pen
      let pen := (pen.endLine char).noting pen.afterBlank true
      writeFlowing indent folds form false afterSpace true pen rest
    else
      let pen := if afterBreak then pen.indentTo indent else pen
      let pen := (pen.putAll (form char)).noting pen.afterBlank false
      writeFlowing indent folds form false false false pen rest

/-- An upper case hexadecimal number. -/
def upperHex (width value : Nat) : List Char :=
  (Text.hexFixed width value).map Char.toUpper

def escape (char : Char) : List Char :=
  let code := char.toNat
  let short : Option Char :=
    [(0x00, '0'), (0x07, 'a'), (0x08, 'b'), (0x09, 't'), (0x0A, 'n'), (0x0B, 'v'), (0x0C, 'f'),
      (0x0D, 'r'), (0x1B, 'e'), (0x22, '"'), (0x5C, '\\'), (0x85, 'N'), (0xA0, '_'),
      (0x2028, 'L'), (0x2029, 'P')].lookup code
  match short with
  | some letter => ['\\', letter]
  | none =>
    if code ≤ 0xFF then '\\' :: 'x' :: upperHex 2 code
    else if code ≤ 0xFFFF then '\\' :: 'u' :: upperHex 4 code
    else '\\' :: 'U' :: upperHex 8 code

/-- Whether a character is escaped between double quotes. -/
def needsEscape (char : Char) : Bool :=
  !isPrintable char || isBreak char || char = '"' || char = '\\'

/-- Write the characters of a double quoted string. A blank that begins a folded line is
escaped. -/
def writeEscaped (indent : Nat) (folds first afterSpace : Bool) : Pen → List Char → Pen
  | pen, [] => pen
  | pen, char :: rest =>
    if needsEscape char then
      writeEscaped indent folds false false (pen.putAll (escape char)) rest
    else if char = ' ' then
      let pen :=
        if folds && !afterSpace && !first && lineWidth < pen.column && !rest.isEmpty then
          let pen := pen.indentTo indent
          if rest.head? = some ' ' then pen.put '\\' else pen
        else pen.put char
      writeEscaped indent folds false true pen rest
    else writeEscaped indent folds false false (pen.put char) rest

/-- Write a double quoted string. After a mark of the encoding, every character is escaped. -/
def writeDouble (indent : Nat) (folds : Bool) (pen : Pen) (chars : List Char) : Pen :=
  if chars.head? = some orderMark then pen.putAll (chars.flatMap escape)
  else writeEscaped indent folds true false pen chars

/-- The marks of a block: its indentation if the text begins with a blank or an empty line, and
how many line ends follow it. -/
def blockMarks (chars : List Char) : List Char :=
  let indentation := match chars with
    | char :: _ => if char = ' ' || isBreak char then ['2'] else []
    | [] => []
  let ending := match chars.reverse with
    | [] => ['-']
    | last :: others =>
      if !isBreak last then ['-']
      else
        match others with
        | [] => ['+']
        | previous :: _ => if isBreak previous then ['+'] else []
  indentation ++ ending

def writeLines (indent : Nat) (afterBreak : Bool) : Pen → List Char → Pen
  | pen, [] => pen
  | pen, char :: rest =>
    if isBreak char then
      writeLines indent true ((pen.endLine char).noting pen.afterBlank true) rest
    else
      let pen := if afterBreak then pen.indentTo indent else pen
      writeLines indent false ((pen.put char).noting pen.afterBlank false) rest

def writeStyled (indent : Nat) (isKey : Bool) (style : Style) (pen : Pen) (chars : List Char) :
    Pen :=
  match style with
  | .plain =>
    let pen := if pen.afterBlank then pen else pen.put ' '
    (writeFlowing indent (!isKey) (fun char => [char]) true false false pen chars).noting
      false false
  | .single =>
    let double (char : Char) : List Char := if char = '\'' then ['\'', '\''] else [char]
    let pen := pen.mark ['\''] false false
    (writeFlowing indent (!isKey) double true false false pen chars).markHere ['\'']
  | .double =>
    let pen := pen.mark ['"'] false false
    (writeDouble indent (!isKey) pen chars).markHere ['"']
  | .literal =>
    let pen := (pen.mark ['|'] false false).markHere (blockMarks chars)
    writeLines indent true ((pen.endLine '\n').noting true true) chars

def writeString (indent : Nat) (isKey : Bool) (pen : Pen) (text : String) : Pen :=
  writeStyled indent isKey (styleOf text isKey) pen text.toList

end QueryTree.Yaml
