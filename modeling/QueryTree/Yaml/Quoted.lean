import QueryTree.Text.Hex
import QueryTree.Yaml.Cursor

/-!
# Quoted scalars

A scalar stands between single quotes, in which a quote is written twice, or between double quotes,
in which a backslash begins an escape. It may go over several lines, which are folded.
-/

namespace QueryTree.Yaml

/-- The character that a letter after a backslash stands for. -/
def escapedChar? (letter : Char) : Option Char :=
  [('0', '\x00'), ('a', '\x07'), ('b', '\x08'), ('t', '\t'), ('\t', '\t'), ('n', '\n'),
    ('v', '\x0b'), ('f', '\x0c'), ('r', '\r'), ('e', '\x1b'), (' ', ' '), ('"', '"'),
    ('\'', '\''), ('\\', '\\'), ('N', '\u0085'), ('_', '\u00a0'), ('L', '\u2028'),
    ('P', '\u2029')].lookup letter

/-- How many hexadecimal digits follow a letter after a backslash. -/
def escapeWidth? (letter : Char) : Option Nat :=
  [('x', 2), ('u', 4), ('U', 8)].lookup letter

/-- Read an escape, from its backslash on. -/
def readEscape (cursor : Cursor) : Reading (Char × Cursor) :=
  match cursor.text with
  | _ :: letter :: rest =>
    match escapeWidth? letter with
    | some width => do
      cursor.need (width + 2)
      let after := cursor.advance 2
      match Text.hexNumber? (rest.take width) with
      | some code =>
        if rest.length < width then after.fail .escapeDigits
        else if code.isValidChar then return (Char.ofNat code, after.advance width)
        else after.fail .escapeRange
      | none => after.fail .escapeDigits
    | none =>
      match escapedChar? letter with
      | some char => .ok (char, cursor.advance 2)
      | none => cursor.fail .unknownEscape
  | _ => do
    cursor.need 2
    cursor.fail .unknownEscape

/-- Whether a backslash takes the end of the line away. -/
def joinsLines : List Char → Bool
  | '\\' :: char :: _ => isBreak char
  | _ => false

/-- Whether a character between quotes just stands for itself. -/
def isOrdinary (quote char : Char) : Bool := !isSpacing char && char ≠ quote && char ≠ '\\'

/-- Read a scalar after its opening quote, at most `bound` characters and gaps of it. -/
def quotedScalar (quote : Char) : Nat → Cursor → Reading (List Char × Cursor)
  | 0, cursor => cursor.fail .endInScalar
  | bound + 1, cursor => do
    if cursor.isAtDocumentMark then cursor.fail .documentMarkInScalar
    match cursor.text with
    | [] => cursor.fail .endInScalar
    | char :: rest =>
      if isSpacing char then
        let (gap, after) ← Gap.read 0 bound false cursor
        let (content, after) ← quotedScalar quote bound after
        return (gap.text ++ content, after)
      else if char = quote then
        if quote = '\'' && rest.head? = some quote then
          let (content, after) ← quotedScalar quote bound (cursor.advance 2)
          return (char :: content, after)
        else return ([], cursor.step)
      else if quote = '"' && joinsLines (char :: rest) then
        let (gap, after) ← Gap.read 0 bound true cursor.step.endLine
        let (content, after) ← quotedScalar quote bound after
        return (gap.breaks ++ content, after)
      else if quote = '"' && char = '\\' then
        let (char, after) ← readEscape cursor
        let (content, after) ← quotedScalar quote bound after
        return (char :: content, after)
      else
        let word := char :: rest.takeWhile (isOrdinary quote)
        let (content, after) ← quotedScalar quote bound (cursor.advance word.length)
        return (word ++ content, after)

end QueryTree.Yaml
