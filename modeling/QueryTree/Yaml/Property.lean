import QueryTree.Text.Bytes
import QueryTree.Text.Hex
import QueryTree.Yaml.Cursor

/-!
# Names, tags and directives

A node may have a name, by which others refer to it, and a tag, which tells how it is read. The
beginning of a tag is a handle, and directives at the beginning of a document tell what it stands
for.
-/

namespace QueryTree.Yaml

/-- The marks that may follow a name. -/
def nameEnds : List Char := ['?', ':', ',', ']', '\x7d', '%', '@', '\x60']

def nodeName (cursor : Cursor) : Reading (String × Cursor) :=
  let name := cursor.text.takeWhile isNameChar
  let after := cursor.advance name.length
  if !name.isEmpty && (endsWord after.text || after.isAny nameEnds.contains) then
    .ok (String.ofList name, after)
  else after.fail .emptyName

/-- A tag as it is written. -/
structure TagText where
  handle : String
  rest : String
  deriving DecidableEq, Repr

/-- Read a handle: an exclamation mark, or a word between two of them. A tag may have the word and
not the second mark. -/
def tagHandle (isDirective : Bool) (cursor : Cursor) : Reading (List Char × Cursor) :=
  if !cursor.isAt '!' then cursor.fail .tagHandle
  else
    let word := cursor.step.text.takeWhile isNameChar
    let after := cursor.step.advance word.length
    if after.isAt '!' then .ok ('!' :: word ++ ['!'], after.step)
    else if isDirective && !word.isEmpty then after.fail .tagHandle
    else .ok ('!' :: word, after)

def tagMarks : List Char :=
  [';', '/', '?', ':', '@', '&', '=', '+', '$', ',', '.', '!', '~', '*', '\'', '(', ')', '[', ']',
    '%']

def tagByte? : List Char → Option Nat
  | '%' :: high :: low :: _ => Text.hexNumber? [high, low]
  | _ => none

/-- Read the bytes after the first one of an escaped character. -/
def trailingBytes : Nat → Nat → Cursor → Reading (Nat × Cursor)
  | 0, code, cursor => .ok (code, cursor)
  | count + 1, code, cursor =>
    match tagByte? cursor.text with
    | some byte =>
      if Text.isTrailingByte byte then
        trailingBytes count (code * 0x40 + byte % 0x40) (cursor.advance 3)
      else cursor.fail .tagEscape
    | none => cursor.fail .tagEscape

def tagEscape (cursor : Cursor) : Reading (Char × Cursor) :=
  match (tagByte? cursor.text).bind Text.leadingByte? with
  | some (width, start) => do
    let (code, after) ← trailingBytes (width - 1) start (cursor.advance 3)
    return (if code.isValidChar then Char.ofNat code else Text.replacement, after)
  | none => cursor.fail .tagEscape

/-- Read what may stand in a tag, at most `bound` characters of it. -/
def tagChars : Nat → Cursor → Reading (List Char × Cursor)
  | 0, cursor => .ok ([], cursor)
  | bound + 1, cursor =>
    match cursor.head? with
    | some char =>
      if char = '%' then do
        let (char, after) ← tagEscape cursor
        let (chars, after) ← tagChars bound after
        return (char :: chars, after)
      else if isNameChar char || tagMarks.contains char then do
        let (chars, after) ← tagChars bound cursor.step
        return (char :: chars, after)
      else .ok ([], cursor)
    | none => .ok ([], cursor)

/-- Read what may stand in a tag, at least one character. -/
def someTagChars (cursor : Cursor) : Reading (List Char × Cursor) := do
  let (chars, after) ← tagChars cursor.text.length cursor
  if chars.isEmpty then after.fail .tagText else return (chars, after)

/-- Read a tag in full, between angle brackets. -/
def verbatimTag (cursor : Cursor) : Reading (TagText × Cursor) := do
  let (chars, after) ← someTagChars (cursor.advance 2)
  if after.isAt '>' then return (⟨"", String.ofList chars⟩, after.step)
  else after.fail .tagClosing

/-- Read a tag with a handle, or without one. An exclamation mark alone is a tag. -/
def shortTag (cursor : Cursor) : Reading (TagText × Cursor) := do
  let (handle, after) ← tagHandle false cursor
  if 1 < handle.length && handle.getLast? = some '!' then
    let (chars, after) ← someTagChars after
    return (⟨String.ofList handle, String.ofList chars⟩, after)
  else
    let (chars, after) ← tagChars after.text.length after
    let rest := handle.drop 1 ++ chars
    if rest.isEmpty then return (⟨"", "!"⟩, after)
    else return (⟨"!", String.ofList rest⟩, after)

/-- Read a tag, from its mark on. -/
def tagText (cursor : Cursor) : Reading (TagText × Cursor) := do
  let (tag, after) ←
    if cursor.step.isAt '<' then verbatimTag cursor else shortTag cursor
  if endsWord after.text then return (tag, after) else after.fail .tagEnd

/-- What is told at the beginning of a document. -/
inductive Directive where
  | version (major minor : Nat)
  /-- The beginning of a tag that a handle stands for. -/
  | tag (handle expansion : String)
  deriving DecidableEq, Repr

/-- Read a number of at most two digits. -/
def versionNumber (cursor : Cursor) : Reading (Nat × Cursor) :=
  let digits := cursor.text.takeWhile Char.isDigit
  let after := cursor.advance digits.length
  if digits.isEmpty || 2 < digits.length then after.fail .versionNumber
  else .ok (digits.foldl (fun value digit => value * 10 + (digit.toNat - 48)) 0, after)

def versionDirective (cursor : Cursor) : Reading (Directive × Cursor) := do
  let (major, after) ← versionNumber (cursor.skipWhile isBlank)
  if after.isAt '.' then
    let (minor, after) ← versionNumber after.step
    return (.version major minor, after)
  else after.fail .versionNumber

def tagDirective (cursor : Cursor) : Reading (Directive × Cursor) := do
  let (handle, after) ← tagHandle true (cursor.skipWhile isBlank)
  if !after.isAny isBlank then after.fail .tagEnd
  let (chars, after) ← someTagChars (after.skipWhile isBlank)
  if endsWord after.text then
    return (.tag (String.ofList handle) (String.ofList chars), after)
  else after.fail .tagEnd

/-- Read a directive after its mark, with the rest of the line. -/
def directive (cursor : Cursor) : Reading (Directive × Cursor) := do
  let name := cursor.text.takeWhile isNameChar
  let after := cursor.advance name.length
  if name.isEmpty || !endsWord after.text then after.fail .directiveName
  let (directive, after) ←
    if name = "YAML".toList then versionDirective after
    else if name = "TAG".toList then tagDirective after
    else after.fail .unknownDirective
  return (directive, ← after.finishLine)

end QueryTree.Yaml
