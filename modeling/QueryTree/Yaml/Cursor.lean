import QueryTree.Yaml.Character
import QueryTree.Yaml.Fault

/-!
# A place in YAML text

A cursor holds the text that is left and knows its line, its column and how many characters came
before. Lines and columns count from zero.
-/

namespace QueryTree.Yaml

/-- A place in a text. -/
structure Cursor where
  text : List Char
  /-- Whether the text is cut off where it cannot be read. -/
  isCut : Bool
  line : Nat
  column : Nat
  index : Nat
  deriving Repr

namespace Cursor

def start (text : List Char) (isCut : Bool) : Cursor := ⟨text, isCut, 0, 0, 0⟩

def head? (cursor : Cursor) : Option Char := cursor.text.head?

/-- Whether the next character is the given one. -/
def isAt (cursor : Cursor) (char : Char) : Bool := cursor.head? = some char

/-- Whether the next character passes a test; there has to be one. -/
def isAny (cursor : Cursor) (test : Char → Bool) : Bool := cursor.head?.any test

/-- Stop with a fault. Where the text is cut off, that is the fault. -/
def fail {α : Type} (cursor : Cursor) (fault : Fault) : Reading α :=
  if cursor.text.isEmpty && cursor.isCut then .error ⟨.unreadableCharacter, 0⟩
  else .error ⟨fault, if cursor.line = 0 then 0 else cursor.line + 1⟩

/-- Make sure that so many characters can be looked at. Less are enough at the end of a text. -/
def need (cursor : Cursor) (count : Nat) : Reading Unit :=
  if cursor.isCut && cursor.text.length < count then .error ⟨.unreadableCharacter, 0⟩ else .ok ()

/-- Step over characters of the line. -/
def advance (cursor : Cursor) (count : Nat) : Cursor :=
  { cursor with
    text := cursor.text.drop count
    column := cursor.column + count
    index := cursor.index + count }

def step (cursor : Cursor) : Cursor := cursor.advance 1

/-- Step over characters of the line as long as they pass a test. -/
def skipWhile (cursor : Cursor) (test : Char → Bool) : Cursor :=
  cursor.advance (cursor.text.takeWhile test).length

/-- Whether the line ends here, or the text. -/
def isLineEnd (cursor : Cursor) : Bool := cursor.head?.all isBreak

/-- What the end of a line counts as: some kinds stay as they are, the others are line feeds. -/
def breakChar (cursor : Cursor) : List Char :=
  match cursor.head? with
  | some char =>
    if char.toNat = 0x2028 || char.toNat = 0x2029 then [char]
    else if isBreak char then ['\n']
    else []
  | none => []

/-- Step over the end of a line, if there is one. -/
def endLine (cursor : Cursor) : Cursor :=
  match cursor.text with
  | '\r' :: '\n' :: rest =>
    { cursor with text := rest, line := cursor.line + 1, column := 0, index := cursor.index + 2 }
  | char :: rest =>
    if isBreak char then
      { cursor with
        text := rest, line := cursor.line + 1, column := 0, index := cursor.index + 1 }
    else cursor
  | [] => cursor

/-- Step over a comment, if there is one. -/
def skipComment (cursor : Cursor) : Cursor :=
  if cursor.isAt '#' then cursor.skipWhile (!isBreak ·) else cursor

/-- Step over the rest of a line, which may hold blanks and a comment. -/
def finishLine (cursor : Cursor) : Reading Cursor :=
  let cursor := (cursor.skipWhile isBlank).skipComment
  if cursor.isLineEnd then .ok cursor.endLine else cursor.fail .afterHeader

/-- Whether a mark of three characters stands alone at the beginning of the line. -/
def isAtMark (cursor : Cursor) (char : Char) : Bool :=
  cursor.column = 0 && cursor.text.take 3 = [char, char, char] && endsWord (cursor.text.drop 3)

/-- Whether a document begins or ends here. -/
def isAtDocumentMark (cursor : Cursor) : Bool := cursor.isAtMark '-' || cursor.isAtMark '.'

end Cursor

/-- Blanks and line ends between the words of a scalar. -/
structure Gap where
  /-- The blanks before the first line end. -/
  blanks : List Char
  /-- What the line ends count as. -/
  breaks : List Char
  deriving Repr

namespace Gap

def empty : Gap := ⟨[], []⟩

/-- Whether a line ends within a gap. -/
def hasBreak (gap : Gap) : Bool := !gap.breaks.isEmpty

/-- What is read of a gap: blanks stay if no line ends, one line feed is a blank, and of more line
ends the first one is dropped if it is a line feed. -/
def text (gap : Gap) : List Char :=
  match gap.breaks with
  | [] => gap.blanks
  | ['\n'] => [' ']
  | '\n' :: breaks => breaks
  | breaks => breaks

/-- Read a gap of at most so many characters, after a line end or not. Before a column tabs must not
begin a line. -/
def read (limit : Nat) : Nat → Bool → Cursor → Reading (Gap × Cursor)
  | 0, _, cursor => .ok (empty, cursor)
  | bound + 1, afterBreak, cursor =>
    match cursor.head? with
    | none => .ok (empty, cursor)
    | some char =>
      if isBreak char then do
        let (gap, after) ← read limit bound true cursor.endLine
        return (⟨[], cursor.breakChar ++ gap.breaks⟩, after)
      else if isBlank char then
        if afterBreak && cursor.column < limit && char = '\t' then cursor.fail .tabInScalar
        else do
          let (gap, after) ← read limit bound afterBreak cursor.step
          return (if afterBreak then gap else { gap with blanks := char :: gap.blanks }, after)
      else .ok (empty, cursor)

end Gap

end QueryTree.Yaml
