import QueryTree.Yaml.Cursor

/-!
# Block scalars

A block scalar is all the text that is indented below its mark, `|` if its lines stay as they are
and `>` if they are folded. Its header may tell the indentation, and what becomes of the line ends
after the text.
-/

namespace QueryTree.Yaml

/-- What becomes of the line ends after a block. -/
inductive Chomping where
  | clip
  | strip
  | keep
  deriving DecidableEq, Repr

/-- The header of a block. -/
structure BlockHeader where
  isLiteral : Bool
  chomping : Chomping
  /-- The indentation below the surrounding text, if it is told. -/
  indentation : Option Nat
  deriving DecidableEq, Repr

/-- Read how a block is chomped, if that is told. -/
def chomping (cursor : Cursor) : Option Chomping × Cursor :=
  if cursor.isAt '+' then (some .keep, cursor.step)
  else if cursor.isAt '-' then (some .strip, cursor.step)
  else (none, cursor)

/-- Read how deeply a block is indented, if that is told. -/
def indentation (cursor : Cursor) : Reading (Option Nat × Cursor) :=
  match cursor.head? with
  | some char =>
    if char = '0' then cursor.fail .zeroIndentation
    else if char.isDigit then .ok (some (char.toNat - 48), cursor.step)
    else .ok (none, cursor)
  | none => .ok (none, cursor)

/-- Read the header of a block after its mark, with the rest of the line. -/
def blockHeader (isLiteral : Bool) (cursor : Cursor) : Reading (BlockHeader × Cursor) := do
  let (before, after) := chomping cursor
  let (indentation, after) ← indentation after
  let (behind, after) :=
    if before.isNone && indentation.isSome then chomping after else (none, after)
  let chomping := (before.orElse fun _ => behind).getD .clip
  return (⟨isLiteral, chomping, indentation⟩, ← after.finishLine)

/-- What was read of the empty lines and the indentation before a line of a block. -/
structure Margin where
  breaks : List Char
  /-- The greatest column that was reached. -/
  width : Nat
  after : Cursor
  deriving Repr

/-- Read empty lines and indentation up to a column, or as much as there is. -/
def margin (column? : Option Nat) : Nat → Cursor → Reading Margin
  | 0, cursor => .ok ⟨[], cursor.column, cursor⟩
  | bound + 1, cursor =>
    let room := match column? with
      | some column => column - cursor.column
      | none => cursor.text.length
    let after := cursor.advance ((cursor.text.take room).takeWhile (· = ' ')).length
    if after.isAt '\t' && column?.all (after.column < ·) then after.fail .tabIndentation
    else if after.isAny isBreak then do
      let rest ← margin column? bound after.endLine
      return ⟨after.breakChar ++ rest.breaks, max after.column rest.width, rest.after⟩
    else .ok ⟨[], after.column, after⟩

/-- The text of a block, the line end after it and the empty lines that follow. -/
structure BlockText where
  content : List Char
  lineEnd : List Char
  breaks : List Char
  after : Cursor
  deriving Repr

/-- What stands between two lines: a line feed is folded to a blank if neither line begins with a
blank. -/
def blockJoint (isLiteral afterBlank beforeBlank : Bool) (lineEnd breaks : List Char) :
    List Char :=
  if !isLiteral && !afterBlank && !beforeBlank && lineEnd = ['\n'] then
    if breaks.isEmpty then [' '] else breaks
  else lineEnd ++ breaks

/-- Read the lines of a block at a column, after the end of a line and empty lines. -/
def blockLines (isLiteral : Bool) (column : Nat) :
    Nat → Bool → List Char → Margin → Reading BlockText
  | 0, _, lineEnd, margin => .ok ⟨[], lineEnd, margin.breaks, margin.after⟩
  | bound + 1, afterBlank, lineEnd, before =>
    let cursor := before.after
    if cursor.column = column && !cursor.text.isEmpty then do
      let isBlankLine := cursor.isAny isBlank
      let line := cursor.text.takeWhile (!isBreak ·)
      let atEnd := cursor.advance line.length
      let below ← margin (some column) bound atEnd.endLine
      let rest ← blockLines isLiteral column bound isBlankLine atEnd.breakChar below
      let joint := blockJoint isLiteral afterBlank isBlankLine lineEnd before.breaks
      return { rest with content := joint ++ line ++ rest.content }
    else .ok ⟨[], lineEnd, before.breaks, cursor⟩

/-- Read a block after its mark, below text with an indentation. -/
def blockScalar (isLiteral : Bool) (surrounding : Int) (cursor : Cursor) :
    Reading (List Char × Cursor) := do
  let (header, cursor) ← blockHeader isLiteral cursor
  let given? := header.indentation.map fun width => (max surrounding 0).toNat + width
  let first ← margin given? (cursor.text.length + 1) cursor
  let column := given?.getD (max first.width (max (surrounding + 1).toNat 1))
  let block ← blockLines isLiteral column (first.after.text.length + 1) false [] first
  let ending := match header.chomping with
    | .strip => []
    | .clip => block.lineEnd
    | .keep => block.lineEnd ++ block.breaks
  return (block.content ++ ending, block.after)

end QueryTree.Yaml
