import QueryTree.Yaml.Cursor

/-!
# Plain scalars

A scalar without quotes goes on until a colon or a comment ends it, or a line that is not indented
deeply enough. Within brackets some marks end it, too.
-/

namespace QueryTree.Yaml

/-- The marks that cannot begin a plain scalar. -/
def plainStoppers : List Char :=
  ['-', '?', ':', ',', '[', ']', '\x7b', '\x7d', '#', '&', '*', '!', '|', '>', '\'', '"', '%', '@',
    '\x60']

/-- Whether a plain scalar begins here. Some marks begin one if a word follows them. -/
def beginsPlain (inFlow : Bool) : List Char → Bool
  | [] => false
  | char :: rest =>
    (!isSpacing char && !plainStoppers.contains char) ||
      (char = '-' && !rest.head?.any isBlank) ||
      (!inFlow && (char = '?' || char = ':') && !endsWord rest)

/-- The marks that end a plain scalar within brackets. -/
def flowStoppers : List Char := [',', '?', '[', ']', '\x7b', '\x7d']

/-- The word at the beginning of a text, up to a gap or to a mark that ends the scalar. -/
def plainWord (inFlow : Bool) : List Char → List Char
  | [] => []
  | char :: rest =>
    if isSpacing char || (char = ':' && endsWord rest) || (inFlow && flowStoppers.contains char)
    then []
    else char :: plainWord inFlow rest

/-- A plain scalar that was read. -/
structure PlainScalar where
  content : List Char
  /-- Whether a line ended after it. -/
  endsLine : Bool
  after : Cursor
  deriving Repr

/-- Read a plain scalar after a gap, at most `bound` words of it. Lines that go on with it have to
reach a column. -/
def plainScalar (inFlow : Bool) (column : Nat) : Nat → Gap → Cursor → Reading PlainScalar
  | 0, gap, cursor => .ok ⟨[], gap.hasBreak, cursor⟩
  | bound + 1, gap, cursor =>
    if cursor.isAtDocumentMark || cursor.isAt '#' then .ok ⟨[], gap.hasBreak, cursor⟩
    else
      let word := plainWord inFlow cursor.text
      let after := cursor.advance word.length
      let content := if word.isEmpty then [] else gap.text ++ word
      if !after.isAny isSpacing then .ok ⟨content, word.isEmpty && gap.hasBreak, after⟩
      else do
        let (gap, after) ← Gap.read column bound false after
        if !inFlow && after.column < column then return ⟨content, gap.hasBreak, after⟩
        let scalar ← plainScalar inFlow column bound gap after
        return { scalar with content := content ++ scalar.content }

end QueryTree.Yaml
