/-!
# Positions in a source

Where a token, a value or a definition begins. Lines and columns count from one. A block string
that spans several lines is placed at the line of its closing quotes, with a column counted from
there, so a column may be zero or negative.
-/

namespace QueryTree

/-- A place in a named source. -/
structure Position where
  line : Int
  column : Int
  source : String
  deriving DecidableEq, Repr, Inhabited

namespace Position

/-- The position of something that was not read from a source. -/
def unknown : Position := ⟨0, 0, ""⟩

/-- Whether the position points into a source. -/
def isKnown (position : Position) : Bool :=
  decide (0 < position.line)

/-- The text of a position: line and column, after the name of the source if it has one. -/
def text (position : Position) : String :=
  if position.isKnown then
    let place := toString position.line ++ ":" ++ toString position.column
    if position.source = "" then place else position.source ++ ":" ++ place
  else "<unknown>"

/-- Whether a position stands before another one, by line and then by column. -/
def precedes (left right : Position) : Bool :=
  if left.line = right.line then decide (left.column < right.column)
  else decide (left.line < right.line)

end Position

end QueryTree
