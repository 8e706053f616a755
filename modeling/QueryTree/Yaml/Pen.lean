/-!
# Writing at a column

A pen writes characters and remembers where it stands: the column, whether blanks were written
last, and whether nothing but indentation is on the line.
-/

namespace QueryTree.Yaml

/-- A text that is being written. -/
structure Pen where
  text : String
  column : Nat
  /-- Whether the last character separates what comes next. -/
  afterBlank : Bool
  /-- Whether the line holds nothing but indentation and marks of its structure. -/
  atIndent : Bool
  deriving Repr

namespace Pen

def start : Pen := ⟨"", 0, true, true⟩

def put (pen : Pen) (char : Char) : Pen :=
  { pen with text := pen.text.push char, column := pen.column + 1 }

def putAll (pen : Pen) (chars : List Char) : Pen := chars.foldl put pen

def endLine (pen : Pen) (mark : Char) : Pen :=
  { pen with text := pen.text.push mark, column := 0 }

/-- Tell what was written last. -/
def noting (pen : Pen) (afterBlank atIndent : Bool) : Pen := { pen with afterBlank, atIndent }

/-- Go to the indentation of a level, on a new line unless the pen stands before it. -/
def indentTo (pen : Pen) (indent : Nat) : Pen :=
  let pen :=
    if !pen.atIndent || indent < pen.column || (pen.column == indent && !pen.afterBlank) then
      pen.endLine '\n'
    else pen
  (pen.putAll (List.replicate (indent - pen.column) ' ')).noting true true

def mark (pen : Pen) (chars : List Char) (afterBlank atIndent : Bool) : Pen :=
  let pen := if pen.afterBlank then pen else pen.put ' '
  (pen.putAll chars).noting afterBlank (pen.atIndent && atIndent)

/-- Write a mark right after what was written last. -/
def markHere (pen : Pen) (chars : List Char) : Pen :=
  (pen.putAll chars).noting false false

end Pen

end QueryTree.Yaml
