/-!
# Records of fields

A record is a line of fields with commas between them. A field in double quotes may hold commas,
line breaks and, written twice, double quotes. Only the first record of a text is read; empty lines
before it do not count.
-/

namespace QueryTree.Text

/-- What can be wrong with a record. -/
inductive RecordFault where
  | missing
  /-- A quote within a field that has none around it. -/
  | bareQuote
  /-- A field that does not end with its closing quote. -/
  | quote
  deriving DecidableEq, Repr

/-- Something wrong with a record that began on one line and went wrong on another. -/
structure RecordError where
  fault : RecordFault
  start : Nat
  line : Nat
  column : Nat
  deriving DecidableEq, Repr

namespace RecordError

def placeText (error : RecordError) : String :=
  let place := "parse error on line " ++ toString error.line ++ ", column " ++
    toString error.column ++ ": "
  if error.start = error.line then place
  else "record on line " ++ toString error.start ++ "; " ++ place

def message (error : RecordError) : String :=
  match error.fault with
  | .missing => "EOF"
  | .bareQuote => error.placeText ++ "bare \" in non-quoted field"
  | .quote => error.placeText ++ "extraneous or missing \" in quoted-field"

end RecordError

/-- A place in the record that is read; columns count bytes. -/
structure RecordPlace where
  start : Nat
  line : Nat
  column : Nat
  deriving DecidableEq, Repr

namespace RecordPlace

/-- The place after a character of the same line. -/
def after (place : RecordPlace) (char : Char) : RecordPlace :=
  { place with column := place.column + char.utf8Size }

def error (place : RecordPlace) (fault : RecordFault) : RecordError :=
  ⟨fault, place.start, place.line, place.column⟩

end RecordPlace

/-- The part of a record in which a character stands. -/
inductive RecordState where
  /-- At the beginning of a field. -/
  | start
  /-- Within a field that has no quotes around it. -/
  | plain
  /-- Within a field in quotes. -/
  | quoted
  /-- After a quote within a field in quotes. -/
  | afterQuote
  deriving DecidableEq, Repr

/-- Put a character before the first one of some fields. -/
def consField (char : Char) : List (List Char) → List (List Char)
  | [] => [[char]]
  | field :: fields => (char :: field) :: fields

/-- Read fields up to the end of the record. The first result is the rest of the current field. -/
def readFields (state : RecordState) (place : RecordPlace) :
    List Char → Except RecordError (List (List Char))
  | [] => if state = .quoted then .error (place.error .quote) else .ok [[]]
  | char :: rest =>
    let next := place.after char
    match state with
    | .quoted =>
      if char = '"' then readFields .afterQuote next rest
      else if char = '\n' && !rest.isEmpty then
        (readFields .quoted { place with line := place.line + 1, column := 1 } rest).map
          (consField char)
      else (readFields .quoted next rest).map (consField char)
    | .afterQuote =>
      if char = '"' then (readFields .quoted next rest).map (consField char)
      else if char = ',' then (readFields .start next rest).map ([] :: ·)
      else if char = '\n' then .ok [[]]
      else .error { place.error .quote with column := place.column - 1 }
    | _ =>
      if char = ',' then (readFields .start next rest).map ([] :: ·)
      else if char = '\n' then .ok [[]]
      else if char = '"' then
        if state = .start then readFields .quoted next rest
        else .error (place.error .bareQuote)
      else (readFields .plain next rest).map (consField char)

/-- A text whose lines end in line feeds only. A carriage return at the very end does not count. -/
def normalLineEnds : List Char → List Char
  | [] => []
  | ['\r'] => []
  | '\r' :: '\n' :: rest => '\n' :: normalLineEnds rest
  | char :: rest => char :: normalLineEnds rest

def readRecord (text : String) : Except RecordError (List String) :=
  let chars := normalLineEnds text.toList
  let emptyLines := (chars.takeWhile (· = '\n')).length
  match chars.dropWhile (· = '\n') with
  | [] => .error ⟨.missing, 0, 0, 0⟩
  | chars =>
    let line := emptyLines + 1
    (readFields .start ⟨line, line, 1⟩ chars).map fun fields => fields.map String.ofList

end QueryTree.Text
