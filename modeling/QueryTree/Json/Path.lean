import QueryTree.Json.Pattern
import QueryTree.Json.Scan

/-!
# Paths into JSON text

A path is a sequence of steps with dots between them. In an object a step is a key, which may be a
pattern, and a backslash takes the meaning from the next character. In an array a step is an index,
or `#` for the number of items; with more steps after it, `#` collects what they lead to from each
item. If several keys match, the first one that leads on counts. After a bar a path begins anew in
the value that was found. Two dots in front make an array of the values of a text.
-/

namespace QueryTree

/-- How a path goes on after a step. -/
inductive PathRest where
  | done
  /-- Further steps, within the value. -/
  | more (path : List Char)
  /-- A new path, in the text of the value. -/
  | anew (path : List Char)
  deriving DecidableEq, Repr

/-- A step of a path in an object. -/
structure KeyStep where
  key : List Char
  /-- Whether the key is a pattern. -/
  isPattern : Bool
  rest : PathRest
  deriving Repr

namespace KeyStep

/-- Read a step up to the next dot or bar. -/
def read : List Char → KeyStep
  | [] => ⟨[], false, .done⟩
  | ['\\'] => ⟨[], false, .done⟩
  | '\\' :: char :: rest =>
    let step := read rest
    { step with key := char :: step.key }
  | char :: rest =>
    if char = '.' then ⟨[], false, .more rest⟩
    else if char = '|' then ⟨[], false, .anew rest⟩
    else
      let step := read rest
      { step with
        key := char :: step.key
        isPattern := step.isPattern || char = '*' || char = '?' }

def accepts (step : KeyStep) (key : String) : Bool :=
  if step.isPattern then
    PatternItem.matchAll (PatternItem.ofChars false step.key) key.toList
  else step.key = key.toList

end KeyStep

/-- What a step of a path asks of an array. -/
inductive ItemStep where
  /-- The item with an index, if the step is one. -/
  | item (index : Option Nat) (rest : PathRest)
  /-- The number of items. -/
  | count (rest : PathRest)
  /-- What a path leads to in each item. -/
  | collect (path : List Char)
  deriving Repr

namespace ItemStep

/-- The number that digits spell, if there are any and nothing else. Indices are numbers of 64
bits. -/
def index? (digits : List Char) : Option Nat :=
  if !digits.isEmpty && digits.all Char.isDigit then
    some (Decimal.digitsValue 0 digits % Text.unsignedBound)
  else none

/-- Read a step up to the next dot or bar. -/
def read (path : List Char) : ItemStep :=
  let isPart (char : Char) : Bool := char ≠ '.' && char ≠ '|'
  let part := path.takeWhile isPart
  let rest : PathRest := match path.dropWhile isPart with
    | '.' :: rest => .more rest
    | _ :: rest => .anew rest
    | [] => .done
  match part, rest with
  | ['#'], .more path => .collect path
  | ['#'], rest => .count rest
  | part, rest => .item (index? part) rest

/-- How the path goes on after a step for the item with an index. -/
def restAt? (index : Nat) : ItemStep → Option PathRest
  | .item (some wanted) rest => if wanted = index then some rest else none
  | _ => none

end ItemStep

/-- The outcome of a search: what was found, and the text after what was looked at. -/
structure JsonSearch where
  found : Option JsonPiece
  rest : List Char
  deriving Repr

namespace JsonSearch

/-- Nothing was found, and there is no more text. -/
def ended : JsonSearch := ⟨none, []⟩

end JsonSearch

namespace JsonText

/-- Split a path at the first bar, if there is one. -/
def splitBar : List Char → List Char × Option (List Char)
  | [] => ([], none)
  | ['\\'] => (['\\'], none)
  | '\\' :: char :: rest =>
    let (before, after) := splitBar rest
    ('\\' :: char :: before, after)
  | char :: rest =>
    if char = '|' then ([], some rest)
    else
      let (before, after) := splitBar rest
      (char :: before, after)

/-- The value that stands at the beginning of an item, or after it if nothing else does. -/
def itemValue? (text : List Char) : Option JsonPiece :=
  match skipBlanks text with
  | [] => none
  | ']' :: _ => none
  | text =>
    match scanValue (toValue text) with
    | .value piece _ => some piece
    | _ => none

/-- Whether a text begins with a string that does not end. -/
def isUnclosed : List Char → Bool
  | '"' :: rest => (quotedEnd? rest).isNone
  | _ => false

def arrayOf (texts : List String) : JsonPiece :=
  ⟨.collection, "[" ++ ",".intercalate texts ++ "]"⟩

mutual

/-- Follow a path in a text. It begins in the first array or object. All searches take a bound on
their depth and on the number of values they look at. -/
def follow : Nat → List Char → List Char → JsonPiece
  | 0, _, _ => .missing
  | bound + 1, '.' :: '.' :: path, text =>
    (inArray bound (.read path) 0 [] text).found.getD .missing
  | bound + 1, path, text =>
    match text.dropWhile fun char => char ≠ '\x7b' && char ≠ '[' with
    | [] => .missing
    | '[' :: rest => (inArray bound (.read path) 0 [] rest).found.getD .missing
    | _ :: rest => (inObject bound (.read path) rest).found.getD .missing

/-- The value that was found, or what a new path leads to in it. -/
def resume : Nat → PathRest → JsonPiece → JsonPiece
  | 0, _, _ => .missing
  | bound + 1, .anew path, piece => follow bound path piece.raw.toList
  | _, _, piece => piece

/-- Search the value that a text begins with for further steps. -/
def within : Nat → List Char → List Char → JsonSearch
  | 0, _, _ => .ended
  | bound + 1, path, '[' :: rest => inArray bound (.read path) 0 [] rest
  | bound + 1, path, '\x7b' :: rest => inObject bound (.read path) rest
  | _, _, text =>
    match scanValue text with
    | .value _ rest => ⟨none, rest⟩
    | _ => .ended

/-- Look at a value, of which a path may lead to this one or on from it. -/
def visit : Nat → Option PathRest → List Char → JsonSearch
  | 0, _, _ => .ended
  | bound + 1, some (.more path), text => within bound path text
  | bound + 1, rest?, text =>
    match scanValue text, rest? with
    | .value piece after, some rest => ⟨some (resume bound rest piece), after⟩
    | .value _ after, none => ⟨none, after⟩
    | _, _ => .ended

def inObject : Nat → KeyStep → List Char → JsonSearch
  | 0, _, _ => .ended
  | bound + 1, step, text =>
    match text.dropWhile fun char => char ≠ '"' && char ≠ '\x7d' with
    | [] => .ended
    | '"' :: rest =>
      match quotedEnd? rest with
      | none => .ended
      | some (key, rest) =>
        let rest? := if step.accepts (contentText key) then some step.rest else none
        let search := visit bound rest? (toValue rest)
        if search.found.isSome then search else inObject bound step search.rest
    | _ :: rest => ⟨none, rest⟩

/-- Search the items of an array, after so many of them. The places where the items begin are kept,
the last one first. An array that is not closed ends with the text. -/
def inArray : Nat → ItemStep → Nat → List (List Char) → List Char → JsonSearch
  | 0, _, _, _, _ => .ended
  | bound + 1, step, index, starts, text =>
    match text.dropWhile fun char => !beginsValue char && char ≠ ']' with
    | [] => ⟨atEnd bound step index (text :: starts).reverse, []⟩
    | ']' :: rest => ⟨atEnd bound step index (text :: starts).reverse, rest⟩
    | item =>
      if isUnclosed item then .ended
      else
        let search := visit bound (step.restAt? index) item
        if search.found.isSome then search
        else inArray bound step (index + 1) (text :: starts) search.rest

/-- What is found at the end of an array, with the number of its items and the places where they
begin. -/
def atEnd : Nat → ItemStep → Nat → List (List Char) → Option JsonPiece
  | 0, _, _, _ => none
  | bound + 1, .count rest, count, _ =>
    some (resume bound rest ⟨.number, toString count⟩)
  | bound + 1, .collect path, _, starts =>
    let (path, anew?) := splitBar path
    let values := (starts.filterMap itemValue?).map fun piece =>
      follow bound path piece.raw.toList
    let texts := (values.filter JsonPiece.isPresent).map JsonPiece.raw
    some (resume bound ((anew?.map .anew).getD .done) (arrayOf texts))
  | _, .item _ _, _, _ => none

end

def get (text path : String) : JsonPiece :=
  follow ((path.length + 2) * (4 * text.length + 8)) path.toList text.toList

end JsonText

end QueryTree
