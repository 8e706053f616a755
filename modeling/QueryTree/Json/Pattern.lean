/-!
# Patterns of names

In a pattern `*` stands for any characters and `?` for one; a backslash takes this meaning from the
character after it. Matching goes through the pattern from its end and keeps, for every place in
the name, whether the rest of the name matches the rest of the pattern.
-/

namespace QueryTree

/-- A part of a pattern. -/
inductive PatternItem where
  | literal (char : Char)
  | anyChar
  /-- Any number of characters. -/
  | anyText
  /-- Nothing at all matches this. -/
  | never
  deriving DecidableEq, Repr

namespace PatternItem

/-- The items of a pattern. A backslash at the end counts as a character after a star, and matches
nothing otherwise. -/
def ofChars (afterStar : Bool) : List Char → List PatternItem
  | [] => []
  | ['\\'] => [if afterStar then .literal '\\' else .never]
  | '\\' :: char :: rest => .literal char :: ofChars afterStar rest
  | char :: rest =>
    if char = '*' then .anyText :: ofChars true rest
    else if char = '?' then .anyChar :: ofChars afterStar rest
    else .literal char :: ofChars afterStar rest

/-- From where on any number of characters may be passed over to reach a match. -/
def reaching : List Bool → List Bool
  | [] => []
  | here :: later =>
    let later := reaching later
    (here || later.head?.getD false) :: later

/-- Whether an item and what comes after it match at each place of a name, given where the latter
does. There is a place before each character, and one at the end. -/
def matchesAt (item : PatternItem) (name : List Char) (later : List Bool) : List Bool :=
  match item with
  | .literal char => (name.zip later.tail).map (fun (here, next) => here = char && next) ++ [false]
  | .anyChar => (name.zip later.tail).map (fun (_, next) => next) ++ [false]
  | .anyText => reaching later
  | .never => later.map fun _ => false

def places (name : List Char) : List PatternItem → List Bool
  | [] => List.replicate name.length false ++ [true]
  | item :: items => matchesAt item name (places name items)

def matchAll (items : List PatternItem) (name : List Char) : Bool :=
  (places name items).head?.getD false

end PatternItem

end QueryTree
