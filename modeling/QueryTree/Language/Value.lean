import QueryTree.Language.Position

/-!
# Values, arguments, directives and type references

The parts of the query language that executable documents and schemas share. Numbers keep the text
they were written with. Object fields and arguments are both named values, in the order in which
they were written; a name may occur more than once.
-/

namespace QueryTree

/-- Something with a name, at a position. -/
structure Named (α : Type) where
  name : String
  value : α
  position : Position
  deriving DecidableEq, Repr

def Named.find? {α : Type} (name : String) (entries : List (Named α)) : Option (Named α) :=
  entries.find? (·.name = name)

/-- A value as it is written in a document or a schema. -/
inductive Value where
  | variable (name : String) (position : Position)
  | int (raw : String) (position : Position)
  | float (raw : String) (position : Position)
  /-- `block` tells whether the text was written between triple quotes. -/
  | string (text : String) (block : Bool) (position : Position)
  | boolean (value : Bool) (position : Position)
  | null (position : Position)
  | enum (name : String) (position : Position)
  | list (values : List Value) (position : Position)
  | object (fields : List (Named Value)) (position : Position)
  deriving Repr

/-- A value bound to the name of a parameter. -/
abbrev Argument := Named Value

/-- An annotation of a definition or a selection. -/
structure Directive where
  name : String
  arguments : List Argument
  position : Position
  deriving Repr

namespace Value

def position : Value → Position
  | .variable _ position => position
  | .int _ position => position
  | .float _ position => position
  | .string _ _ position => position
  | .boolean _ position => position
  | .null position => position
  | .enum _ position => position
  | .list _ position => position
  | .object _ position => position

def isVariable : Value → Bool
  | .variable _ _ => true
  | _ => false

mutual

/-- The names of the variables in a value, from left to right, with repetitions. -/
def variableNames : Value → List String
  | .variable name _ => [name]
  | .list values _ => namesOfList values
  | .object fields _ => namesOfFields fields
  | _ => []

def namesOfList : List Value → List String
  | [] => []
  | value :: values => variableNames value ++ namesOfList values

def namesOfFields : List (Named Value) → List String
  | [] => []
  | ⟨_, value, _⟩ :: fields => variableNames value ++ namesOfFields fields

end

end Value

def Directive.find? (name : String) (directives : List Directive) : Option Directive :=
  directives.find? (·.name = name)

/-- A reference to a type with its modifiers. The position of a list is that of the type inside. -/
inductive TypeRef where
  | named (name : String) (nonNull : Bool) (position : Position)
  | list (element : TypeRef) (nonNull : Bool) (position : Position)
  deriving DecidableEq, Repr

namespace TypeRef

def baseName : TypeRef → String
  | .named name _ _ => name
  | .list element _ _ => element.baseName

/-- Whether the reference excludes null. -/
def nonNull : TypeRef → Bool
  | .named _ nonNull _ => nonNull
  | .list _ nonNull _ => nonNull

def position : TypeRef → Position
  | .named _ _ position => position
  | .list _ _ position => position

def isList : TypeRef → Bool
  | .named _ _ _ => false
  | .list _ _ _ => true

/-- A reference with its modifiers, as it is written. -/
def text : TypeRef → String
  | .named name nonNull _ => name ++ if nonNull then "!" else ""
  | .list element nonNull _ => "[" ++ element.text ++ "]" ++ if nonNull then "!" else ""

end TypeRef

end QueryTree
