import QueryTree.Language.Value

/-!
# Executable definitions

Operations and fragments as they are written in a document. A selection keeps its own part, without
what it selects in turn, in a record of its own: a field is a `Field` with a list of selections
below it, an inline fragment an `InlineFragment` with such a list.
-/

namespace QueryTree

/-- The kinds of executable definitions. `other` stands for a numeric code outside of them. -/
inductive DefinitionKind where
  | query
  | mutation
  | subscription
  | fragment
  | other (code : Int)
  deriving DecidableEq, Repr

namespace DefinitionKind

def ofCode (code : Int) : DefinitionKind :=
  if code = 1 then .query
  else if code = 2 then .mutation
  else if code = 3 then .subscription
  else if code = 4 then .fragment
  else .other code

def text : DefinitionKind → String
  | .query => "query"
  | .mutation => "mutation"
  | .subscription => "subscription"
  | .fragment => "fragment"
  | .other code => "String() not implemented for DefinitionKind: " ++ toString code

/-- Whether definitions of the kind can be executed on their own. -/
def isOperation : DefinitionKind → Bool
  | .query => true
  | .mutation => true
  | .subscription => true
  | _ => false

end DefinitionKind

/-- A field without the selections below it. -/
structure Field where
  alias? : Option String
  name : String
  arguments : List Argument
  directives : List Directive
  position : Position
  deriving Repr

/-- The name of the field in a response: its alias if it has one. -/
def Field.key (field : Field) : String :=
  field.alias?.getD field.name

/-- A reference to a named fragment. -/
structure Spread where
  name : String
  directives : List Directive
  position : Position
  deriving Repr

/-- An inline fragment without the selections below it. Without a condition it applies to the
enclosing type. -/
structure InlineFragment where
  condition : Option String
  directives : List Directive
  position : Position
  deriving Repr

/-- What an operation, a fragment or a field selects. -/
inductive Selection where
  | field (field : Field) (selections : List Selection)
  | spread (spread : Spread)
  | inline (fragment : InlineFragment) (selections : List Selection)
  deriving Repr

/-- A field together with the selections below it. -/
structure SelectedField where
  field : Field
  selections : List Selection
  deriving Repr

namespace Selection

def field? : Selection → Option SelectedField
  | .field head selections => some ⟨head, selections⟩
  | _ => none

/-- The fields of a selection set, leaving its fragments aside. -/
def fields (selections : List Selection) : List SelectedField :=
  selections.filterMap field?

def position : Selection → Position
  | .field head _ => head.position
  | .spread head => head.position
  | .inline head _ => head.position

end Selection

/-- A variable that an operation declares. -/
structure VariableDefinition where
  name : String
  type : TypeRef
  default : Option Value
  position : Position
  deriving Repr

/-- An operation or a fragment. `name` is empty for an anonymous operation, `condition` is the type
a fragment applies to and empty for an operation. -/
structure Definition where
  kind : DefinitionKind
  name : String
  condition : String
  variableDefinitions : List VariableDefinition
  directives : List Directive
  selections : List Selection
  position : Position
  deriving Repr

end QueryTree
