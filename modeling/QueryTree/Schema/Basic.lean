import QueryTree.Schema.Declaration

/-!
# Schemas

A schema is a list of types and directives with the names of its root types. Its runtime
conventions rest on a few well known field names, which follow one of two naming conventions.
-/

namespace QueryTree

/-- The field names that the runtime relies on. -/
structure FieldNames where
  id : String
  edges : String
  node : String
  pageInfo : String
  hasNextPage : String
  hasPreviousPage : String
  cursor : String
  clientMutationId : String
  clientSubscriptionId : String
  deriving DecidableEq, Repr

namespace FieldNames

def camelCase : FieldNames where
  id := "id"
  edges := "edges"
  node := "node"
  pageInfo := "pageInfo"
  hasNextPage := "hasNextPage"
  hasPreviousPage := "hasPreviousPage"
  cursor := "cursor"
  clientMutationId := "clientMutationId"
  clientSubscriptionId := "clientSubscriptionId"

def snakeCase : FieldNames where
  id := "id"
  edges := "edges"
  node := "node"
  pageInfo := "page_info"
  hasNextPage := "has_next_page"
  hasPreviousPage := "has_previous_page"
  cursor := "cursor"
  clientMutationId := "client_mutation_id"
  clientSubscriptionId := "client_subscription_id"

def ofConvention (snake : Bool) : FieldNames :=
  if snake then snakeCase else camelCase

end FieldNames

/-- The field that names the type of a value and that every composite type has. -/
def typeNameField : String := "__typename"

/-- The interface of objects that can be found by their id. -/
def nodeInterface : String := "Node"

/-- A schema in which every name is resolved. -/
structure Schema where
  types : List TypeDeclaration
  directives : List DirectiveDeclaration
  query : Option String
  mutation : Option String
  subscription : Option String
  names : FieldNames
  deriving Repr

namespace Schema

def declaration? (schema : Schema) (name : String) : Option TypeDeclaration :=
  schema.types.find? (·.name = name)

def directive? (schema : Schema) (name : String) : Option DirectiveDeclaration :=
  schema.directives.find? (·.name = name)

/-- What a declared type contributes to the possible types of a name: a union its members, an
object or an input object itself for its own name, and any of them or an interface itself for each
interface it names. -/
def contribution (schema : Schema) (name : String) (declaration : TypeDeclaration) :
    List TypeDeclaration :=
  let asInterface := (declaration.interfaces.filter (· = name)).map fun _ => declaration
  match declaration.kind with
  | .union => if declaration.name = name then declaration.members.filterMap schema.declaration?
      else []
  | .object => asInterface ++ if declaration.name = name then [declaration] else []
  | .inputObject => asInterface ++ if declaration.name = name then [declaration] else []
  | .interface => asInterface
  | _ => []

/-- The types that a value of the named type may have, in the order of their declarations. -/
def possibleTypes (schema : Schema) (name : String) : List TypeDeclaration :=
  schema.types.flatMap (schema.contribution name)

end Schema

end QueryTree
