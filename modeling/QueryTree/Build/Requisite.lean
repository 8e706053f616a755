import QueryTree.Document.Definition
import QueryTree.Schema.View

/-!
# Requisite fields

The fields that the runtime needs below a node and that are generated if they are not selected:
the id of values that have one, or else a fragment that selects the id of those values that are
nodes, and the name of the type where it is not known beforehand.
-/

namespace QueryTree

/-- What a node has to select: fields in order without repetitions, and the node interface if a
fragment on it has to be generated. -/
structure Requisites where
  fields : List String
  nodeFragment : Option SchemaType
  deriving Repr

namespace Requisites

/-- Ask for a field, after the others. -/
def add (requisites : Requisites) (name : String) : Requisites :=
  if requisites.fields.contains name then requisites
  else { requisites with fields := requisites.fields ++ [name] }

/-- Ask for a field if a condition holds. -/
def addIf (requisites : Requisites) (condition : Bool) (name : String) : Requisites :=
  if condition then requisites.add name else requisites

end Requisites

/-- Whether a selection is an inline fragment on the node interface. -/
def Selection.isOnNode : Selection → Bool
  | .inline head _ => head.condition = some nodeInterface
  | _ => false

namespace Schema

/-- The node interface, if nodes have an id. -/
def nodeWithId? (schema : Schema) : Option SchemaType :=
  (schema.type? nodeInterface).filter (schema.hasField · schema.names.id)

/-- How the values of a type are identified: by their id, or, if they may be nodes, by that of a
generated fragment, unless the author wrote one. -/
def identity (schema : Schema) (type : SchemaType) (selections : List Selection) : Requisites :=
  if schema.hasField type schema.names.id then ⟨[schema.names.id], none⟩
  else if type.name = nodeInterface || !schema.mayImplement type nodeInterface then ⟨[], none⟩
  else if selections.any (·.isOnNode) then ⟨[], none⟩
  else ⟨[], schema.nodeWithId?⟩

def requisites (schema : Schema) (type : SchemaType) (selections : List Selection) : Requisites :=
  (schema.identity type selections).addIf type.isAbstract typeNameField

/-- What a field of a type has to select: the support of pages and edges comes on top. -/
def fieldRequisites (schema : Schema) (type : SchemaType) (selections : List Selection) :
    Requisites :=
  let identity := schema.identity type selections
  let support :=
    if schema.isConnection type then identity
    else if type.isPageInfo then
      (identity.add schema.names.hasNextPage).add schema.names.hasPreviousPage
    else if schema.isEdge type then (identity.add schema.names.cursor).add schema.names.node
    else identity
  support.addIf type.isAbstract typeNameField

/-- The fields required of a selection set: a connection whose edges are selected has to select its
page info, too. -/
def required (schema : Schema) (type : SchemaType) (requisites : Requisites)
    (selected : List String) : List String :=
  (requisites.addIf
    (schema.isConnection type && schema.hasField type schema.names.pageInfo &&
      selected.contains schema.names.edges) schema.names.pageInfo).fields

end Schema

end QueryTree
