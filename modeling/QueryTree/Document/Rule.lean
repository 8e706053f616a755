import QueryTree.Diagnostic.Failure
import QueryTree.Document.Definition
import QueryTree.Schema.View

/-!
# Structural rules

The conventions of the runtime that a definition has to keep. Each rule accepts or gives the
diagnostic of what breaks it.
-/

namespace QueryTree.Rule

/-- The outcome of a rule. -/
abbrev Verdict := Except Diagnostic Unit

/-- An operation selects exactly one root field. -/
def rootFieldCount (definition : Definition) : Verdict :=
  if !definition.kind.isOperation || definition.selections.length = 1 then .ok ()
  else
    .error (.atPosition
      (.tooManyRootFields definition.selections.length definition.kind.text definition.name)
      definition.position)

/-- The root field of a query has at most one argument, which identifies the query. -/
def queryRootFieldArity (field : Field) : Verdict :=
  if field.arguments.length ≤ 1 then .ok ()
  else .error (.atPosition (.invalidRootFieldArity field.name) field.position)

/-- Whether two arguments do not meet, or are both variables. -/
def compatible (left right : Option Argument) : Bool :=
  match left, right with
  | some left, some right => left.value.isVariable && right.value.isVariable
  | _, _ => true

/-- The pagination arguments of a field can be paged with: of two arguments that exclude each other
either one is absent or both are variables. -/
def connectionArguments (field : Field) : Verdict := do
  let first := Named.find? "first" field.arguments
  let last := Named.find? "last" field.arguments
  let before := Named.find? "before" field.arguments
  let after := Named.find? "after" field.arguments
  let conflict (combination : List String) (alternatives : String) : Verdict :=
    .error (.atPosition (.conflictingPaginationArguments field.name combination alternatives)
      field.position)
  if !compatible first last then
    conflict ["first: <count>", "last: <count>"]
      "`(first: <count>)`, `(last: <count>)`, or `(first: $<var>, last: $<var>)`"
  if !compatible first before then
    conflict ["before: <cursor>", "first: <count>"]
      ("`(after: <cursor>, first: <count>)`, `(before: <cursor>, last: <count>)`, " ++
        "or `(before: $<var>, first: $<var>)`")
  if !compatible last after then
    conflict ["after: <cursor>", "last: <count>"]
      ("`(after: <cursor>, first: <count>)`, `(before: <cursor>, last: <count>)`, " ++
        "or `(after: $<var>, last: $<var>)`")

mutual

/-- The fields that a selection brings into its set: itself, or those of an inline fragment. -/
def subfieldsOf : Selection → List Field
  | .field field _ => [field]
  | .inline _ selections => subfields selections
  | .spread _ => []

/-- The fields of a selection set, including those in inline fragments. -/
def subfields : List Selection → List Field
  | [] => []
  | selection :: selections => subfieldsOf selection ++ subfields selections

end

/-- Whether the items of a connection are limited: by an argument, or because the whole definition
is a pattern. -/
def isPaginated (field : Field) (pattern : Bool) : Bool :=
  pattern || ["find", "first", "last"].any fun name => (Named.find? name field.arguments).isSome

/-- One field selected on a connection whose nodes have the given type. -/
def connectionSubfield (schema : Schema) (connection node : SchemaType) (field : Field)
    (paginated : Bool) (subfield : Field) : Verdict :=
  if subfield.name = schema.names.edges ∨ subfield.name = schema.names.pageInfo then
    if paginated then .ok ()
    else
      .error (.atPosition (.missingPaginationArgument subfield.name field.name) subfield.position)
  else
    match schema.field? connection subfield.name with
    | none => .ok ()
    | some declared =>
      if declared.type.isList && declared.type.name = node.name then
        .error (.atPosition
          (.useEdgesNodeInstead subfield.name field.name schema.names.edges schema.names.node)
          subfield.position)
      else .ok ()

/-- The fields selected on a connection: edges and page info need a limit, and nodes are reached
through edges. -/
def connectionSubfields (schema : Schema) (field : Field) (selections : List Selection)
    (connection : SchemaType) (pattern : Bool) : Verdict :=
  match schema.connectionNode? connection with
  | none => .ok ()
  | some node =>
    (subfields selections).forM
      (connectionSubfield schema connection node field (isPaginated field pattern))

/-- The field of a mutation or a subscription declares exactly one argument, of the configured
name, and is given at most one. -/
def mutationField (field : Field) (declared : SchemaField) (inputArgument : String) : Verdict :=
  match declared.arguments with
  | [argument] =>
    if argument.name ≠ inputArgument then
      .error (.atPosition
        (.wrongMutationArgumentName declared.name argument.name inputArgument) field.position)
    else if 1 < field.arguments.length then
      .error (.atPosition
        (.tooManyMutationArguments field.arguments.length field.name inputArgument)
        field.position)
    else .ok ()
  | arguments =>
    .error (.atPosition
      (.wrongMutationArgumentCount declared.name arguments.length inputArgument) field.position)

/-- A node field that takes an id belongs to the query type. -/
def nodeField (schema : Schema) (field : Field) (declared : SchemaField) (parent : SchemaType) :
    Verdict :=
  if field.name ≠ "node" ∨ schema.isQueryType parent then .ok ()
  else
    match declared.arguments with
    | [argument] =>
      if argument.name = schema.names.id then
        .error (.atPosition
          (.misplacedNodeField argument.name argument.type.text parent.name) field.position)
      else .ok ()
    | _ => .ok ()

end QueryTree.Rule
