import QueryTree.Node.Tree

/-!
# Trees as JSON

Every node is an object that begins with its kind. The order of the entries is fixed, and the facts
about a node are sorted by their keys, so equal trees have equal texts.
-/

namespace QueryTree

/-- The result of writing a tree. -/
abbrev Written := Except Failure.Cause

def JsonValue.limited (value : JsonValue) : Written JsonValue :=
  if value.depth ≤ nestingLimit then .ok value else .error .nestedTooDeeply

/-- A value the objects of which may be written, each as a whole. -/
def JsonValue.limitedObjects (value : JsonValue) : Written JsonValue :=
  if value.objectDepth ≤ nestingLimit then .ok value else .error .nestedTooDeeply

def Metadata.json (metadata : Metadata) : Written JsonValue :=
  return .object (← Literal.jsonEntries metadata.entries)

/-- An optional list as JSON, null if it is missing. -/
def jsonList {α : Type} (json : α → Written JsonValue) : Option (List α) → Written JsonValue
  | none => .ok .null
  | some items => return .array (← items.mapM json)

def Call.json (call : Call) : Written JsonValue := do
  let metadata ← call.metadata.json
  let value ← call.value.json
  return .object
    [("kind", .string "Call"), ("name", .string call.name), ("metadata", metadata),
      ("value", value)]

def DirectiveNode.json (directive : DirectiveNode) : Written JsonValue := do
  let arguments ← directive.arguments.mapM fun (name, value) => do
    return .object [("name", .string name), ("value", ← value.json)]
  return .object
    [("kind", .string "Directive"), ("name", .string directive.name), ("args", .array arguments)]

/-- A selection array as JSON, from its nodes. -/
def ArrayShape.json (shape : ArrayShape) (items : List JsonValue) : JsonValue :=
  match shape with
  | .absent => .null
  | .plain => .array items
  | .flattened => .object [("$flatten", .array items)]

/-- A field as JSON, from its calls and its selection array. -/
def FieldNode.json (head : FieldNode) (calls children : JsonValue) : Written JsonValue := do
  let directives ← jsonList DirectiveNode.json head.directives
  let metadata ← head.metadata.json
  let aliased := match head.alias? with
    | some name => [("alias", .string name)]
    | none => []
  return .object
    ([("kind", .string "Field")] ++ aliased ++
      [("fieldName", .string head.name), ("type", .string head.type), ("calls", calls),
        ("children", children), ("directives", directives), ("metadata", metadata)])

/-- A fragment as JSON, from its selection array. -/
def FragmentNode.json (head : FragmentNode) (children : JsonValue) : Written JsonValue := do
  let directives ← jsonList DirectiveNode.json head.directives
  let metadata ← head.metadata.json
  return .object
    [("kind", .string "Fragment"), ("name", .string head.name), ("type", .string head.type),
      ("id", .string head.id), ("children", children), ("directives", directives),
      ("metadata", metadata)]

namespace Child

mutual

def json : Child → Written JsonValue
  | .field head shape children => do
    let calls ← jsonList Call.json head.calls
    let children ← jsonAll children
    head.json calls (shape.json children)
  | .fragment head shape children => do
    let children ← jsonAll children
    head.json (shape.json children)
  | .reference slot => .ok (.object [("$fragment", .string slot)])

def jsonAll : List Child → Written (List JsonValue)
  | [] => .ok []
  | child :: children => do
    let first ← json child
    let others ← jsonAll children
    return first :: others

end

end Child

def Children.json (children : Children) : Written JsonValue :=
  return children.shape.json (← Child.jsonAll children.items)

def QueryNode.json (head : QueryNode) (children : Children) : Written JsonValue := do
  let calls ← jsonList Call.json head.calls
  let children ← children.json
  let directives ← jsonList DirectiveNode.json head.directives
  let metadata ← head.metadata.json
  return .object
    [("kind", .string "Query"), ("name", .string head.name), ("type", .string head.type),
      ("fieldName", .string head.field), ("calls", calls), ("children", children),
      ("directives", directives), ("metadata", metadata)]

def OperationNode.json (head : OperationNode) (kind : String) (children : Children) :
    Written JsonValue := do
  let calls ← jsonList Call.json head.calls
  let children ← children.json
  let directives ← jsonList DirectiveNode.json head.directives
  let metadata ← head.metadata.json
  return .object
    [("kind", .string kind), ("name", .string head.name),
      ("responseType", .string head.responseType), ("calls", calls), ("children", children),
      ("directives", directives), ("metadata", metadata)]

def Root.json : Root → Written JsonValue
  | .query head children => head.json children
  | .mutation head children => head.json "Mutation" children
  | .subscription head children => head.json "Subscription" children
  | .fragment head children => do head.json (← children.json)
  | .createFragment head children parameters => do
    let fragment ← head.json (← children.json)
    let bound := parameters.map fun name => (name, JsonValue.ofSubstitution name)
    return .object [("$createFragment", fragment), ("$variables", .object bound)]

end QueryTree
