import QueryTree.Build.Selection

/-!
# Trees of definitions

An operation becomes a tree at the field that it selects on its root type. A fragment becomes a
tree that others refer to; if it lists parameters, the tree is constructed when it is used, with
the parameters in place of the variables.
-/

namespace QueryTree

/-- The choices of a caller. -/
structure BuildOptions where
  /-- The single argument of mutation and subscription fields. -/
  inputArgument : String
  /-- Whether the structural rules are checked. -/
  validation : Bool
  /-- Variables that are substituted by the surrounding code. -/
  parameters : List String
  deriving Repr

/-- The default name of the argument of mutations and subscriptions. -/
def defaultInputArgument : String := "input"

/-- The name of the argument of mutations and subscriptions, the default one if it is empty. -/
def inputArgumentOr (name : String) : String :=
  if name = "" then defaultInputArgument else name

/-- The directive of definitions that are exempt from validation. -/
def generatedName : String := "generated"

namespace Build

/-- The field that an operation selects on its root type. -/
def rootField (context : Context) (definition : Definition) : Build SelectedField := do
  if context.validates then
    lift (Rule.rootFieldCount definition)
  match Selection.fields definition.selections with
  | [] => refuse (.missingRootField definition.name) definition.position
  | selected :: _ => pure selected

def declaredRootField (context : Context) (type : SchemaType) (field : Field) :
    Build SchemaField :=
  match context.schema.field? type field.name with
  | some declared => pure declared
  | none => refuse (.unknownField field.name type.name) field.position

def rootType (type : Option SchemaType) (definition : Definition) : Build SchemaType :=
  match type with
  | some type => pure type
  | none => refuse (.missingRootType definition.kind.text) definition.position

/-- The facts of the argument that identifies a query, and its call. -/
def identifyingCall (context : Context) (field : Field) (declared : SchemaField)
    (argument : Argument) : Except Diagnostic (List (String × Literal) × Call) :=
  match declared.argument? argument.name with
  | none =>
    .error (.atPosition (.unknownArgument argument.name field.name) argument.position)
  | some parameter => do
    let value ← argument.value.argument context.parameters
    let type := Literal.string parameter.type.text
    return ([("identifyingArgName", .string argument.name), ("identifyingArgType", type)],
      ⟨argument.name, Metadata.empty.set "type" type, value⟩)

/-- The facts and calls from the arguments of the root field of a query. -/
def queryCalls (context : Context) (field : Field) (declared : SchemaField) :
    Except Diagnostic (List (String × Literal) × Option (List Call)) :=
  match field.arguments with
  | [argument] => do
    let (facts, call) ← identifyingCall context field declared argument
    return (facts, some [call])
  | _ => .ok ([], none)

def query (context : Context) (definition : Definition) : Build Root := do
  let type ← rootType context.schema.queryType? definition
  let ⟨head, selections⟩ ← rootField context definition
  let declared ← declaredRootField context type head
  lift (Rule.queryRootFieldArity head)
  let result := declared.type
  let children ← children context result (context.schema.requisites result selections) selections
  let (facts, calls) ← lift (queryCalls context head declared)
  let directives ← lift
    (Directive.nodes context.parameters (definition.directives ++ head.directives))
  let metadata := (Metadata.empty.mark result.isList "isPlural").mark result.isAbstract "isAbstract"
  return .query
    ⟨definition.name, result.name, head.name, calls, directives, metadata.setAll facts⟩ children

/-- The node of a mutation or a subscription with the selection array below it. -/
def operation (context : Context) (inputArgument : String) (type : SchemaType)
    (clientId : String) (definition : Definition) : Build (OperationNode × Children) := do
  let ⟨head, selections⟩ ← rootField context definition
  let declared ← declaredRootField context type head
  lift (Rule.mutationField head declared inputArgument)
  let response := declared.type
  let requisites := (context.schema.requisites response selections).addIf
    (context.schema.hasField response clientId) clientId
  let children ← children context response requisites selections
  let facts := declared.arguments.take 1 |>.map fun argument =>
    ("inputType", Literal.string argument.type.text)
  let directives ← lift
    (Directive.nodes context.parameters (definition.directives ++ head.directives))
  let call : Call := ⟨head.name, .empty, .ofVariable context.parameters inputArgument⟩
  return (⟨definition.name, response.name, some [call], directives, .ofList facts⟩, children)

def mutation (context : Context) (inputArgument : String) (definition : Definition) :
    Build Root := do
  let type ← rootType context.schema.mutationType? definition
  let clientId := context.schema.names.clientMutationId
  let (head, children) ← operation context inputArgument type clientId definition
  return .mutation head children

def subscription (context : Context) (inputArgument : String) (definition : Definition) :
    Build Root := do
  let type ← rootType context.schema.subscriptionType? definition
  let clientId := context.schema.names.clientSubscriptionId
  let (head, children) ← operation context inputArgument type clientId definition
  return .subscription head children

def fragmentRoot (context : Context) (definition : Definition) : Build Root := do
  match context.schema.type? definition.condition with
  | none => refuse (.unknownType definition.condition) definition.position
  | some type =>
    let listed ← lift (Directive.parameters definition.directives)
    let context := { context with
      pattern := Directive.isPattern definition.directives
      parameters := context.parameters ++ listed.getD [] }
    let selections := definition.selections
    let (head, children) ← fragment context type definition.directives
      (children context type (context.schema.requisites type selections) selections)
    match listed with
    | none => return .fragment head children
    | some parameters =>
      let head := { head with metadata := head.metadata.set "isTrackingEnabled" (.bool true) }
      return .createFragment head children parameters

def root (context : Context) (inputArgument : String) (definition : Definition) : Build Root :=
  match definition.kind with
  | .query => query context definition
  | .mutation => mutation context inputArgument definition
  | .subscription => subscription context inputArgument definition
  | .fragment => fragmentRoot context definition
  | .other code => throw (.unsupportedKind (.other code))

end Build

def BuildError.failure : BuildError → Failure
  | .diagnostic found => .ofDiagnostic found
  | .unsupportedKind kind =>
    .ofMessage ("printer.Print: unsupported definition kind " ++ kind.text)
  | .unbounded => .ofMessage "requisite fields without end"

/-- What building a definition depends on. Generated definitions are not validated. -/
def Definition.context (schema : Schema) (options : BuildOptions) (definition : Definition) :
    Context where
  schema := schema
  name := definition.name
  validates := options.validation && (Directive.find? generatedName definition.directives).isNone
  pattern := false
  parameters := options.parameters

/-- The tree of a definition, which should be a normal form. -/
def Definition.build (schema : Schema) (options : BuildOptions) (definition : Definition) :
    Except BuildError Root :=
  (Build.root (definition.context schema options) options.inputArgument definition).run' 0

end QueryTree
