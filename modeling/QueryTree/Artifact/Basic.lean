import QueryTree.Scope.Initializer

/-!
# Artifacts

An artifact is all that the runtime needs of one definition: its tree, its formal arguments and what
fills its slots. The arguments of an operation are its declared variables. Those of a fragment are
the variables it refers to, which are local if the fragment declares them and otherwise belong to
the operation that the fragment is used in.
-/

namespace QueryTree

/-- Where the value of an argument comes from. -/
inductive ArgumentOrigin where
  /-- The definition declares it. -/
  | local
  /-- The operation provides it. -/
  | root
  deriving DecidableEq, Repr

def ArgumentOrigin.text : ArgumentOrigin → String
  | .local => "LocalArgument"
  | .root => "RootArgument"

/-- A formal argument of a definition. -/
structure ArgumentDefinition where
  origin : ArgumentOrigin
  name : String
  /-- The type, empty if it is not known. -/
  type : String
  /-- The value of an argument that is not given, null if there is none. -/
  default : Literal
  deriving Repr

namespace ArgumentDefinition

def ofVariable (declared : VariableDefinition) : Except Diagnostic ArgumentDefinition := do
  let default ← match declared.default with
    | some value => value.literal []
    | none => pure .null
  return ⟨.local, declared.name, declared.type.text, default⟩

/-- Take over one entry of a declaration: its type or its default value. Other entries mean
nothing. -/
def readEntry (declaration : Argument) (argument : ArgumentDefinition) (entry : Named Value) :
    Except Diagnostic ArgumentDefinition :=
  if entry.name = "type" then
    match entry.value with
    | .string text _ _ => .ok { argument with type := text }
    | _ =>
      .error (.atPosition (.invalidLiteral ("type of argument `" ++ argument.name ++ "`"))
        declaration.position)
  else if entry.name = "defaultValue" then do
    let default ← entry.value.literal []
    return { argument with default }
  else .ok argument

/-- The formal argument that an entry of `@argumentDefinitions` declares. -/
def ofDeclaration (declaration : Argument) : Except Diagnostic ArgumentDefinition :=
  match declaration.value with
  | .object entries _ =>
    entries.foldlM (readEntry declaration) ⟨.local, declaration.name, "", .null⟩
  | _ =>
    .error (.atPosition
      (.invalidLiteral
        ("@" ++ argumentDefinitionsName ++ " argument `" ++ declaration.name ++ "`"))
      declaration.position)

/-- The formal argument for a variable that a fragment refers to. -/
def ofReference (declarations : List Argument) (name : String) :
    Except Diagnostic ArgumentDefinition :=
  match Named.find? name declarations with
  | some declaration => ofDeclaration declaration
  | none => .ok ⟨.root, name, "", .null⟩

def json (argument : ArgumentDefinition) : Written JsonValue := do
  return .object
    [("kind", .string argument.origin.text), ("name", .string argument.name),
      ("type", .string argument.type), ("defaultValue", ← argument.default.json)]

def jsonAll (arguments : List ArgumentDefinition) : Written JsonValue :=
  return .array (← arguments.mapM json)

/-- Formal arguments as JSON that is written on its own: only the objects in their default values
are limited. -/
def limitedJsonAll (arguments : List ArgumentDefinition) : Written JsonValue := do
  arguments.forM fun argument => do discard (← argument.default.json).limitedObjects
  jsonAll arguments

end ArgumentDefinition

/-- The compiled form of a definition. -/
structure Artifact where
  name : String
  /-- The keyword of an operation, nothing for a fragment. -/
  operation : Option String
  arguments : List ArgumentDefinition
  node : Root
  substitutions : List Initializer
  deriving Repr

namespace Artifact

/-- Bring the parts of an artifact together. Operations have to be named. -/
def assemble (definition : Definition) (form : NormalForm) (node : Root)
    (substitutions : List Initializer) : Except Diagnostic Artifact :=
  if definition.kind.isOperation then
    if definition.name = "" then
      .error (.atPosition (.missingName definition.kind.text) definition.position)
    else do
      let arguments ← definition.variableDefinitions.mapM ArgumentDefinition.ofVariable
      return ⟨definition.name, some definition.kind.text, arguments, node, substitutions⟩
  else if definition.kind = .fragment then do
    let arguments ← form.variableNames.mapM
      (ArgumentDefinition.ofReference form.argumentDefinitions)
    return ⟨definition.name, none, arguments, node, substitutions⟩
  else
    .error (.atPosition (.unsupportedSelection ("definition of kind " ++ definition.kind.text))
      definition.position)

def kind (artifact : Artifact) : String :=
  if artifact.operation.isSome then "OperationDefinition" else "FragmentDefinition"

def json (artifact : Artifact) : Written JsonValue := do
  let operation := match artifact.operation with
    | some operation => [("operation", .string operation)]
    | none => []
  let arguments ← ArgumentDefinition.jsonAll artifact.arguments
  let node ← artifact.node.json
  let substitutions ← artifact.substitutions.mapM Initializer.json
  return .object
    ([("kind", .string artifact.kind), ("name", .string artifact.name)] ++ operation ++
      [("argumentDefinitions", arguments), ("node", node),
        ("substitutions", .array substitutions)])

end Artifact

end QueryTree
