import QueryTree.Schema.Basic

/-!
# Types as the compiler sees them

A type reference together with the declaration of its base type, and the questions that the runtime
conventions ask about it: which fields it has, whether it is a connection, an edge or a page info,
and whether its values can be identified as nodes.
-/

namespace QueryTree

/-- A reference to a declared type, with its modifiers. -/
structure SchemaType where
  declaration : TypeDeclaration
  ref : TypeRef
  deriving Repr

/-- A parameter of a field. -/
structure SchemaArgument where
  name : String
  type : SchemaType
  deriving Repr

/-- A field of a type with its parameters. -/
structure SchemaField where
  name : String
  type : SchemaType
  arguments : List SchemaArgument
  deriving Repr

def SchemaField.argument? (field : SchemaField) (name : String) : Option SchemaArgument :=
  field.arguments.find? (·.name = name)

def SchemaField.declares (field : SchemaField) (name : String) : Bool :=
  (field.argument? name).isSome

namespace SchemaType

/-- The name of the type, without modifiers. -/
def name (type : SchemaType) : String := type.declaration.name

/-- The type with its modifiers, as it is written. -/
def text (type : SchemaType) : String := type.ref.text

def isList (type : SchemaType) : Bool := type.ref.isList

/-- Whether the type of a value is known only at run time. -/
def isAbstract (type : SchemaType) : Bool := type.declaration.kind.isAbstract

/-- Whether fields below the type have to be selected. -/
def isComposite (type : SchemaType) : Bool := type.declaration.kind.isComposite

def isEnum (type : SchemaType) : Bool := type.declaration.kind = .enum

def isInputObject (type : SchemaType) : Bool := type.declaration.kind = .inputObject

/-- Whether the type is a scalar that the schema declares. -/
def isCustomScalar (type : SchemaType) : Bool :=
  type.declaration.kind = .scalar && !type.declaration.builtIn

/-- Whether the type describes a page of a connection. -/
def isPageInfo (type : SchemaType) : Bool := type.name = "PageInfo"

end SchemaType

namespace Schema

def typeOf? (schema : Schema) (ref : TypeRef) : Option SchemaType :=
  (schema.declaration? ref.baseName).map (⟨·, ref⟩)

/-- The type of a given name, without modifiers. -/
def type? (schema : Schema) (name : String) : Option SchemaType :=
  schema.typeOf? (.named name false .unknown)

def queryType? (schema : Schema) : Option SchemaType := schema.query.bind schema.type?

def mutationType? (schema : Schema) : Option SchemaType := schema.mutation.bind schema.type?

def subscriptionType? (schema : Schema) : Option SchemaType :=
  schema.subscription.bind schema.type?

def isQueryType (schema : Schema) (type : SchemaType) : Bool :=
  schema.query = some type.name

def arguments (schema : Schema) (field : FieldDeclaration) : List SchemaArgument :=
  field.arguments.filterMap fun argument =>
    (schema.typeOf? argument.type).map (⟨argument.name, ·⟩)

/-- The field of a type. Every composite type has the field that names its type. -/
def field? (schema : Schema) (type : SchemaType) (name : String) : Option SchemaField :=
  if name = typeNameField then
    if type.isComposite then
      (schema.typeOf? (.named "String" true .unknown)).map (⟨name, ·, []⟩)
    else none
  else do
    let field ← type.declaration.field? name
    let fieldType ← schema.typeOf? field.type
    return ⟨field.name, fieldType, schema.arguments field⟩

def hasField (schema : Schema) (type : SchemaType) (name : String) : Bool :=
  (schema.field? type name).isSome

/-- The type of the nodes behind the edges of a connection: edges have to be a list, a node must
not be one. -/
def connectionNode? (schema : Schema) (type : SchemaType) : Option SchemaType := do
  let edges ← schema.field? type schema.names.edges
  guard edges.type.isList
  let node ← schema.field? edges.type schema.names.node
  guard !node.type.isList
  return node.type

/-- Whether a type is a connection: by its name, its nodes and its page info. -/
def isConnection (schema : Schema) (type : SchemaType) : Bool :=
  type.name.endsWith "Connection" && (schema.connectionNode? type).isSome &&
    (schema.field? type schema.names.pageInfo).any (·.type.isPageInfo)

/-- Whether a type is the edge of a connection: by its name, its node and its cursor. -/
def isEdge (schema : Schema) (type : SchemaType) : Bool :=
  type.name.endsWith "Edge" && schema.hasField type schema.names.node &&
    schema.hasField type schema.names.cursor

def implements (declaration : TypeDeclaration) (interface : String) : Bool :=
  declaration.interfaces.contains interface

/-- Whether every value of a type belongs to an interface: the type is that interface or names it,
or it is abstract and all of its possible types name it. -/
def alwaysImplements (schema : Schema) (type : SchemaType) (interface : String) : Bool :=
  type.name = interface || implements type.declaration interface ||
    (type.isAbstract &&
      let possible := schema.possibleTypes type.name
      !possible.isEmpty && possible.all (implements · interface))

/-- Whether some value of a type may belong to an interface. -/
def mayImplement (schema : Schema) (type : SchemaType) (interface : String) : Bool :=
  schema.alwaysImplements type interface ||
    (type.isAbstract && (schema.possibleTypes type.name).any (implements · interface))

/-- The field that identifies the values of a type that are all nodes. A type without such a field
takes it from the interface. -/
def identifyingField? (schema : Schema) (type : SchemaType) : Option SchemaField :=
  if schema.alwaysImplements type nodeInterface then
    match schema.field? type schema.names.id with
    | some field => some field
    | none => do
      let node ← schema.type? nodeInterface
      schema.field? node schema.names.id
  else none

end Schema

end QueryTree
