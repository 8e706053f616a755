import QueryTree.Language.Value

/-!
# Declarations of a schema

What a schema declares: types with their fields, members or values, and directives with the places
where they may stand. A description is empty if there is none.
-/

namespace QueryTree

/-- The kinds of types. -/
inductive TypeKind where
  | scalar
  | object
  | interface
  | union
  | enum
  | inputObject
  deriving DecidableEq, Repr

namespace TypeKind

def text : TypeKind → String
  | .scalar => "SCALAR"
  | .object => "OBJECT"
  | .interface => "INTERFACE"
  | .union => "UNION"
  | .enum => "ENUM"
  | .inputObject => "INPUT_OBJECT"

def keyword : TypeKind → String
  | .scalar => "scalar"
  | .object => "type"
  | .interface => "interface"
  | .union => "union"
  | .enum => "enum"
  | .inputObject => "input"

/-- Whether values of the kind can be given as arguments. -/
def isInput : TypeKind → Bool
  | .scalar => true
  | .enum => true
  | .inputObject => true
  | _ => false

/-- Whether values of the kind can be selected by fields. -/
def isOutput : TypeKind → Bool
  | .inputObject => false
  | _ => true

/-- Whether fields below a value of the kind have to be selected. -/
def isComposite : TypeKind → Bool
  | .object => true
  | .interface => true
  | .union => true
  | _ => false

/-- Whether a value of the kind belongs to a type that is known only at run time. -/
def isAbstract : TypeKind → Bool
  | .interface => true
  | .union => true
  | _ => false

end TypeKind

/-- The places where a directive may stand. -/
inductive DirectiveLocation where
  | query
  | mutation
  | subscription
  | field
  | fragmentDefinition
  | fragmentSpread
  | inlineFragment
  | variableDefinition
  | schema
  | scalar
  | object
  | fieldDefinition
  | argumentDefinition
  | interface
  | union
  | enum
  | enumValue
  | inputObject
  | inputFieldDefinition
  deriving DecidableEq, Repr

namespace DirectiveLocation

def text : DirectiveLocation → String
  | .query => "QUERY"
  | .mutation => "MUTATION"
  | .subscription => "SUBSCRIPTION"
  | .field => "FIELD"
  | .fragmentDefinition => "FRAGMENT_DEFINITION"
  | .fragmentSpread => "FRAGMENT_SPREAD"
  | .inlineFragment => "INLINE_FRAGMENT"
  | .variableDefinition => "VARIABLE_DEFINITION"
  | .schema => "SCHEMA"
  | .scalar => "SCALAR"
  | .object => "OBJECT"
  | .fieldDefinition => "FIELD_DEFINITION"
  | .argumentDefinition => "ARGUMENT_DEFINITION"
  | .interface => "INTERFACE"
  | .union => "UNION"
  | .enum => "ENUM"
  | .enumValue => "ENUM_VALUE"
  | .inputObject => "INPUT_OBJECT"
  | .inputFieldDefinition => "INPUT_FIELD_DEFINITION"

def all : List DirectiveLocation :=
  [.query, .mutation, .subscription, .field, .fragmentDefinition, .fragmentSpread, .inlineFragment,
    .variableDefinition, .schema, .scalar, .object, .fieldDefinition, .argumentDefinition,
    .interface, .union, .enum, .enumValue, .inputObject, .inputFieldDefinition]

def ofText? (name : String) : Option DirectiveLocation :=
  all.find? (·.text = name)

def ofTypeKind : TypeKind → DirectiveLocation
  | .scalar => .scalar
  | .object => .object
  | .interface => .interface
  | .union => .union
  | .enum => .enum
  | .inputObject => .inputObject

end DirectiveLocation

/-- A parameter of a field or a directive. -/
structure ArgumentDeclaration where
  name : String
  type : TypeRef
  default : Option Value
  directives : List Directive
  description : String
  position : Position
  deriving Repr

/-- A field of an object, an interface or an input object. -/
structure FieldDeclaration where
  name : String
  arguments : List ArgumentDeclaration
  type : TypeRef
  /-- The default of an input field. -/
  default : Option Value
  directives : List Directive
  description : String
  position : Position
  deriving Repr

/-- A value of an enumeration. -/
structure EnumValueDeclaration where
  name : String
  directives : List Directive
  description : String
  position : Position
  deriving Repr

/-- A type. Only the parts that its kind has are filled. -/
structure TypeDeclaration where
  kind : TypeKind
  name : String
  interfaces : List String
  directives : List Directive
  fields : List FieldDeclaration
  /-- The names of a union's members. -/
  members : List String
  values : List EnumValueDeclaration
  description : String
  /-- Whether the type belongs to every schema. -/
  builtIn : Bool
  position : Position
  deriving Repr

def TypeDeclaration.field? (declaration : TypeDeclaration) (name : String) :
    Option FieldDeclaration :=
  declaration.fields.find? (·.name = name)

/-- A directive. -/
structure DirectiveDeclaration where
  name : String
  arguments : List ArgumentDeclaration
  repeatable : Bool
  locations : List DirectiveLocation
  description : String
  /-- Whether the declaration belongs to every schema. -/
  builtIn : Bool
  position : Position
  deriving Repr

/-- The operations that can have a root type. -/
inductive OperationType where
  | query
  | mutation
  | subscription
  deriving DecidableEq, Repr

def OperationType.text : OperationType → String
  | .query => "query"
  | .mutation => "mutation"
  | .subscription => "subscription"

def OperationType.ofText? (word : String) : Option OperationType :=
  [OperationType.query, .mutation, .subscription].find? (·.text = word)

/-- The root type of an operation as a schema names it. -/
structure RootDeclaration where
  operation : OperationType
  type : String
  position : Position
  deriving Repr

/-- A list of root types. -/
structure SchemaBlock where
  roots : List RootDeclaration
  directives : List Directive
  position : Position
  deriving Repr

/-- The declarations of a source, by kind and in source order. -/
structure SchemaDocument where
  types : List TypeDeclaration
  extensions : List TypeDeclaration
  directives : List DirectiveDeclaration
  blocks : List SchemaBlock
  blockExtensions : List SchemaBlock
  deriving Repr

namespace SchemaDocument

def empty : SchemaDocument := ⟨[], [], [], [], []⟩

def append (left right : SchemaDocument) : SchemaDocument :=
  ⟨left.types ++ right.types, left.extensions ++ right.extensions,
    left.directives ++ right.directives, left.blocks ++ right.blocks,
    left.blockExtensions ++ right.blockExtensions⟩

end SchemaDocument

end QueryTree
