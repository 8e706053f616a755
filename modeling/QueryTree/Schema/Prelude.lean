import QueryTree.Schema.Declaration

/-!
# What every schema declares

The built-in scalars, the directives of the language and the types of introspection. They stand in a
source of their own, and each type, field and value has its line there, which shows if an extension
makes one of them wrong.
-/

namespace QueryTree.Prelude

/-- A place in the text of the built-in declarations. -/
def place (line : Nat) (column : Int) : Position := ⟨line, column, "prelude.graphql"⟩

def nowhere : Position := place 0 0

def optional (name : String) : TypeRef := .named name false nowhere

def required (name : String) : TypeRef := .named name true nowhere

def listOf (nonNull : Bool) (name : String) : TypeRef := .list (required name) nonNull nowhere

/-- A parameter, possibly with a default. -/
def parameter (name : String) (type : TypeRef) (default : Option Value := none)
    (position : Position := nowhere) : ArgumentDeclaration :=
  ⟨name, type, default, [], "", position⟩

/-- A field on a line of its own, possibly with parameters. -/
def field (line : Nat) (name : String) (type : TypeRef)
    (arguments : List ArgumentDeclaration := []) : FieldDeclaration :=
  ⟨name, arguments, type, none, [], "", place line 3⟩

def scalar (line : Nat) (name : String) : TypeDeclaration :=
  ⟨.scalar, name, [], [], [], [], [], "", true, place line 8⟩

def object (line : Nat) (name : String) (fields : List FieldDeclaration) : TypeDeclaration :=
  ⟨.object, name, [], [], fields, [], [], "", true, place line 6⟩

/-- The values of an enumeration, each on a line of its own. -/
def enumValues (line : Nat) : List String → List EnumValueDeclaration
  | [] => []
  | name :: names => ⟨name, [], "", place line 3⟩ :: enumValues (line + 1) names

def enum (line : Nat) (name : String) (values : List String) : TypeDeclaration :=
  ⟨.enum, name, [], [], [], [], enumValues (line + 1) values, "", true, place line 6⟩

def directive (line : Nat) (name : String) (arguments : List ArgumentDeclaration)
    (locations : List DirectiveLocation) : DirectiveDeclaration :=
  ⟨name, arguments, false, locations, "", true, place line 12⟩

/-- The parameter of introspection that brings back deprecated members. -/
def includeDeprecated (line : Nat) (column : Int) : ArgumentDeclaration :=
  parameter "includeDeprecated" (optional "Boolean") (some (.boolean false nowhere))
    (place line column)

def types : List TypeDeclaration :=
  [scalar 4 "Int", scalar 7 "Float", scalar 10 "String", scalar 13 "Boolean", scalar 16 "ID",
    object 33 "__Schema"
      [field 34 "description" (optional "String"),
        field 35 "types" (listOf true "__Type"),
        field 36 "queryType" (required "__Type"),
        field 37 "mutationType" (optional "__Type"),
        field 38 "subscriptionType" (optional "__Type"),
        field 39 "directives" (listOf true "__Directive")],
    object 42 "__Type"
      [field 43 "kind" (required "__TypeKind"),
        field 44 "name" (optional "String"),
        field 45 "description" (optional "String"),
        field 47 "fields" (listOf false "__Field") [includeDeprecated 47 10],
        field 49 "interfaces" (listOf false "__Type"),
        field 51 "possibleTypes" (listOf false "__Type"),
        field 53 "enumValues" (listOf false "__EnumValue") [includeDeprecated 53 14],
        field 55 "inputFields" (listOf false "__InputValue"),
        field 57 "ofType" (optional "__Type"),
        field 59 "specifiedByURL" (optional "String")],
    object 62 "__Field"
      [field 63 "name" (required "String"),
        field 64 "description" (optional "String"),
        field 65 "args" (listOf true "__InputValue"),
        field 66 "type" (required "__Type"),
        field 67 "isDeprecated" (required "Boolean"),
        field 68 "deprecationReason" (optional "String")],
    object 71 "__InputValue"
      [field 72 "name" (required "String"),
        field 73 "description" (optional "String"),
        field 74 "type" (required "__Type"),
        field 75 "defaultValue" (optional "String")],
    object 78 "__EnumValue"
      [field 79 "name" (required "String"),
        field 80 "description" (optional "String"),
        field 81 "isDeprecated" (required "Boolean"),
        field 82 "deprecationReason" (optional "String")],
    enum 85 "__TypeKind"
      ["SCALAR", "OBJECT", "INTERFACE", "UNION", "ENUM", "INPUT_OBJECT", "LIST", "NON_NULL"],
    object 96 "__Directive"
      [field 97 "name" (required "String"),
        field 98 "description" (optional "String"),
        field 99 "locations" (listOf true "__DirectiveLocation"),
        field 100 "args" (listOf true "__InputValue"),
        field 101 "isRepeatable" (required "Boolean")],
    enum 104 "__DirectiveLocation" (DirectiveLocation.all.map (·.text))]

def directives : List DirectiveDeclaration :=
  [directive 19 "include" [parameter "if" (required "Boolean")]
      [.field, .fragmentSpread, .inlineFragment],
    directive 22 "skip" [parameter "if" (required "Boolean")]
      [.field, .fragmentSpread, .inlineFragment],
    directive 25 "deprecated"
      [parameter "reason" (optional "String")
        (some (.string "No longer supported" false nowhere))]
      [.fieldDefinition, .argumentDefinition, .inputFieldDefinition, .enumValue],
    directive 28 "specifiedBy" [parameter "url" (required "String")] [.scalar],
    directive 31 "defer"
      [parameter "if" (optional "Boolean") (some (.boolean true nowhere)),
        parameter "label" (optional "String")]
      [.fragmentSpread, .inlineFragment]]

def document : SchemaDocument := ⟨types, [], directives, [], []⟩

/-- The fields through which the query type gives access to introspection. -/
def introspectionFields : List FieldDeclaration :=
  [field 0 "__schema" (required "__Schema"),
    field 0 "__type" (optional "__Type") [parameter "name" (required "String")]]

end QueryTree.Prelude
