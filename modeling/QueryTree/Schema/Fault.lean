import QueryTree.Language.Parser
import QueryTree.Schema.Declaration

/-!
# Faults of a schema

Everything that can be wrong with the text of a schema, with its wording.
-/

namespace QueryTree

/-- What can be wrong with a schema. -/
inductive SchemaFault where
  /-- The text does not follow the grammar. -/
  | grammar (fault : SyntaxFault)
  | redeclaredType (name : String)
  /-- An extension of another kind than the type it extends. -/
  | extensionKind (name : String) (base extension : TypeKind)
  | redeclaredDirective (name : String)
  | multipleBlocks
  | missingRootType (operation : OperationType) (type : String)
  /-- A name that is kept for introspection. -/
  | reservedName (name : String)
  /-- A field or an argument of a type that is not declared. -/
  | undefinedType (name : String)
  /-- A member or an interface that is not declared. -/
  | undefinedRelative (name : String)
  /-- An argument of a type whose values cannot be given. -/
  | notInputType (type argument : String) (kind : TypeKind)
  | selfReferringDirective (name : String)
  | undefinedDirective (name : String)
  | misplacedDirective (name : String) (location : DirectiveLocation)
  | undefinedDirectiveArgument (argument directive : String)
  | nullDirectiveArgument (argument directive : String)
  /-- A member of a union that is no object. -/
  | memberKind (kind : TypeKind) (name : String)
  | notInterface (name : String) (kind : TypeKind)
  | missingInterfaceField (type interface field : String)
  | fieldTypeMismatch (type interface field required : String)
  | missingInterfaceArgument (type interface field argument : String)
  | argumentTypeMismatch (type interface field argument : String)
  | requiredExtraArgument (type interface field argument : String)
  | circularInterface (type interface : String)
  | missingAncestor (type ancestor interface : String)
  | noFields (kind : TypeKind) (name : String)
  /-- A field of an input object type. -/
  | fieldKind (kind : TypeKind) (name : String)
  | noEnumValues (name : String)
  | nonEnumValue (name value : String)
  | noInputFields (name : String)
  /-- An input field of a type whose values cannot be given. -/
  | inputFieldKind (kind : TypeKind) (field : String)
  | duplicateField (type field : String)
  deriving DecidableEq, Repr

/-- How messages about an interface begin. -/
def implementing (type interface : String) : String :=
  "For " ++ type ++ " to implement " ++ interface ++ " "

def SchemaFault.message : SchemaFault → String
  | .grammar fault => fault.message
  | .redeclaredType name => "Cannot redeclare type " ++ name ++ "."
  | .extensionKind name base extension =>
    "Cannot extend type " ++ name ++ " because the base type is a " ++ base.text ++ ", not " ++
      extension.text ++ "."
  | .redeclaredDirective name => "Cannot redeclare directive " ++ name ++ "."
  | .multipleBlocks =>
    "Cannot have multiple schema entry points, consider schema extensions instead."
  | .missingRootType operation type =>
    "Schema root " ++ operation.text ++ " refers to a type " ++ type ++ " that does not exist."
  | .reservedName name =>
    "Name \"" ++ name ++
      "\" must not begin with \"__\", which is reserved by GraphQL introspection."
  | .undefinedType name => "Undefined type " ++ name ++ "."
  | .undefinedRelative name => "Undefined type " ++ Text.quoted name ++ "."
  | .notInputType type argument kind =>
    "cannot use " ++ type ++ " as argument " ++ argument ++ " because " ++ kind.text ++
      " is not a valid input type"
  | .selfReferringDirective name => "Directive " ++ name ++ " cannot refer to itself."
  | .undefinedDirective name => "Undefined directive " ++ name ++ "."
  | .misplacedDirective name location =>
    "Directive " ++ name ++ " is not applicable on " ++ location.text ++ "."
  | .undefinedDirectiveArgument argument directive =>
    "Undefined argument " ++ argument ++ " for directive " ++ directive ++ "."
  | .nullDirectiveArgument argument directive =>
    "Argument " ++ argument ++ " for directive " ++ directive ++ " cannot be null."
  | .memberKind kind name => kind.text ++ " type " ++ Text.quoted name ++ " must be OBJECT."
  | .notInterface name kind =>
    Text.quoted name ++ " is a non interface type " ++ kind.text ++ "."
  | .missingInterfaceField type interface field =>
    implementing type interface ++ "it must have a field called " ++ field ++ "."
  | .fieldTypeMismatch type interface field required =>
    implementing type interface ++ "the field " ++ field ++ " must have type " ++ required ++ "."
  | .missingInterfaceArgument type interface field argument =>
    implementing type interface ++ "the field " ++ field ++
      " must have the same arguments but it is missing " ++ argument ++ "."
  | .argumentTypeMismatch type interface field argument =>
    implementing type interface ++ "the field " ++ field ++
      " must have the same arguments but " ++ argument ++ " has the wrong type."
  | .requiredExtraArgument type interface field argument =>
    implementing type interface ++ "any additional arguments on " ++ field ++
      " must be optional or have a default value but " ++ argument ++ " is required."
  | .circularInterface type interface =>
    "Type " ++ type ++ " cannot implement " ++ interface ++
      " because it would create a circular reference."
  | .missingAncestor type ancestor interface =>
    "Type " ++ type ++ " must implement " ++ ancestor ++ " because it is implemented by " ++
      interface ++ "."
  | .noFields kind name => kind.text ++ " " ++ name ++ ": must define one or more fields."
  | .fieldKind kind name =>
    kind.text ++ " " ++ name ++
      ": field must be one of SCALAR, OBJECT, INTERFACE, UNION, ENUM."
  | .noEnumValues name => "ENUM " ++ name ++ ": must define one or more unique enum values."
  | .nonEnumValue name value => "ENUM " ++ name ++ ": non-enum value " ++ value ++ "."
  | .noInputFields name => "INPUT_OBJECT " ++ name ++ ": must define one or more input fields."
  | .inputFieldKind kind field =>
    kind.text ++ " " ++ field ++ ": field must be one of SCALAR, ENUM, INPUT_OBJECT."
  | .duplicateField type field =>
    "Field " ++ type ++ "." ++ field ++ " can only be defined once."

/-- A fault and its place. -/
structure SchemaError where
  fault : SchemaFault
  position : Position
  deriving DecidableEq, Repr

/-- The message of a schema error after the source and the line. -/
def SchemaError.text (error : SchemaError) : String :=
  (if error.position.source = "" then "input" else error.position.source) ++ ":" ++
    toString error.position.line ++ ": " ++ error.fault.message

end QueryTree
