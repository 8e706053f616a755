import QueryTree.Schema.Basic
import QueryTree.Schema.Fault

/-!
# Checking a schema

The rules that the declarations of a schema have to follow. Every check stops at the first fault.
-/

namespace QueryTree.Schema

/-- The outcome of a check. -/
abbrev Check := Except SchemaError Unit

/-- Fail unless a condition holds. -/
def require (condition : Bool) (fault : SchemaFault) (position : Position) : Check :=
  if condition then .ok () else .error ⟨fault, position⟩

/-- Names that begin with two underscores are kept for introspection. -/
def checkName (name : String) (position : Position) : Check :=
  require (!name.startsWith "__") (.reservedName name) position

def checkTypeRef (schema : Schema) (type : TypeRef) : Check :=
  require (schema.declaration? type.baseName).isSome (.undefinedType type.baseName) type.position

def isNull : Value → Bool
  | .null _ => true
  | _ => false

/-- A directive has to be declared, to stand where it may, and to be given the right arguments.
`owner` is the directive whose declaration is being checked, which must not refer to itself. -/
def checkDirective (schema : Schema) (location : DirectiveLocation) (owner : Option String)
    (directive : Directive) : Check := do
  checkName directive.name directive.position
  require (owner ≠ some directive.name) (.selfReferringDirective directive.name) directive.position
  match schema.directive? directive.name with
  | none => throw ⟨.undefinedDirective directive.name, directive.position⟩
  | some declared =>
    require (declared.locations.contains location) (.misplacedDirective directive.name location)
      directive.position
    directive.arguments.forM fun argument =>
      require (declared.arguments.any (·.name = argument.name))
        (.undefinedDirectiveArgument argument.name directive.name) argument.position
    declared.arguments.forM fun parameter =>
      let given := Named.find? parameter.name directive.arguments
      require (!parameter.type.nonNull || parameter.default.isSome ||
          given.any fun argument => !isNull argument.value)
        (.nullDirectiveArgument parameter.name directive.name) directive.position

def checkDirectives (schema : Schema) (location : DirectiveLocation) (owner : Option String)
    (directives : List Directive) : Check :=
  directives.forM (schema.checkDirective location owner)

/-- The parameters of a field, or of the directive `owner`. -/
def checkParameters (schema : Schema) (owner : Option String)
    (parameters : List ArgumentDeclaration) : Check :=
  parameters.forM fun parameter => do
    checkName parameter.name parameter.position
    schema.checkTypeRef parameter.type
    match schema.declaration? parameter.type.baseName with
    | none => return
    | some declared =>
      require declared.kind.isInput
        (.notInputType parameter.type.text parameter.name declared.kind) parameter.position
      schema.checkDirectives .argumentDefinition owner parameter.directives

def checkField (schema : Schema) (kind : TypeKind) (field : FieldDeclaration) : Check := do
  checkName field.name field.position
  schema.checkTypeRef field.type
  schema.checkParameters none field.arguments
  let location := if kind = .inputObject then .inputFieldDefinition else .fieldDefinition
  schema.checkDirectives location none field.directives

def checkMember (schema : Schema) (declaration : TypeDeclaration) (member : String) : Check :=
  match schema.declaration? member with
  | none => throw ⟨.undefinedRelative member, declaration.position⟩
  | some declared =>
    require (declared.kind = .object) (.memberKind declaration.kind member) declaration.position

/-- Whether a field of type `actual` may stand where an interface asks for `required`: it may be
non-null where null is allowed, and of a possible type of the required one. -/
def isCovariant (schema : Schema) (required actual : TypeRef) : Bool :=
  match required, actual with
  | .named name requiredNonNull _, .named other actualNonNull _ =>
    (!requiredNonNull || actualNonNull) &&
      (name == other || (schema.possibleTypes name).any (·.name == other))
  | .list required requiredNonNull _, .list actual actualNonNull _ =>
    (!requiredNonNull || actualNonNull) && isCovariant schema required actual
  | _, _ => false

/-- Whether a parameter of type `found` takes every value of the type `required`. -/
def isCompatible : TypeRef → TypeRef → Bool
  | .named required requiredNonNull _, .named found foundNonNull _ =>
    required == found && (!foundNonNull || requiredNonNull)
  | .list required requiredNonNull _, .list found foundNonNull _ =>
    isCompatible required found && (!foundNonNull || requiredNonNull)
  | _, _ => false

/-- A field against the field of the same name in an interface. -/
def checkInterfaceField (schema : Schema) (declaration interface : TypeDeclaration)
    (required : FieldDeclaration) : Check := do
  match declaration.field? required.name with
  | none =>
    throw ⟨.missingInterfaceField declaration.name interface.name required.name,
      declaration.position⟩
  | some found =>
    require (schema.isCovariant required.type found.type)
      (.fieldTypeMismatch declaration.name interface.name required.name required.type.text)
      found.position
    required.arguments.forM fun parameter =>
      match found.arguments.find? (·.name = parameter.name) with
      | none =>
        throw ⟨.missingInterfaceArgument declaration.name interface.name required.name
          parameter.name, found.position⟩
      | some given =>
        require (isCompatible parameter.type given.type)
          (.argumentTypeMismatch declaration.name interface.name required.name parameter.name)
          given.position
    found.arguments.forM fun given =>
      require (required.arguments.any (·.name = given.name) || !given.type.nonNull ||
          given.default.isSome)
        (.requiredExtraArgument declaration.name interface.name found.name given.name)
        given.position

/-- A type against an interface it names. The interfaces of that interface have to be named too. -/
def checkInterface (schema : Schema) (declaration : TypeDeclaration) (name : String) : Check := do
  match schema.declaration? name with
  | none => throw ⟨.undefinedRelative name, declaration.position⟩
  | some interface =>
    require (interface.kind = .interface) (.notInterface name interface.kind)
      declaration.position
    interface.fields.forM (schema.checkInterfaceField declaration interface)
    interface.interfaces.forM fun ancestor =>
      if declaration.interfaces.contains ancestor then .ok ()
      else if ancestor = declaration.name then
        throw ⟨.circularInterface declaration.name name, declaration.position⟩
      else throw ⟨.missingAncestor declaration.name ancestor name, declaration.position⟩

def checkOutputFields (schema : Schema) (declaration : TypeDeclaration) : Check := do
  require (!declaration.fields.isEmpty) (.noFields declaration.kind declaration.name)
    declaration.position
  declaration.fields.forM fun field =>
    match schema.declaration? field.type.baseName with
    | none => .ok ()
    | some declared =>
      require declared.kind.isOutput (.fieldKind declaration.kind declaration.name)
        field.position

def checkValues (schema : Schema) (declaration : TypeDeclaration) : Check := do
  require (!declaration.values.isEmpty) (.noEnumValues declaration.name) declaration.position
  declaration.values.forM fun value => do
    require (value.name ∉ ["true", "false", "null"])
      (.nonEnumValue declaration.name value.name) declaration.position
    schema.checkDirectives .enumValue none value.directives

def checkInputFields (schema : Schema) (declaration : TypeDeclaration) : Check := do
  require (!declaration.fields.isEmpty) (.noInputFields declaration.name) declaration.position
  declaration.fields.forM fun field =>
    match schema.declaration? field.type.baseName with
    | none => .ok ()
    | some declared =>
      require declared.kind.isInput (.inputFieldKind declared.kind field.name) field.position

def checkDistinct (type : String) : List FieldDeclaration → Check
  | [] => .ok ()
  | field :: fields =>
    match fields.find? (·.name = field.name) with
    | some second => .error ⟨.duplicateField type second.name, second.position⟩
    | none => checkDistinct type fields

def checkType (schema : Schema) (declaration : TypeDeclaration) : Check := do
  declaration.fields.forM (schema.checkField declaration.kind)
  declaration.members.forM (schema.checkMember declaration)
  declaration.interfaces.forM (schema.checkInterface declaration)
  match declaration.kind with
  | .object => schema.checkOutputFields declaration
  | .interface => schema.checkOutputFields declaration
  | .enum => schema.checkValues declaration
  | .inputObject => schema.checkInputFields declaration
  | _ => pure ()
  checkDistinct declaration.name declaration.fields
  if declaration.builtIn = false then checkName declaration.name declaration.position
  schema.checkDirectives (.ofTypeKind declaration.kind) none declaration.directives

def checkDirectiveDeclaration (schema : Schema) (declaration : DirectiveDeclaration) : Check := do
  checkName declaration.name declaration.position
  schema.checkParameters (some declaration.name) declaration.arguments

def sortByName {α : Type} (name : α → String) (entries : List α) : List α :=
  entries.mergeSort fun left right => !decide (name right < name left)

/-- All rules for a schema: its types by name, then its directives by name. -/
def check (schema : Schema) : Check := do
  (sortByName (·.name) schema.types).forM schema.checkType
  (sortByName (·.name) schema.directives).forM schema.checkDirectiveDeclaration

end QueryTree.Schema
