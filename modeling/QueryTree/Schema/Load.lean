import QueryTree.Schema.Check
import QueryTree.Schema.Grammar
import QueryTree.Schema.Prelude

/-!
# Loading a schema

From the text of a source to a schema: the built-in declarations come first, types are declared,
extended and checked, root types are found, and the query type gets its introspection fields.
-/

namespace QueryTree.Schema

def checkRedeclared : List TypeDeclaration → List TypeDeclaration → Check
  | _, [] => .ok ()
  | known, declaration :: declarations =>
    if known.any (·.name = declaration.name) then
      .error ⟨.redeclaredType declaration.name, declaration.position⟩
    else checkRedeclared (declaration :: known) declarations

def extended (base extension : TypeDeclaration) : TypeDeclaration :=
  { base with
    directives := base.directives ++ extension.directives
    interfaces := base.interfaces ++ extension.interfaces
    fields := base.fields ++ extension.fields
    members := base.members ++ extension.members
    values := base.values ++ extension.values }

/-- Apply an extension. A type that is not declared is created by it. -/
def extend (types : List TypeDeclaration) (extension : TypeDeclaration) :
    Except SchemaError (List TypeDeclaration) :=
  match types.find? (·.name = extension.name) with
  | none => .ok (types ++ [{ extension with description := "" }])
  | some base =>
    if base.kind = extension.kind then
      .ok (types.map fun declaration =>
        if declaration.name = extension.name then extended declaration extension
        else declaration)
    else
      .error ⟨.extensionKind extension.name base.kind extension.kind, extension.position⟩

/-- The directives that a schema may declare although they are built in. -/
def redeclarable : List String := ["include", "skip", "deprecated", "specifiedBy", "defer"]

def declareDirective (directives : List DirectiveDeclaration)
    (declaration : DirectiveDeclaration) : Except SchemaError (List DirectiveDeclaration) :=
  if directives.any (·.name = declaration.name) then
    if redeclarable.contains declaration.name then
      .ok (directives.map fun known =>
        if known.name = declaration.name then declaration else known)
    else .error ⟨.redeclaredDirective declaration.name, declaration.position⟩
  else .ok (directives ++ [declaration])

def setRoot (schema : Schema) (root : RootDeclaration) : Except SchemaError Schema :=
  if (schema.declaration? root.type).isSome then
    match root.operation with
    | .query => .ok { schema with query := some root.type }
    | .mutation => .ok { schema with mutation := some root.type }
    | .subscription => .ok { schema with subscription := some root.type }
  else .error ⟨.missingRootType root.operation root.type, root.position⟩

/-- The default root type of an operation, if it is declared. -/
def defaultRoot (schema : Schema) (root : Option String) (name : String) : Option String :=
  match root with
  | some type => some type
  | none => if (schema.declaration? name).isSome then some name else none

/-- The root types of a schema that names none itself. -/
def inferRoots (schema : Schema) : Schema :=
  { schema with
    query := schema.defaultRoot schema.query "Query"
    mutation := schema.defaultRoot schema.mutation "Mutation"
    subscription := schema.defaultRoot schema.subscription "Subscription" }

/-- Give the query type access to introspection. -/
def withIntrospection (schema : Schema) : Schema :=
  { schema with
    types := schema.types.map fun declaration =>
      if schema.query = some declaration.name then
        { declaration with fields := declaration.fields ++ Prelude.introspectionFields }
      else declaration }

def ofDocument (names : FieldNames) (document : SchemaDocument) : Except SchemaError Schema := do
  checkRedeclared [] document.types
  let types ← document.extensions.foldlM extend document.types
  let directives ← document.directives.foldlM declareDirective []
  match document.blocks with
  | _ :: second :: _ => throw ⟨.multipleBlocks, second.position⟩
  | blocks =>
    let bare : Schema := ⟨types, directives, none, none, none, names⟩
    let roots := (blocks ++ document.blockExtensions).flatMap (·.roots)
    let schema ← roots.foldlM setRoot bare
    schema.check
    let schema := if blocks.isEmpty then schema.inferRoots else schema
    return schema.withIntrospection

def parse (names : FieldNames) (source text : String) : Except SchemaError Schema :=
  match SchemaDocument.parse source text with
  | .error error => .error ⟨.grammar error.fault, error.position⟩
  | .ok document => ofDocument names (Prelude.document.append document)

end QueryTree.Schema
