import QueryTree.Language.Grammar
import QueryTree.Schema.Declaration

/-!
# Reading schemas

The grammar of type system documents: declarations and extensions of types, declarations of
directives, and the block that names the root types.
-/

namespace QueryTree.Grammar

open QueryTree.Parser

/-- A description, if there is one. -/
def description : Parser String := do
  let token ← peek
  if token.kind = .string ∨ token.kind = .blockString then
    return (← next).text
  else return ""

/-- At most `bound` further names, each after a separator. -/
def namesAfter (separator : TokenKind) : Nat → Parser (List String)
  | 0 => return []
  | bound + 1 => do
    if ← skip separator then
      let first ← name
      let others ← namesAfter separator bound
      return first :: others
    else return []

/-- Names between separators; a separator may also stand in front. -/
def separatedNames (separator : TokenKind) : Parser (List String) := do
  let _ ← skip separator
  let first ← name
  let others ← namesAfter separator (← get).length
  return first :: others

/-- The interfaces of a type, if there are any. -/
def interfaces : Parser (List String) := do
  if (← peek).text = "implements" then
    let _ ← next
    separatedNames .ampersand
  else return []

/-- The members of a union, if there are any. -/
def members : Parser (List String) := do
  if ← skip .equals then separatedNames .pipe else return []

/-- A default value, if there is one. -/
def defaultValue (depth : Nat) : Parser (Option Value) := do
  if ← skip .equals then some <$> value true depth else return none

def argumentDeclaration (depth : Nat) : Parser ArgumentDeclaration := do
  let position ← position
  let description ← description
  let name ← name
  let _ ← expect .colon
  let type ← typeRef depth
  let default ← defaultValue depth
  let directives ← directives true depth
  return ⟨name, type, default, directives, description, position⟩

/-- The declarations of parameters, if there are any. -/
def argumentDeclarations (depth : Nat) : Parser (List ArgumentDeclaration) :=
  groupOfSome .parenLeft .parenRight (argumentDeclaration depth)

def fieldDeclaration (depth : Nat) : Parser FieldDeclaration := do
  let position ← position
  let description ← description
  let name ← name
  let arguments ← argumentDeclarations depth
  let _ ← expect .colon
  let type ← typeRef depth
  let directives ← directives true depth
  return ⟨name, arguments, type, none, directives, description, position⟩

def inputFieldDeclaration (depth : Nat) : Parser FieldDeclaration := do
  let position ← position
  let description ← description
  let name ← name
  let _ ← expect .colon
  let type ← typeRef depth
  let default ← defaultValue depth
  let directives ← directives true depth
  return ⟨name, [], type, default, directives, description, position⟩

def enumValueDeclaration (depth : Nat) : Parser EnumValueDeclaration := do
  let position ← position
  let description ← description
  let name ← name
  let directives ← directives true depth
  return ⟨name, directives, description, position⟩

def typeKind? (word : String) : Option TypeKind :=
  [TypeKind.scalar, .object, .interface, .union, .enum, .inputObject].find? (·.keyword = word)

/-- The declaration or the extension of a type, from its keyword on. The extension of an interface
names no interfaces, and the directives of an extended input object may have variables. -/
def typeDeclaration (kind : TypeKind) (extension : Bool) (description : String) (depth : Nat) :
    Parser TypeDeclaration := do
  let _ ← expectWord kind.keyword
  let position ← position
  let name ← name
  let interfaces ←
    if kind = .object ∨ (kind = .interface ∧ extension = false) then interfaces else pure []
  let constant := !(kind = .inputObject && extension)
  let directives ← directives constant depth
  let fields ←
    match kind with
    | .object => groupOfSome .braceLeft .braceRight (fieldDeclaration depth)
    | .interface => groupOfSome .braceLeft .braceRight (fieldDeclaration depth)
    | .inputObject => groupOfSome .braceLeft .braceRight (inputFieldDeclaration depth)
    | _ => pure []
  let members ← if kind = .union then members else pure []
  let values ←
    if kind = .enum then groupOfSome .braceLeft .braceRight (enumValueDeclaration depth)
    else pure []
  return ⟨kind, name, interfaces, directives, fields, members, values, description, false, position⟩

/-- The extension of a type, which has to add something. -/
def typeExtension (kind : TypeKind) (depth : Nat) : Parser TypeDeclaration := do
  let added ← typeDeclaration kind true "" depth
  if added.interfaces.isEmpty ∧ added.directives.isEmpty ∧ added.fields.isEmpty ∧
      added.members.isEmpty ∧ added.values.isEmpty then
    refuseNext
  else return added

/-- A place where a directive may stand. -/
def directiveLocation : Parser DirectiveLocation := do
  let token ← expect .name
  match DirectiveLocation.ofText? token.text with
  | some location => return location
  | none => refuse token

/-- At most `bound` further places, each after a bar. -/
def directiveLocationsAfter : Nat → Parser (List DirectiveLocation)
  | 0 => return []
  | bound + 1 => do
    if ← skip .pipe then
      let first ← directiveLocation
      let others ← directiveLocationsAfter bound
      return first :: others
    else return []

/-- The declaration of a directive, from its keyword on. -/
def directiveDeclaration (description : String) (depth : Nat) : Parser DirectiveDeclaration := do
  let _ ← expectWord "directive"
  let _ ← expect .atSign
  let position ← position
  let name ← name
  let arguments ← argumentDeclarations depth
  let token ← peek
  let repeatable := token.kind = .name ∧ token.text = "repeatable"
  if repeatable then
    let _ ← next
  let _ ← expectWord "on"
  let _ ← skip .pipe
  let first ← directiveLocation
  let others ← directiveLocationsAfter (← get).length
  return ⟨name, arguments, repeatable, first :: others, description, false, position⟩

def rootDeclaration : Parser RootDeclaration := do
  let token ← next
  match OperationType.ofText? token.text with
  | none => refuse token
  | some operation =>
    let _ ← expect .colon
    let type ← name
    return ⟨operation, type, token.position⟩

/-- A block of root types, from its keyword on. -/
def schemaBlock (depth : Nat) : Parser SchemaBlock := do
  let _ ← expectWord "schema"
  let position ← position
  let directives ← directives true depth
  let roots ← groupOfSome .braceLeft .braceRight rootDeclaration
  return ⟨roots, directives, position⟩

def typeSystemExtension (depth : Nat) (document : SchemaDocument) : Parser SchemaDocument := do
  let _ ← expectWord "extend"
  let token ← peek
  if token.text = "schema" then
    let block ← schemaBlock depth
    if block.directives.isEmpty ∧ block.roots.isEmpty then refuseNext
    else return { document with blockExtensions := document.blockExtensions ++ [block] }
  else
    match typeKind? token.text with
    | some kind =>
      let added ← typeExtension kind depth
      return { document with extensions := document.extensions ++ [added] }
    | none => refuse token

/-- A declaration or an extension. An extension takes no description; the mistake is placed at what
stands before it, a comment if there is one. -/
def typeSystemDefinition (depth : Nat) (document : SchemaDocument) : Parser SchemaDocument := do
  let described ← peek
  let description ← description
  let token ← peek
  if token.kind ≠ .name then refuse token
  else if token.text = "schema" then
    let block ← schemaBlock depth
    return { document with blocks := document.blocks ++ [block] }
  else if token.text = "directive" then
    let declared ← directiveDeclaration description depth
    return { document with directives := document.directives ++ [declared] }
  else if token.text = "extend" then
    if description = "" then typeSystemExtension depth document
    else
      match token.comment with
      | some (text, position) => refuse ⟨.comment, text, position, none⟩
      | none => refuse described
  else
    match typeKind? token.text with
    | some kind =>
      let declared ← typeDeclaration kind false description depth
      return { document with types := document.types ++ [declared] }
    | none => refuse token

/-- At most `bound` declarations, up to the end of the input. -/
def typeSystemUpTo (depth : Nat) : Nat → SchemaDocument → Parser SchemaDocument
  | 0, document => return document
  | bound + 1, document => do
    if (← peek).kind = .endOfInput then return document
    else
      let document ← typeSystemDefinition depth document
      typeSystemUpTo depth bound document

def typeSystem : Parser SchemaDocument := do
  let size := (← get).length
  typeSystemUpTo size size .empty

end QueryTree.Grammar

/-- Read the declarations of a schema from the text of a source. -/
def QueryTree.SchemaDocument.parse (source text : String) :
    Except QueryTree.SyntaxError QueryTree.SchemaDocument :=
  Prod.fst <$> QueryTree.Grammar.typeSystem.run
    (QueryTree.Token.withoutComments none (QueryTree.lex source text))
