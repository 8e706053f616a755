import QueryTree.Document.Definition
import QueryTree.Language.Grammar

/-!
# Reading executable documents

A document is any number of operations and fragments. Its operations and its fragments are kept
apart while reading; `Document.definitions` puts them back into the order of the source.
-/

namespace QueryTree

/-- The operations and the fragments of a source, each in source order. -/
structure Document where
  operations : List Definition
  fragments : List Definition
  deriving Repr

namespace Grammar

open QueryTree.Parser

/-- A field, possibly with an alias, without the selections below it. An alias that repeats the
name of the field counts as none. -/
def field (depth : Nat) : Parser Field := do
  let position ← position
  let first ← name
  let aliased ← skip .colon
  let name ← if aliased then name else pure first
  let arguments ← arguments false depth
  let directives ← directives false depth
  return ⟨if first = name then none else some first, name, arguments, directives, position⟩

/-- A selection. After three dots, a name other than `on` is a fragment spread, anything else
belongs to an inline fragment; its type condition follows a token that spells `on`. -/
def selection : Nat → Parser Selection
  | 0 => refuseNext
  | depth + 1 => do
    if ← skip .spread then
      let token ← peek
      if token.kind = .name ∧ token.text ≠ "on" then
        let name ← name
        let directives ← directives false depth
        return .spread ⟨name, directives, token.position⟩
      else
        let condition ←
          if token.text = "on" then do
            let _ ← next
            some <$> name
          else pure none
        let directives ← directives false depth
        let brace ← peek
        if brace.kind = .braceLeft then
          let selections ← groupOfSome .braceLeft .braceRight (selection depth)
          return .inline ⟨condition, directives, token.position⟩ selections
        else failAt brace (.expectedKind .braceLeft brace.kind)
    else
      let field ← field depth
      let selections ← groupOfSome .braceLeft .braceRight (selection depth)
      return .field field selections

def selectionSet (depth : Nat) : Parser (List Selection) := do
  let brace ← peek
  if brace.kind = .braceLeft then groupOfSome .braceLeft .braceRight (selection depth)
  else failAt brace (.expectedKind .braceLeft brace.kind)

/-- The declaration of a variable. Its directives carry no meaning and are dropped. -/
def variableDefinition (depth : Nat) : Parser VariableDefinition := do
  let position ← position
  let name ← variableName
  let _ ← expect .colon
  let type ← typeRef depth
  let hasDefault ← skip .equals
  let default ← if hasDefault then some <$> value true depth else pure none
  let _ ← directives false depth
  return ⟨name, type, default, position⟩

/-- The declarations of variables, if there are any. -/
def variableDefinitions (depth : Nat) : Parser (List VariableDefinition) :=
  groupOfSome .parenLeft .parenRight (variableDefinition depth)

def operation (kind : DefinitionKind) (depth : Nat) : Parser Definition := do
  let keyword ← next
  let token ← peek
  let name ← if token.kind = .name then name else pure ""
  let declared ← variableDefinitions depth
  let directives ← directives false depth
  let selections ← selectionSet depth
  return ⟨kind, name, "", declared, directives, selections, keyword.position⟩

/-- An anonymous query, which is a bare selection set. -/
def bareQuery (depth : Nat) : Parser Definition := do
  let position ← position
  let selections ← selectionSet depth
  return ⟨.query, "", "", [], [], selections, position⟩

/-- A fragment. It may declare variables, which are dropped. -/
def fragment (depth : Nat) : Parser Definition := do
  let keyword ← expectWord "fragment"
  let token ← peek
  if token.text = "on" then refuse token
  else
    let name ← name
    let _ ← variableDefinitions depth
    let _ ← expectWord "on"
    let condition ← Parser.name
    let directives ← directives false depth
    let selections ← selectionSet depth
    return ⟨.fragment, name, condition, [], directives, selections, keyword.position⟩

/-- The kind of the operation that a keyword begins. -/
def operationKind? (word : String) : Option DefinitionKind :=
  if word = "query" then some .query
  else if word = "mutation" then some .mutation
  else if word = "subscription" then some .subscription
  else none

/-- At most `bound` definitions, up to the end of the input. -/
def definitionsUpTo (depth : Nat) : Nat → Parser Document
  | 0 => return ⟨[], []⟩
  | bound + 1 => do
    let token ← peek
    match token.kind with
    | .endOfInput => return ⟨[], []⟩
    | .braceLeft =>
      let first ← bareQuery depth
      let others ← definitionsUpTo depth bound
      return { others with operations := first :: others.operations }
    | .name =>
      match operationKind? token.text with
      | some kind =>
        let first ← operation kind depth
        let others ← definitionsUpTo depth bound
        return { others with operations := first :: others.operations }
      | none =>
        if token.text = "fragment" then
          let first ← fragment depth
          let others ← definitionsUpTo depth bound
          return { others with fragments := first :: others.fragments }
        else refuse token
    | _ => refuse token

def document : Parser Document := do
  let size := (← get).length
  definitionsUpTo size size

end Grammar

namespace Document

def parse (source text : String) : Except SyntaxError Document :=
  Prod.fst <$> Grammar.document.run (Token.withoutComments none (lex source text))

/-- The definitions of a document by position. Definitions at the same position keep their order,
operations first. -/
def definitions (document : Document) : List Definition :=
  (document.operations ++ document.fragments).mergeSort fun left right =>
    !right.position.precedes left.position

end Document

end QueryTree
