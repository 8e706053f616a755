import QueryTree.Language.Parser
import QueryTree.Language.Value

/-!
# The shared grammar

Readers for the parts of the language that executable documents and schemas have in common: type
references, values, arguments and directives. The nesting of values and types is bounded by a
depth; the number of tokens always suffices for it, as each level takes at least one token.
-/

namespace QueryTree.Grammar

open QueryTree.Parser

def typeRef : Nat → Parser TypeRef
  | 0 => refuseNext
  | depth + 1 => do
    if ← skip .bracketLeft then
      let position ← position
      let element ← typeRef depth
      let _ ← expect .bracketRight
      return .list element (← skip .bang) position
    else
      let position ← position
      let name ← name
      return .named name (← skip .bang) position

/-- A variable reference, without its position. -/
def variableName : Parser String := do
  let _ ← expect .dollar
  name

/-- A name, a colon and something. -/
def named {α : Type} (content : Parser α) : Parser (Named α) := do
  let position ← position
  let name ← name
  let _ ← expect .colon
  let value ← content
  return ⟨name, value, position⟩

def nameValue (text : String) (position : Position) : Value :=
  if text = "true" then .boolean true position
  else if text = "false" then .boolean false position
  else if text = "null" then .null position
  else .enum text position

/-- A value. In a constant value no variable may occur. -/
def value (constant : Bool) : Nat → Parser Value
  | 0 => refuseNext
  | depth + 1 => do
    let token ← peek
    match token.kind with
    | .bracketLeft =>
      let values ← group .bracketLeft .bracketRight (value constant depth)
      return .list values token.position
    | .braceLeft =>
      let fields ← group .braceLeft .braceRight (named (value constant depth))
      return .object fields token.position
    | .dollar =>
      if constant then refuseNext
      else
        let name ← variableName
        return .variable name token.position
    | .int =>
      let _ ← next
      return .int token.text token.position
    | .float =>
      let _ ← next
      return .float token.text token.position
    | .string =>
      let _ ← next
      return .string token.text false token.position
    | .blockString =>
      let _ ← next
      return .string token.text true token.position
    | .name =>
      let _ ← next
      return nameValue token.text token.position
    | _ => refuseNext

/-- The arguments of a field or a directive, if there are any. -/
def arguments (constant : Bool) (depth : Nat) : Parser (List Argument) :=
  groupOfSome .parenLeft .parenRight (named (value constant depth))

/-- A directive. It is placed at its name. -/
def directive (constant : Bool) (depth : Nat) : Parser Directive := do
  let _ ← expect .atSign
  let position ← position
  let name ← name
  let arguments ← arguments constant depth
  return ⟨name, arguments, position⟩

/-- At most `bound` directives, as many as follow each other. -/
def directivesUpTo (constant : Bool) (depth : Nat) : Nat → Parser (List Directive)
  | 0 => return []
  | bound + 1 => do
    if (← peek).kind = .atSign then
      let first ← directive constant depth
      let others ← directivesUpTo constant depth bound
      return first :: others
    else return []

/-- The directives that follow each other, possibly none. -/
def directives (constant : Bool) (depth : Nat) : Parser (List Directive) := do
  directivesUpTo constant depth (← get).length

end QueryTree.Grammar
