import QueryTree.Decimal.Binary
import QueryTree.Language.Value
import QueryTree.Node.Tree
import QueryTree.Normal.Form

/-!
# Values in a tree

A value of a document becomes either a plain literal, or an argument: there a variable stands on its
own, a list is kept item by item, and any other value is wrapped as a literal. In both forms a
variable is a substitution if it is a parameter of the enclosing fragment.
-/

namespace QueryTree

/-- The literal of a number, which has to be representable. -/
def Literal.ofNumber (raw : String) (position : Position) : Except Diagnostic Literal :=
  if QueryTree.isRepresentable raw then .ok (.number raw)
  else .error (.atPosition (.invalidLiteral raw) position)

def Literal.ofVariable (parameters : List String) (name : String) : Literal :=
  if parameters.contains name then .substitution name else .variable name

def ArgumentValue.ofVariable (parameters : List String) (name : String) : ArgumentValue :=
  if parameters.contains name then .substitution name else .variable name

namespace Value

mutual

def literal (parameters : List String) : Value → Except Diagnostic Literal
  | .variable name _ => .ok (.ofVariable parameters name)
  | .int raw position => Literal.ofNumber raw position
  | .float raw position => Literal.ofNumber raw position
  | .string text _ _ => .ok (.string text)
  | .boolean value _ => .ok (.bool value)
  | .null _ => .ok .null
  | .enum name _ => .ok (.string name)
  | .list values _ => return .list (← literals parameters values)
  | .object fields _ => return .object (← literalFields parameters fields)

def literals (parameters : List String) : List Value → Except Diagnostic (List Literal)
  | [] => .ok []
  | value :: values => do
    let first ← literal parameters value
    let others ← literals parameters values
    return first :: others

def literalFields (parameters : List String) :
    List (Named Value) → Except Diagnostic (List (String × Literal))
  | [] => .ok []
  | ⟨name, value, _⟩ :: fields => do
    let first ← literal parameters value
    let others ← literalFields parameters fields
    return (name, first) :: others

end

mutual

def argument (parameters : List String) : Value → Except Diagnostic ArgumentValue
  | .variable name _ => .ok (.ofVariable parameters name)
  | .list values _ => return .list (← argumentItems parameters values)
  | value => return .literal (← value.literal parameters)

def argumentItems (parameters : List String) :
    List Value → Except Diagnostic (List ArgumentValue)
  | [] => .ok []
  | value :: values => do
    let first ← argument parameters value
    let others ← argumentItems parameters values
    return first :: others

end

end Value

namespace Directive

def node (parameters : List String) (directive : Directive) :
    Except Diagnostic DirectiveNode := do
  let arguments ← directive.arguments.mapM fun argument => do
    return (argument.name, ← argument.value.argument parameters)
  return ⟨directive.name, arguments⟩

/-- The nodes of directives, leaving out `@relay`; nothing if none is left. -/
def nodes (parameters : List String) (directives : List Directive) :
    Except Diagnostic (Option (List DirectiveNode)) := do
  match ← (directives.filter (·.name ≠ relayName)).mapM (node parameters) with
  | [] => return none
  | found => return some found

/-- The argument of `@relay` that lists the parameters of a fragment. -/
def relayVariables : String := "variables"

/-- The argument of `@relay` that makes a fragment a pattern. -/
def relayPattern : String := "pattern"

/-- The facts that one argument of `@relay` contributes. Variables are not allowed, and the
parameters of a fragment are no fact. -/
def relayFact (parameters : List String) (argument : Argument) :
    Except Diagnostic (List (String × Literal)) :=
  match argument.value with
  | .variable name _ =>
    .error (.atPosition (.variableInRelayDirective name argument.name) argument.position)
  | value =>
    if argument.name = relayVariables then .ok []
    else return [(argument.name, ← value.literal parameters)]

def relayFacts (parameters : List String) (directives : List Directive) :
    Except Diagnostic (List (String × Literal)) :=
  match find? relayName directives with
  | none => .ok []
  | some relay => return (← relay.arguments.mapM (relayFact parameters)).flatten

def parameterName (item : Value) : Except Diagnostic String :=
  match item with
  | .string text _ _ => .ok text
  | _ => .error (.atPosition (.invalidRelayArgument relayVariables "a list of strings")
      item.position)

def parameterNames (argument : Argument) : Except Diagnostic (List String) :=
  match argument.value with
  | .list items _ => items.mapM parameterName
  | _ => .error (.atPosition (.invalidRelayArgument relayVariables "a list of strings")
      argument.position)

/-- The parameters that the first `@relay` lists, or nothing if it lists none. -/
def parameters (directives : List Directive) : Except Diagnostic (Option (List String)) :=
  match (find? relayName directives).bind fun relay =>
      Named.find? relayVariables relay.arguments with
  | none => .ok none
  | some argument => return some (← parameterNames argument)

/-- Whether the first `@relay` makes a fragment a pattern. -/
def isPattern (directives : List Directive) : Bool :=
  match (find? relayName directives).bind fun relay =>
      Named.find? relayPattern relay.arguments with
  | some ⟨_, .boolean value _, _⟩ => value
  | _ => false

end Directive

/-- The parameters of a definition; only fragments have them. -/
def Definition.parameters (definition : Definition) :
    Except Diagnostic (Option (List String)) :=
  if definition.kind = .fragment then Directive.parameters definition.directives else .ok none

end QueryTree
