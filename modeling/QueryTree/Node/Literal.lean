import QueryTree.Decimal.Shortest
import QueryTree.Diagnostic.Failure
import QueryTree.Json.Value

/-!
# Literals and arguments of a tree

A literal is a constant, or a structure of constants with variables inside it. Literals that come
from a document have a stable text; numbers and maps of the host do not, and are refused wherever
a stable text is needed.
-/

namespace QueryTree

/-- A plain value of a tree. -/
inductive Literal where
  | null
  | bool (value : Bool)
  | string (text : String)
  /-- A number, as it was written. -/
  | number (raw : String)
  | list (items : List Literal)
  /-- An object that keeps the order of its fields. -/
  | object (fields : List (String × Literal))
  | variable (name : String)
  | substitution (name : String)
  | hostInt (value : Int)
  /-- A floating point number of the host. -/
  | hostFloat (value : Binary64)
  /-- A map of the host, by sorted keys. -/
  | hostMap (entries : List (String × Literal))
  deriving Inhabited, Repr

/-- A variable that is bound when the tree is executed, as JSON. -/
def JsonValue.ofVariable (name : String) : JsonValue :=
  .object [("kind", .string "CallVariable"), ("callVariableName", .string name)]

/-- A variable of the enclosing parametrized fragment, as JSON. -/
def JsonValue.ofSubstitution (name : String) : JsonValue :=
  .object [("$var", .string name)]

namespace Literal

/-- The JSON of a number text; nothing stands for zero. -/
def numberJson (raw : String) : Except Failure.Cause JsonValue :=
  if raw = "" then .ok (.number "0")
  else if isJsonNumber raw then .ok (.number raw)
  else .error (.invalidNumber raw)

mutual

/-- Refuse values without a stable text. Objects check their own fields when they are written. -/
def check : Literal → Except Failure.Cause Unit
  | .list items => checkItems items
  | .hostInt _ => .error (.unknownLiteral "int")
  | .hostFloat _ => .error (.unknownLiteral "float64")
  | .hostMap _ => .error (.unknownLiteral "map[string]interface \x7b\x7d")
  | _ => .ok ()

/-- Refuse items without a stable text. -/
def checkItems : List Literal → Except Failure.Cause Unit
  | [] => .ok ()
  | item :: items => do
    check item
    checkItems items

end

mutual

def json : Literal → Except Failure.Cause JsonValue
  | .null => .ok .null
  | .bool value => .ok (.bool value)
  | .string text => .ok (.string text)
  | .number raw => numberJson raw
  | .list items => return .array (← jsonItems items)
  | .object fields => return .object (← jsonFields fields)
  | .variable name => .ok (.ofVariable name)
  | .substitution name => .ok (.ofSubstitution name)
  | .hostInt value => .ok (.number (toString value))
  | .hostFloat value => .ok (.number value.shortest.json)
  | .hostMap entries => return .object (← jsonEntries entries)

def jsonItems : List Literal → Except Failure.Cause (List JsonValue)
  | [] => .ok []
  | item :: items => do
    let first ← json item
    let others ← jsonItems items
    return first :: others

/-- The fields of an object as JSON, each checked before it is written. -/
def jsonFields : List (String × Literal) → Except Failure.Cause (List (String × JsonValue))
  | [] => .ok []
  | (name, value) :: fields => do
    check value
    let first ← json value
    let others ← jsonFields fields
    return (name, first) :: others

def jsonEntries : List (String × Literal) → Except Failure.Cause (List (String × JsonValue))
  | [] => .ok []
  | (key, value) :: entries => do
    let first ← json value
    let others ← jsonEntries entries
    return (key, first) :: others

end

mutual

/-- The variables of a literal from left to right, each with whether it is a substitution. -/
def variableUses : Literal → List (String × Bool)
  | .variable name => [(name, false)]
  | .substitution name => [(name, true)]
  | .list items => usesOfItems items
  | .object fields => usesOfFields fields
  | .hostMap entries => usesOfFields entries
  | _ => []

def usesOfItems : List Literal → List (String × Bool)
  | [] => []
  | item :: items => variableUses item ++ usesOfItems items

def usesOfFields : List (String × Literal) → List (String × Bool)
  | [] => []
  | (_, value) :: fields => variableUses value ++ usesOfFields fields

end

end Literal

/-- The value of an argument. -/
inductive ArgumentValue where
  | variable (name : String)
  | substitution (name : String)
  | literal (value : Literal)
  /-- A list, each item of which is an argument value of its own. -/
  | list (items : List ArgumentValue)
  | absent
  deriving Inhabited, Repr

namespace ArgumentValue

mutual

def json : ArgumentValue → Except Failure.Cause JsonValue
  | .variable name => .ok (.ofVariable name)
  | .substitution name => .ok (.ofSubstitution name)
  | .literal value => do
    value.check
    let value ← value.json
    return .object [("kind", .string "CallValue"), ("callValue", value)]
  | .list items => return .array (← jsonItems items)
  | .absent => .ok .null

def jsonItems : List ArgumentValue → Except Failure.Cause (List JsonValue)
  | [] => .ok []
  | item :: items => do
    let first ← json item
    let others ← jsonItems items
    return first :: others

end

mutual

/-- The variables of an argument from left to right, each with whether it is a substitution. -/
def variableUses : ArgumentValue → List (String × Bool)
  | .variable name => [(name, false)]
  | .substitution name => [(name, true)]
  | .literal value => value.variableUses
  | .list items => usesOfItems items
  | .absent => []

def usesOfItems : List ArgumentValue → List (String × Bool)
  | [] => []
  | item :: items => variableUses item ++ usesOfItems items

end

end ArgumentValue

end QueryTree
