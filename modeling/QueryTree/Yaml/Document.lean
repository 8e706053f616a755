import QueryTree.Decimal.Shortest
import QueryTree.Json.Value
import QueryTree.Yaml.Style
import QueryTree.Yaml.Tree

/-!
# YAML documents

JSON text is YAML, too. It is read as such, so that what a YAML reader does to its strings and
numbers shows, and then written in block style: two blanks for each level, and the items of a
sequence in a mapping right below their key.
-/

namespace QueryTree

/-- The content of a YAML document. -/
inductive YamlNode where
  /-- A null, a truth value or a number, as it is written. -/
  | scalar (text : String)
  | string (text : String)
  | sequence (items : List YamlNode)
  | mapping (entries : List (String × YamlNode))
  deriving Repr

namespace Yaml

def ofScalar : YamlScalar → YamlNode
  | .null => .scalar "null"
  | .truth value => .scalar (if value then "true" else "false")
  | .whole value => .scalar (toString value)
  | .real value => .scalar value.shortest.general
  | .unbounded "NaN" => .scalar ".nan"
  | .unbounded "-Inf" => .scalar "-.inf"
  | .unbounded _ => .scalar ".inf"
  | .timestamp text => .string text
  | .text content => .string content

def ofKey : YamlTree → String
  | .scalar _ _ text => text
  | _ => ""

mutual

def ofTree : YamlTree → Reading YamlNode
  | .scalar tag isOpen text =>
    match YamlScalar.resolve tag isOpen text with
    | .ok scalar => .ok (ofScalar scalar)
    | .error fault => .error ⟨fault, 0⟩
  | .sequence items => return .sequence (← ofItems items)
  | .mapping entries => return .mapping (← ofEntries entries)
  | .reference target => ofTree target

def ofItems : List YamlTree → Reading (List YamlNode)
  | [] => return []
  | item :: items => do
    let first ← ofTree item
    let others ← ofItems items
    return first :: others

def ofEntries : List (YamlTree × YamlTree) → Reading (List (String × YamlNode))
  | [] => return []
  | (key, value) :: entries => do
    let value ← ofTree value
    let others ← ofEntries entries
    return (ofKey key, value) :: others

end

def read (text : String) : Reading YamlNode := do
  match ← YamlTree.read text with
  | some tree => ofTree tree
  | none => return .scalar "null"

/-- The level below a level; the outermost one is not indented. -/
def deeper : Option Nat → Nat
  | none => 0
  | some indent => indent + 2

def continued : Option Nat → Nat
  | none => 2
  | some indent => indent + 2

/-- Whether a key can stand right before its colon. -/
def isSimpleKey (key : String) : Bool :=
  !key.toList.any isBreak && key.utf8ByteSize ≤ 128

def writeKey (indent : Nat) (pen : Pen) (key : String) : Pen :=
  let pen := pen.indentTo indent
  if isSimpleKey key then (writeString (indent + 2) true pen key).markHere [':']
  else
    let pen := writeString (indent + 2) false (pen.mark ['?'] false true) key
    (pen.indentTo indent).mark [':'] false true

mutual

def write (level : Option Nat) (inMapping : Bool) (pen : Pen) : YamlNode → Pen
  | .scalar text => writeStyled (continued level) false .plain pen text.toList
  | .string text => writeString (continued level) false pen text
  | .sequence [] => (pen.mark ['['] true false).markHere [']']
  | .sequence items =>
    let indent := match level with
      | some indent => if inMapping && !pen.atIndent then indent else indent + 2
      | none => 0
    writeItems indent pen items
  | .mapping [] => (pen.mark ['\x7b'] true false).markHere ['\x7d']
  | .mapping entries => writeEntries (deeper level) pen entries

/-- Write the items of a sequence, each after a dash. -/
def writeItems (indent : Nat) (pen : Pen) : List YamlNode → Pen
  | [] => pen
  | item :: items =>
    let pen := (pen.indentTo indent).mark ['-'] false true
    writeItems indent (write (some indent) false pen item) items

def writeEntries (indent : Nat) (pen : Pen) : List (String × YamlNode) → Pen
  | [] => pen
  | (key, value) :: entries =>
    let pen := writeKey indent pen key
    writeEntries indent (write (some indent) true pen value) entries

end

end Yaml

def YamlNode.text (node : YamlNode) : String :=
  ((Yaml.write none false .start node).indentTo 0).text

/-- A JSON value, written as YAML, or the message of what cannot be read. -/
def JsonValue.yaml (value : JsonValue) : Except String String :=
  match Yaml.read value.compact with
  | .ok node => .ok node.text
  | .error error => .error error.message

end QueryTree
