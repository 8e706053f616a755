import QueryTree.Node.Literal

/-!
# Concrete query trees

The tree that the client runtime executes, caches and normalizes. As in the documents they are made
from, nodes keep their own part in a record and the nodes below them beside it. The selection array
of a node may be missing, and it is marked if the arrays behind its fragment references have to be
put in place of them when the tree is executed.
-/

namespace QueryTree

/-- Facts about a node for the runtime, by sorted keys. -/
structure Metadata where
  entries : List (String × Literal)
  deriving Inhabited, Repr

namespace Metadata

def empty : Metadata := ⟨[]⟩

/-- Put an entry into a list with sorted keys, in place of one with the same key. -/
def insertEntry (key : String) (value : Literal) :
    List (String × Literal) → List (String × Literal)
  | [] => [(key, value)]
  | (known, old) :: entries =>
    if key = known then (key, value) :: entries
    else if key < known then (key, value) :: (known, old) :: entries
    else (known, old) :: insertEntry key value entries

def set (metadata : Metadata) (key : String) (value : Literal) : Metadata :=
  ⟨insertEntry key value metadata.entries⟩

/-- Set a fact to true if a condition holds. -/
def mark (metadata : Metadata) (condition : Bool) (key : String) : Metadata :=
  if condition then metadata.set key (.bool true) else metadata

/-- Take over facts; they win over known ones. -/
def setAll (metadata : Metadata) (entries : List (String × Literal)) : Metadata :=
  entries.foldl (fun metadata entry => metadata.set entry.1 entry.2) metadata

/-- The facts of a list; of entries with the same key the last one counts. -/
def ofList (entries : List (String × Literal)) : Metadata := empty.setAll entries

def get? (metadata : Metadata) (key : String) : Option Literal :=
  metadata.entries.lookup key

end Metadata

/-- The value given to a parameter of a field. -/
structure Call where
  name : String
  metadata : Metadata
  value : ArgumentValue
  deriving Repr

/-- A directive of a node. -/
structure DirectiveNode where
  name : String
  arguments : List (String × ArgumentValue)
  deriving Repr

/-- A field without the nodes below it. -/
structure FieldNode where
  alias? : Option String
  name : String
  type : String
  calls : Option (List Call)
  directives : Option (List DirectiveNode)
  metadata : Metadata
  deriving Repr

/-- A fragment without the nodes below it. -/
structure FragmentNode where
  name : String
  type : String
  id : String
  directives : Option (List DirectiveNode)
  metadata : Metadata
  deriving Repr

/-- How the selection array of a node is written. -/
inductive ArrayShape where
  | absent
  | plain
  /-- The arrays behind its references have to be put in place of them. -/
  | flattened
  deriving DecidableEq, Repr

/-- A node below another one. -/
inductive Child where
  | field (head : FieldNode) (shape : ArrayShape) (children : List Child)
  | fragment (head : FragmentNode) (shape : ArrayShape) (children : List Child)
  /-- A placeholder for the fragment in a slot. -/
  | reference (slot : String)
  deriving Inhabited, Repr

/-- The selection array of a node. -/
structure Children where
  shape : ArrayShape
  items : List Child
  deriving Repr

def Children.none : Children := ⟨.absent, []⟩

/-- A query without the nodes below it. -/
structure QueryNode where
  name : String
  type : String
  field : String
  calls : Option (List Call)
  directives : Option (List DirectiveNode)
  metadata : Metadata
  deriving Repr

/-- A mutation or a subscription without the nodes below it. -/
structure OperationNode where
  name : String
  responseType : String
  calls : Option (List Call)
  directives : Option (List DirectiveNode)
  metadata : Metadata
  deriving Repr

/-- The tree of a definition. -/
inductive Root where
  | query (head : QueryNode) (children : Children)
  | mutation (head : OperationNode) (children : Children)
  | subscription (head : OperationNode) (children : Children)
  | fragment (head : FragmentNode) (children : Children)
  /-- A fragment that is constructed at run time, with parameters to substitute. -/
  | createFragment (head : FragmentNode) (children : Children) (parameters : List String)
  deriving Repr

/-- The name of the definition a tree was made from. -/
def Root.name : Root → String
  | .query head _ => head.name
  | .mutation head _ => head.name
  | .subscription head _ => head.name
  | .fragment head _ => head.name
  | .createFragment head _ _ => head.name

namespace Children

/-- The fields of a selection array, leaving fragments and references aside. -/
def fields (children : Children) : List FieldNode :=
  children.items.filterMap fun child =>
    match child with
    | .field head _ _ => some head
    | _ => Option.none

def field? (children : Children) (name : String) : Option FieldNode :=
  children.fields.find? (·.name = name)

end Children

end QueryTree
