import QueryTree.Build.Requisite
import QueryTree.Build.Value
import QueryTree.Document.Rule
import QueryTree.Text.Digest

/-!
# Selections in a tree

The selection array of a node holds the selected fields, then the requisite fields that were not
selected, then inline fragments and fragment references, and last the generated fragment on nodes.
What the author wrote is followed by recursion on it. What is generated can call for further fields
of other types; how deep that goes depends on the schema alone.
-/

namespace QueryTree

/-- What building a tree depends on. -/
structure Context where
  schema : Schema
  name : String
  /-- Whether the structural rules are checked. -/
  validates : Bool
  /-- Whether the definition is a pattern. -/
  pattern : Bool
  /-- The variables that are substituted. -/
  parameters : List String
  deriving Repr

/-- Why no tree was built. -/
inductive BuildError where
  | diagnostic (diagnostic : Diagnostic)
  /-- A definition that is neither an operation nor a fragment. -/
  | unsupportedKind (kind : DefinitionKind)
  /-- Generated fields call for generated fields without end. -/
  | unbounded
  deriving DecidableEq, Repr

/-- Building counts the fragments of the tree. -/
abbrev Build := StateT Nat (Except BuildError)

namespace Build

def lift {α : Type} (result : Except Diagnostic α) : Build α :=
  match result with
  | .ok value => pure value
  | .error found => throw (.diagnostic found)

def refuse {α : Type} (problem : Problem) (position : Position) : Build α :=
  throw (.diagnostic (.atPosition problem position))

/-- The next fragment id: a digest of the name of the definition and a running number. -/
def fragmentId (context : Context) : Build String := do
  let count := (← get) + 1
  set count
  return Text.digestText (context.name ++ ":" ++ toString count)

def bareField (name : String) : Field := ⟨none, name, [], [], .unknown⟩

/-- How a field came into the tree. -/
structure Origin where
  /-- Whether the runtime needs the field. -/
  requisite : Bool
  /-- Whether the author did not write it. -/
  generated : Bool
  /-- Whether the structural rules apply to it. -/
  checked : Bool
  deriving DecidableEq, Repr

/-- Whether a field can be paged through. -/
def isPageable (context : Context) (declared : SchemaField) : Bool :=
  context.schema.isConnection declared.type &&
    (declared.declares "first" || declared.declares "last")

def check (context : Context) (parent : SchemaType) (field : Field) (selections : List Selection)
    (declared : SchemaField) : Rule.Verdict := do
  Rule.nodeField context.schema field declared parent
  if isPageable context declared then
    Rule.connectionArguments field
    Rule.connectionSubfields context.schema field selections declared.type context.pattern

/-- The facts about a field that follow from its declaration and its origin. -/
def fieldFacts (context : Context) (declared : SchemaField) (origin : Origin) : Metadata :=
  let type := declared.type
  let pageable := isPageable context declared
  let facts := Metadata.empty.mark type.isComposite "canHaveSubselections"
  let facts := match context.schema.identifyingField? type with
    | some identifying =>
      (facts.set "inferredRootCallName" (.string "node")).set "inferredPrimaryKey"
        (.string identifying.name)
    | none => facts
  let facts := facts.mark pageable "isConnection"
  let facts := facts.mark (pageable && declared.declares "find") "isFindable"
  let facts := facts.mark type.isAbstract "isAbstract"
  let facts := facts.mark type.isList "isPlural"
  let facts := facts.mark origin.generated "isGenerated"
  facts.mark origin.requisite "isRequisite"

/-- A call with a value for a declared parameter. Its type is noted where it cannot be inferred
from the value. -/
def call (context : Context) (field : Field) (declared : SchemaField) (argument : Argument) :
    Except Diagnostic Call :=
  match declared.argument? argument.name with
  | none =>
    .error (.atPosition (.unknownArgument argument.name field.name) argument.position)
  | some parameter => do
    let type := parameter.type
    let facts :=
      if type.isEnum || type.isInputObject || type.isCustomScalar then
        Metadata.empty.set "type" (.string type.text)
      else .empty
    return ⟨argument.name, facts, ← argument.value.argument context.parameters⟩

/-- The calls of a field, or nothing if it has no arguments. -/
def calls (context : Context) (field : Field) (declared : SchemaField) :
    Except Diagnostic (Option (List Call)) :=
  match field.arguments with
  | [] => .ok none
  | arguments => return some (← arguments.mapM (call context field declared))

/-- A field as a node. The nodes below it are built from its declaration, after the structural
rules and before its arguments and directives. -/
def field (context : Context) (parent : SchemaType) (head : Field) (selections : List Selection)
    (origin : Origin) (below : SchemaField → Build Children) : Build Child := do
  match context.schema.field? parent head.name with
  | none => refuse (.unknownField head.name parent.name) head.position
  | some declared =>
    if origin.checked then
      lift (check context parent head selections declared)
    let children ← below declared
    let calls ← lift (calls context head declared)
    let directives ← lift (Directive.nodes context.parameters head.directives)
    let facts ← lift (Directive.relayFacts context.parameters head.directives)
    let metadata := (fieldFacts context declared origin).setAll facts
    return .field ⟨head.alias?, head.name, declared.type.name, calls, directives, metadata⟩
      children.shape children.items

def fragment (context : Context) (type : SchemaType) (directives : List Directive)
    (below : Build Children) : Build (FragmentNode × Children) := do
  let id ← fragmentId context
  let children ← below
  let facts ← lift (Directive.relayFacts context.parameters directives)
  let printed ← lift (Directive.nodes context.parameters directives)
  let metadata := (Metadata.empty.mark type.isAbstract "isAbstract").setAll facts
  return (⟨context.name, type.name, id, printed, metadata⟩, children)

def innerFragment (context : Context) (type : SchemaType) (directives : List Directive)
    (below : Build Children) : Build Child := do
  let (head, children) ← fragment context type directives below
  return .fragment head children.shape children.items

/-- How a generated field of a type is built. -/
abbrev Generator := SchemaType → String → Origin → Build Child

def generatedOrigin : Origin := ⟨true, true, false⟩

def missing (required selected : List String) : List String :=
  required.filter (!selected.contains ·)

/-- Whether a selection set refers to a fragment by name. -/
def hasSpread (selections : List Selection) : Bool :=
  selections.any fun selection =>
    match selection with
    | .spread _ => true
    | _ => false

/-- A selection array: from the generated fragment on nodes, the fragments and the fields of a
selection set. -/
def arrayOf (flattened : Bool) (fields fragments : List Child) : Children :=
  match fields ++ fragments with
  | [] => .none
  | items => ⟨if flattened then .flattened else .plain, items⟩

/-- The generated fragment that selects the id of nodes. -/
def nodeFragment (context : Context) (generate : Generator) (node : SchemaType) : Build Child :=
  innerFragment context node [] do
    let id := context.schema.names.id
    let requisites := context.schema.requisites node [.field (bareField id) []]
    let required := context.schema.required node requisites [id]
    let selected ← generate node id ⟨required.contains id, false, false⟩
    let others ← (missing required [id]).mapM (generate node · generatedOrigin)
    return arrayOf false (selected :: others) []

/-- The generated fragment on nodes, if one is required. -/
def nodeFragments (context : Context) (generate : Generator) (requisites : Requisites) :
    Build (List Child) :=
  match requisites.nodeFragment with
  | none => pure []
  | some node => return [← nodeFragment context generate node]

/-- A requisite field with all that it requires in turn, down to a depth. -/
def requisiteField (context : Context) : Nat → Generator
  | 0, _, _, _ => throw .unbounded
  | depth + 1, parent, name, origin =>
    field context parent (bareField name) [] origin fun declared => do
      let generate := requisiteField context depth
      let requisites := context.schema.fieldRequisites declared.type []
      let fragments ← nodeFragments context generate requisites
      let required := context.schema.required declared.type requisites []
      let fields ← required.mapM (generate declared.type · generatedOrigin)
      return arrayOf false fields fragments

/-- How deep generated fields go if the types of a chain of them differ. -/
def depth (schema : Schema) : Nat := schema.types.length + 1

def generator (context : Context) : Generator := requisiteField context (depth context.schema)

/-- The type that an inline fragment applies to: the enclosing one unless it has a condition. -/
def conditionType (context : Context) (parent : SchemaType) (head : InlineFragment) :
    Build SchemaType :=
  match head.condition with
  | none => pure parent
  | some name =>
    match context.schema.type? name with
    | some type => pure type
    | none => refuse (.unknownType name) head.position

/-- A reference to the slot of a spread, which must have no directives any more. -/
def reference (head : Spread) : Build Child :=
  match head.directives with
  | [] => pure (.reference head.name)
  | directive :: _ =>
    refuse (.unsupportedSpreadDirective directive.name head.name) directive.position

/-- The selection array of a selection set, from the builds of its fragments and its fields. Fields
are built last, from the names of those that are required. -/
def selectionSet (context : Context) (type : SchemaType) (requisites : Requisites)
    (selections : List Selection) (fragments : Build (List Child))
    (fields : List String → Build (List Child)) : Build Children := do
  let fragments ← fragments
  let generated ← nodeFragments context (generator context) requisites
  let selected := (Selection.fields selections).map (·.field.name)
  let required := context.schema.required type requisites selected
  let fields ← fields required
  let others ← (missing required selected).mapM (generator context type · generatedOrigin)
  return arrayOf (hasSpread selections) (fields ++ others) (fragments ++ generated)

mutual

/-- The fragments and references of a selection set on a type, in their order. -/
def fragments (context : Context) (parent : SchemaType) : List Selection → Build (List Child)
  | [] => pure []
  | selection :: selections => do
    let first ← fragmentOf context parent selection
    let others ← fragments context parent selections
    return first ++ others

def fragmentOf (context : Context) (parent : SchemaType) : Selection → Build (List Child)
  | .field _ _ => pure []
  | .spread head => return [← reference head]
  | .inline head inner => do
    let type ← conditionType context parent head
    let child ← innerFragment context type head.directives
      (selectionSet context type (context.schema.requisites type inner) inner
        (fragments context type inner) (fields context type inner))
    return [child]

/-- The fields of a selection set on a type, in their order. -/
def fields (context : Context) (parent : SchemaType) :
    List Selection → List String → Build (List Child)
  | [], _ => pure []
  | selection :: selections, required => do
    let first ← fieldOf context parent selection required
    let others ← fields context parent selections required
    return first ++ others

def fieldOf (context : Context) (parent : SchemaType) :
    Selection → List String → Build (List Child)
  | .field head inner, required => do
    let origin := ⟨required.contains head.name, false, context.validates⟩
    let child ← field context parent head inner origin fun declared =>
      let type := declared.type
      selectionSet context type (context.schema.fieldRequisites type inner) inner
        (fragments context type inner) (fields context type inner)
    return [child]
  | _, _ => pure []

end

def children (context : Context) (type : SchemaType) (requisites : Requisites)
    (selections : List Selection) : Build Children :=
  selectionSet context type requisites selections (fragments context type selections)
    (fields context type selections)

end Build

end QueryTree
