import QueryTree.Artifact.Format
import QueryTree.Text.CamelCase
import QueryTree.Text.Quoted

/-!
# Source files that embed artifacts

Artifacts are embedded into a Go program as a source file. Each of them becomes two constants, with
its tree and its formal arguments, and a constructor that returns the document made of them. The
identifiers follow from the name of the definition; two definitions must not have the same
constructor.
-/

namespace QueryTree.Embedding

def constructorName (definition : String) : String := Text.upperCamel definition

def nodeConstant (definition : String) : String := Text.lowerCamel definition ++ "Node"

def argumentsConstant (definition : String) : String :=
  Text.lowerCamel definition ++ "ArgumentDefinitions"

/-- The `index`-th choice for the name of a local variable: a number follows from the second one
on. -/
def candidate (base : String) (index : Nat) : String :=
  if index = 0 then base else base ++ toString (index + 1)

/-- The first choice that is not taken. There is one among the first `taken.length + 1`. -/
def freshName (base : String) (taken : List String) : String :=
  ((List.range (taken.length + 1)).map (candidate base)).find? (!taken.contains ·) |>.getD base

/-- The local variable for a slot, other than those that are taken. -/
def slotVariable (slot : String) (taken : List String) : String :=
  freshName (Text.lowerCamel slot ++ "Slot") taken

/-- The local variables for slots in their order, after those that are taken. -/
def slotVariables (taken : List String) : List String → List String
  | [] => []
  | slot :: slots =>
    let name := slotVariable slot taken
    name :: slotVariables (name :: taken) slots

def line (level : Nat) (text : String) : String :=
  String.ofList (List.replicate level '\t') ++ text ++ "\n"

/-- A text, filled with blanks up to a width. -/
def padded (width : Nat) (text : String) : String :=
  text ++ String.ofList (List.replicate (width - text.length) ' ')

/-- Keys with values in a block, the values aligned after the longest key. -/
def alignedFields (level : Nat) (fields : List (String × String)) : String :=
  let width := (fields.map (·.1.length)).foldl max 0 + 1
  String.join (fields.map fun (key, value) =>
    line level (padded width (key ++ ":") ++ " " ++ value ++ ","))

def rawMessage (expression : String) : String := "json.RawMessage(" ++ expression ++ ")"

/-- A field that is only present if a condition holds. -/
def fieldIf (condition : Bool) (key value : String) : List (String × String) :=
  if condition then [(key, value)] else []

/-- The fields of an initializer, by sorted keys. -/
def initializerFields (initializer : Initializer) :
    Except Failure (List (String × String)) := do
  let quoted := Text.quoted
  let place := initializer.place
  let last := [("Module", quoted place.module), ("Property", quoted place.property),
    ("Slot", quoted initializer.slot)]
  let kind := ("Kind", quoted initializer.kind)
  match initializer.access with
  | .lookup checkContainer arguments =>
    let arguments ← match arguments with
      | none => pure []
      | some value => do
        let text := (← Artifact.orFail (do (← value.json).limited)).compact
        pure [("Arguments", rawMessage (quoted text))]
    return arguments ++ fieldIf checkContainer "CheckContainer" "true" ++ [kind] ++ last
  | .content localProperty =>
    return [kind] ++ fieldIf localProperty "LocalProperty" "true" ++ last

def initializerText (initializer : Initializer) (name : String) : Except Failure String := do
  let fields ← initializerFields initializer
  return line 1 (name ++ " := &cqir.SlotInitializer\x7b") ++ alignedFields 2 fields ++ line 1 "\x7d"

/-- The fields of a document, by sorted keys. -/
def documentFields (artifact : Artifact) (slots : List String) : List (String × String) :=
  [("ArgumentDefinitions", rawMessage (argumentsConstant artifact.name)),
    ("Kind", Text.quoted artifact.kind), ("Name", Text.quoted artifact.name),
    ("Node", rawMessage (nodeConstant artifact.name))] ++
  (match artifact.operation with
    | some operation => [("Operation", Text.quoted operation)]
    | none => []) ++
  fieldIf (!slots.isEmpty) "Substitutions"
    ("[]*cqir.SlotInitializer\x7b" ++ ", ".intercalate slots ++ "\x7d")

def constantsText (artifact : Artifact) : Except Failure String := do
  let node := (← Artifact.orFail (do (← artifact.node.json).limited)).compact
  let arguments :=
    (← Artifact.orFail (ArgumentDefinition.limitedJsonAll artifact.arguments)).compact
  let nodeName := nodeConstant artifact.name
  let argumentsName := argumentsConstant artifact.name
  let width := max nodeName.length argumentsName.length
  return line 0 "const (" ++
    line 1 (padded width nodeName ++ " = " ++ Text.quoted node) ++
    line 1 (padded width argumentsName ++ " = " ++ Text.quoted arguments) ++ line 0 ")"

def constructorText (artifact : Artifact) : Except Failure String := do
  let name := constructorName artifact.name
  let slots := slotVariables [] (artifact.substitutions.map (·.slot))
  let initializers ← (artifact.substitutions.zip slots).mapM fun (initializer, slot) =>
    initializerText initializer slot
  let kind := artifact.operation.getD "fragment"
  return line 0 ("// " ++ name ++ " returns the compiled " ++ kind ++ " " ++ artifact.name) ++
    line 0 ("func " ++ name ++ "() *cqir.Document \x7b") ++ String.join initializers ++
    line 1 "return &cqir.Document\x7b" ++ alignedFields 2 (documentFields artifact slots) ++
    line 1 "\x7d" ++ line 0 "\x7d"

def artifactText (artifact : Artifact) : Except Failure String := do
  let constants ← constantsText artifact
  let constructor ← constructorText artifact
  return "\n" ++ constants ++ "\n" ++ constructor

/-- The parts of a file for artifacts, none of which may have a constructor that is already taken
by a definition. -/
def artifactTexts (taken : List (String × String)) :
    List Artifact → Except Failure (List String)
  | [] => .ok []
  | artifact :: artifacts => do
    let name := constructorName artifact.name
    match taken.lookup name with
    | some previous =>
      throw (.ofMessage ("codegen: definitions " ++ previous ++ " and " ++ artifact.name ++
        " both generate " ++ name))
    | none =>
      let first ← artifactText artifact
      let others ← artifactTexts ((name, artifact.name) :: taken) artifacts
      return first :: others

def imports : String :=
  "\n" ++ line 0 "import (" ++ line 1 "\"encoding/json\"" ++
    line 1 "cqir \"github.com/wundergraph/cqir/pkg/cqir\"" ++ line 0 ")"

/-- The source file of a package that embeds artifacts. -/
def file (package : String) (artifacts : List Artifact) : Except Failure String := do
  let parts ← artifactTexts [] artifacts
  let header := "// Code generated by cqir. DO NOT EDIT.\n\npackage " ++ package ++ "\n"
  return header ++ (if parts.isEmpty then "" else imports) ++ String.join parts

end QueryTree.Embedding
