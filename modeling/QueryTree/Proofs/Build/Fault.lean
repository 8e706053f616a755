import QueryTree.Proofs.Build.Requisite
import QueryTree.Proofs.Build.Returns

/-!
# What can be wrong with a definition

The selection sets of a definition are visited with the types that they apply to.
On the way names are looked up in the schema, and arguments, directives and rules
are checked.  Whatever is wrong with a definition is wrong with one of these parts,
none of which is generated.
-/

namespace QueryTree

/-- The type that an operation selects its root field on. -/
def Schema.rootType? (schema : Schema) : DefinitionKind → Option SchemaType
  | .query => schema.queryType?
  | .mutation => schema.mutationType?
  | .subscription => schema.subscriptionType?
  | _ => none

/-- Whether a selection on a type opens another selection set, and on which type. -/
inductive Selection.Opens (schema : Schema) (type : SchemaType) :
    Selection → SchemaType → List Selection → Prop
  | field {head : Field} {inner : List Selection} {declared : SchemaField} :
      schema.field? type head.name = some declared →
      Opens schema type (.field head inner) declared.type inner
  | inline {head : InlineFragment} {inner : List Selection} :
      head.condition = none → Opens schema type (.inline head inner) type inner
  | condition {head : InlineFragment} {inner : List Selection} {name : String}
      {other : SchemaType} : head.condition = some name → schema.type? name = some other →
      Opens schema type (.inline head inner) other inner

/-- The node that stands for a selection, or refers to it. -/
def Selection.nodeKind : Selection → NodeKind
  | .field _ _ => .field
  | _ => .fragment

/-- The node that stands for a whole definition. -/
def DefinitionKind.nodeKind : DefinitionKind → NodeKind
  | .query => .query
  | .mutation => .mutation
  | .subscription => .subscription
  | _ => .fragment

namespace Definition

/-- The field that an operation selects on its root type. -/
def first? (definition : Definition) : Option SelectedField :=
  (Selection.fields definition.selections).head?

/-- The selection sets of a definition, each with the node it belongs to and the type
it applies to. -/
inductive Visits (schema : Schema) (definition : Definition) :
    NodeKind → SchemaType → List Selection → Prop where
  | operation {root : SchemaType} {selected : SelectedField} {declared : SchemaField}
      (isRoot : schema.rootType? definition.kind = some root)
      (isFirst : definition.first? = some selected)
      (isDeclared : schema.field? root selected.field.name = some declared) :
      Visits schema definition definition.kind.nodeKind declared.type selected.selections
  | fragment {type : SchemaType} (isFragment : definition.kind = .fragment)
      (found : schema.type? definition.condition = some type) :
      Visits schema definition .fragment type definition.selections
  | inside {kind : NodeKind} {parent type : SchemaType} {siblings inner : List Selection}
      {selection : Selection} (visited : Visits schema definition kind parent siblings)
      (member : selection ∈ siblings) (opens : selection.Opens schema parent type inner) :
      Visits schema definition selection.nodeKind type inner

/-- The fields and type conditions that are written in a definition and that the schema
lacks, as they are reported. -/
inductive Misses (schema : Schema) (definition : Definition) : Diagnostic → Prop where
  | rootField {root : SchemaType} {selected : SelectedField}
      (isRoot : schema.rootType? definition.kind = some root)
      (isFirst : definition.first? = some selected)
      (unknown : schema.field? root selected.field.name = none) :
      Misses schema definition (.atPosition (.unknownField selected.field.name root.name)
        selected.field.position)
  | condition (isFragment : definition.kind = .fragment)
      (unknown : schema.type? definition.condition = none) :
      Misses schema definition (.atPosition (.unknownType definition.condition)
        definition.position)
  | field {kind : NodeKind} {parent : SchemaType} {siblings inner : List Selection} {head : Field}
      (visited : definition.Visits schema kind parent siblings)
      (member : .field head inner ∈ siblings) (unknown : schema.field? parent head.name = none) :
      Misses schema definition (.atPosition (.unknownField head.name parent.name) head.position)
  | inline {kind : NodeKind} {parent : SchemaType} {siblings inner : List Selection}
      {head : InlineFragment} {name : String}
      (visited : definition.Visits schema kind parent siblings)
      (member : .inline head inner ∈ siblings) (isCondition : head.condition = some name)
      (unknown : schema.type? name = none) :
      Misses schema definition (.atPosition (.unknownType name) head.position)

end Definition

/-! ## Arguments, directives and rules -/

/-- What is wrong with the directives of a field or a fragment. -/
inductive Directive.Break (parameters : List String) (directives : List Directive) :
    Diagnostic → Prop where
  | nodes {found : Diagnostic} (refused : Directive.nodes parameters directives = .error found) :
      Break parameters directives found
  | facts {found : Diagnostic}
      (refused : Directive.relayFacts parameters directives = .error found) :
      Break parameters directives found

namespace Build

/-- What is wrong with a field that is declared, apart from what is selected below it. -/
inductive FieldBreaks (context : Context) (checked : Bool) (parent : SchemaType) (head : Field)
    (selections : List Selection) (declared : SchemaField) : Diagnostic → Prop where
  | rule {found : Diagnostic} (isChecked : checked = true)
      (refused : check context parent head selections declared = .error found) :
      FieldBreaks context checked parent head selections declared found
  | arguments {found : Diagnostic} (refused : calls context head declared = .error found) :
      FieldBreaks context checked parent head selections declared found
  | directives {found : Diagnostic}
      (broken : Directive.Break context.parameters head.directives found) :
      FieldBreaks context checked parent head selections declared found

/-- What is wrong with the root of an operation, apart from what is selected below it. -/
inductive OperationBreaks (context : Context) (inputArgument : String) (definition : Definition) :
    Diagnostic → Prop where
  | rootType (missing : context.schema.rootType? definition.kind = none) :
      OperationBreaks context inputArgument definition
        (.atPosition (.missingRootType definition.kind.text) definition.position)
  | rootFieldCount {found : Diagnostic} (isChecked : context.validates = true)
      (refused : Rule.rootFieldCount definition = .error found) :
      OperationBreaks context inputArgument definition found
  | rootField (none : definition.first? = none) :
      OperationBreaks context inputArgument definition
        (.atPosition (.missingRootField definition.name) definition.position)
  | arity {selected : SelectedField} {found : Diagnostic} (isQuery : definition.kind = .query)
      (isFirst : definition.first? = some selected)
      (refused : Rule.queryRootFieldArity selected.field = .error found) :
      OperationBreaks context inputArgument definition found
  | call {root : SchemaType} {selected : SelectedField} {declared : SchemaField}
      {found : Diagnostic} (isQuery : definition.kind = .query)
      (isRoot : context.schema.rootType? definition.kind = some root)
      (isFirst : definition.first? = some selected)
      (isDeclared : context.schema.field? root selected.field.name = some declared)
      (refused : queryCalls context selected.field declared = .error found) :
      OperationBreaks context inputArgument definition found
  | input {root : SchemaType} {selected : SelectedField} {declared : SchemaField}
      {found : Diagnostic} (notQuery : definition.kind ≠ .query)
      (isRoot : context.schema.rootType? definition.kind = some root)
      (isFirst : definition.first? = some selected)
      (isDeclared : context.schema.field? root selected.field.name = some declared)
      (refused : Rule.mutationField selected.field declared inputArgument = .error found) :
      OperationBreaks context inputArgument definition found
  | directives {selected : SelectedField} {found : Diagnostic}
      (isFirst : definition.first? = some selected)
      (refused : Directive.nodes context.parameters
        (definition.directives ++ selected.field.directives) = .error found) :
      OperationBreaks context inputArgument definition found

end Build

namespace Definition

/-- What the selections of a definition are built in: a fragment substitutes the
parameters that it lists. -/
def innerContext (schema : Schema) (options : BuildOptions) (definition : Definition) : Context :=
  match definition.kind, Directive.parameters definition.directives with
  | .fragment, .ok listed =>
    Build.fragmentContext (definition.context schema options) definition listed
  | _, _ => definition.context schema options

/-- What is wrong with a definition, apart from names that the schema lacks. -/
inductive Breaks (schema : Schema) (options : BuildOptions) (definition : Definition) :
    Diagnostic → Prop where
  | operation {found : Diagnostic} (isOperation : definition.kind.isOperation = true)
      (broken : Build.OperationBreaks (definition.context schema options) options.inputArgument
        definition found) : Breaks schema options definition found
  | parameters {found : Diagnostic} (isFragment : definition.kind = .fragment)
      (refused : Directive.parameters definition.directives = .error found) :
      Breaks schema options definition found
  | fragment {found : Diagnostic} (isFragment : definition.kind = .fragment)
      (broken : Directive.Break (definition.innerContext schema options).parameters
        definition.directives found) : Breaks schema options definition found
  | field {kind : NodeKind} {parent : SchemaType} {siblings inner : List Selection} {head : Field}
      {declared : SchemaField} {found : Diagnostic}
      (visited : definition.Visits schema kind parent siblings)
      (member : .field head inner ∈ siblings)
      (isDeclared : schema.field? parent head.name = some declared)
      (broken : Build.FieldBreaks (definition.innerContext schema options)
        (definition.innerContext schema options).validates parent head inner declared found) :
      Breaks schema options definition found
  | inline {kind : NodeKind} {parent : SchemaType} {siblings inner : List Selection}
      {head : InlineFragment} {found : Diagnostic}
      (visited : definition.Visits schema kind parent siblings)
      (member : .inline head inner ∈ siblings)
      (broken : Directive.Break (definition.innerContext schema options).parameters
        head.directives found) : Breaks schema options definition found
  | spread {kind : NodeKind} {parent : SchemaType} {siblings : List Selection} {head : Spread}
      {directive : Directive} (visited : definition.Visits schema kind parent siblings)
      (member : .spread head ∈ siblings) (isFirst : head.directives.head? = some directive) :
      Breaks schema options definition
        (.atPosition (.unsupportedSpreadDirective directive.name head.name) directive.position)

/-- Whether something that is written in a definition is what a build fails for. -/
inductive AtFault (schema : Schema) (options : BuildOptions) (definition : Definition) :
    BuildError → Prop where
  | misses {found : Diagnostic} (misses : definition.Misses schema found) :
      AtFault schema options definition (.diagnostic found)
  | breaks {found : Diagnostic} (breaks : definition.Breaks schema options found) :
      AtFault schema options definition (.diagnostic found)
  | kind {code : Int} (isOther : definition.kind = .other code) :
      AtFault schema options definition (.unsupportedKind (.other code))

end Definition

/-! ## Parts without faults -/

/-- Nothing is wrong with no directives. -/
theorem Directive.not_break_nil {parameters : List String} {found : Diagnostic} :
    ¬ Directive.Break parameters [] found := by
  intro broken
  cases broken with
  | nodes refused | facts refused => cases refused

/-- Nothing is wrong with a field that has neither arguments nor directives and that no
rule is checked for. -/
theorem Build.not_fieldBreaks_of_plain {context : Context} {parent : SchemaType} {head : Field}
    {selections : List Selection} {declared : SchemaField} {found : Diagnostic}
    (noArguments : head.arguments = []) (noDirectives : head.directives = []) :
    ¬ FieldBreaks context false parent head selections declared found := by
  intro broken
  cases broken with
  | rule isChecked => cases isChecked
  | arguments refused =>
    rw [calls, noArguments] at refused
    cases refused
  | directives broken =>
    rw [noDirectives] at broken
    exact Directive.not_break_nil broken

/-! ## Where nodes are -/

/-- Whether a tree can have a node of a kind and a type: a field has the type that it is
declared with. -/
structure Schema.Carries (schema : Schema) (kind : NodeKind) (type : SchemaType) : Prop where
  declares : schema.Declares type
  ofField : kind = .field → ∃ parent name declared, schema.Declares parent ∧
    schema.field? parent name = some declared ∧ declared.type = type

/-- Whether a node of some tree demands a field of its type. -/
def Schema.IsDemanded (schema : Schema) (type : SchemaType) (name : String) : Prop :=
  ∃ kind selected, schema.Carries kind type ∧ Demanded schema kind type selected name

/-- A field that the fragment on nodes selects below a node of a type. -/
structure Schema.AsksNode (schema : Schema) (type node : SchemaType) (name : String) : Prop where
  demands : DemandsNode schema type
  isNode : schema.type? nodeInterface = some node
  demanded : Demanded schema .fragment node [schema.names.id] name

/-- The fields that are generated below a generated field of a type. -/
inductive Schema.Asks (schema : Schema) (type : SchemaType) : SchemaType → String → Prop where
  | below {name : String} (demanded : Demanded schema .field type [] name) :
      Asks schema type type name
  | onNode {node : SchemaType} {name : String} (asks : schema.AsksNode type node name) :
      Asks schema type node name

namespace Definition

variable {schema : Schema} {options : BuildOptions} {definition : Definition}

theorem Visits.carries {kind : NodeKind} {type : SchemaType} {selections : List Selection}
    (visited : definition.Visits schema kind type selections) : schema.Carries kind type := by
  induction visited with
  | operation isRoot isFirst isDeclared =>
    refine ⟨Schema.declares_of_field? isDeclared, fun isField => ?_⟩
    cases isKind : definition.kind <;> rw [isKind] at isField <;> cases isField
  | fragment isFragment found => exact ⟨Schema.declares_of_type? found, nofun⟩
  | inside visited member opens ih =>
    cases opens with
    | field isDeclared =>
      exact ⟨Schema.declares_of_field? isDeclared, fun _ => ⟨_, _, _, ih.declares, isDeclared, rfl⟩⟩
    | inline => exact ⟨ih.declares, nofun⟩
    | condition isCondition found => exact ⟨Schema.declares_of_type? found, nofun⟩

@[simp] theorem innerContext_schema :
    (definition.innerContext schema options).schema = schema := by
  unfold innerContext
  split <;> rfl

theorem innerContext_of_operation (isOperation : definition.kind.isOperation = true) :
    definition.innerContext schema options = definition.context schema options := by
  unfold innerContext
  split
  next isFragment _ =>
    rw [isFragment] at isOperation
    cases isOperation
  next => rfl

theorem innerContext_of_fragment {listed : Option (List String)}
    (isFragment : definition.kind = .fragment)
    (areListed : Directive.parameters definition.directives = .ok listed) :
    definition.innerContext schema options =
      Build.fragmentContext (definition.context schema options) definition listed := by
  unfold innerContext
  rw [isFragment, areListed]

end Definition

end QueryTree
