import QueryTree.Proofs.Build.Selected
import QueryTree.Proofs.Build.Supplied
import QueryTree.Proofs.Node.Values

/-!
# Every node of a tree is supplied

Whatever a definition selects, each node of its tree has the fields that the
runtime demands of it, and no field was generated that is not demanded.
-/

namespace QueryTree

variable {schema : Schema} {kind : NodeKind}

/-! ## Selection sets -/

namespace Build

variable {context : Context} {snake : Bool}
variable {shape : ArrayShape} {written selections : List Selection} {requisites : Requisites}
variable {type : SchemaType} {definition : Definition} {inputArgument : String}

theorem allSupplied_field {head : FieldNode} {children : List Child}
    (supplied : ∀ site ∈ Site.sites ⟨.field, head.type, written, children⟩,
      site.IsSupplied schema) : (Child.field head shape children).AllSupplied schema written := by
  intro site member
  rw [Child.sites] at member
  exact supplied site member

theorem allSupplied_fragment {head : FragmentNode} {children : List Child}
    (supplied : ∀ site ∈ Site.sites ⟨.fragment, head.type, written, children⟩,
      site.IsSupplied schema) :
    (Child.fragment head shape children).AllSupplied schema written := by
  intro site member
  rw [Child.sites] at member
  exact supplied site member

/-- The fields of the generated fragment on nodes are those that it demands. -/
theorem missing_required_node {node : SchemaType}
    (convention : schema.names = .ofConvention snake)
    (has : schema.hasField node schema.names.id = true) (selections : List Selection) :
    missing (schema.required node (schema.requisites node []) []) [] = schema.names.id ::
      missing (schema.required node (schema.requisites node selections) [schema.names.id])
        [schema.names.id] := by
  have apart : schema.names.id ≠ schema.names.edges ∧ typeNameField ≠ schema.names.id := by
    rw [convention]
    cases snake <;> decide
  have identity (selections : List Selection) :
      schema.identity node selections = ⟨[schema.names.id], none⟩ := if_pos has
  cases isAbstract : node.isAbstract with
  | false =>
    simp [missing, Schema.required, Schema.requisites, identity, Requisites.addIf, isAbstract,
      apart.1.symm]
  | true =>
    simp [missing, Schema.required, Schema.requisites, identity, Requisites.addIf,
      Requisites.add, isAbstract, apart.1.symm, apart.2]

/-- Whether a tree stands for a fragment or a spread.  One that was generated stands for the
fragment on nodes, though nothing was written below it. -/
def CountsAs (schema : Schema) (selection : Selection) (child : Child) : Prop :=
  child.StandsForFragment schema selection ∧
    (selection = schema.nodeSelection → ∀ node, schema.type? nodeInterface = some node →
      schema.hasField node schema.names.id = true → child.AllSupplied schema [])

variable (convention : context.schema.names = .ofConvention snake)

theorem generatedFor_of_bare {names : List String} {nodes : List Child}
    (stand : List.Forall₂ (Child.StandsFor schema) (names.map .bare) nodes) :
    List.Forall₂ (Child.GeneratedFor schema) names nodes :=
  (List.forall₂_map_left_iff.mp stand).imp fun _ _ => id

/-- A node is supplied, and so is all below it, if its array was put together from supplied
nodes. -/
theorem Assembled.supplied (convention : schema.names = .ofConvention snake) {children : Children}
    (declares : schema.Declares type) (fit : requisites.Fit schema kind type selections)
    (assembled : Assembled schema (Child.StandsFor schema) (CountsAs schema) type requisites
      selections children) :
    ∀ site ∈ Site.sites ⟨kind, type.name, selections, children.items⟩,
      site.IsSupplied schema := by
  cases assembled with
  | @intro fields others written generated areFields areOthers areWritten areGenerated =>
    rw [arrayOf_items]
    have built : Built schema type requisites selections fields others written generated := by
      refine ⟨areFields, generatedFor_of_bare areOthers, areWritten.imp fun _ _ => And.left, ?_⟩
      cases found : requisites.nodeFragment with
      | none =>
        rw [found] at areGenerated
        cases areGenerated
        exact .nil
      | some node =>
        obtain ⟨_, isNode, has⟩ := fit.node node found
        rw [found] at areGenerated
        refine (List.forall₂_map_left_iff.mp areGenerated).imp fun _ _ stands => ?_
        exact ⟨stands.1.onNode (by simp [Schema.nodeSelection, Selection.isOnNode]),
          stands.2 rfl node isNode has⟩
    exact built.supplied convention declares fit

include convention

/-- All fields of the fragment on nodes count as generated. -/
theorem nodeSelection_allSupplied {node : FragmentNode} {children : Children}
    (named : node.type = type.name) (declares : context.schema.Declares type)
    (has : context.schema.hasField type context.schema.names.id = true)
    (assembled : Assembled context.schema (Child.StandsFor context.schema)
      (CountsAs context.schema) type
      (context.schema.requisites type [.field (bareField context.schema.names.id) []])
      [.field (bareField context.schema.names.id) []] children) :
    (Child.fragment node children.shape children.items).AllSupplied context.schema [] := by
  have noFragment (selections : List Selection) :
      (context.schema.requisites type selections).nodeFragment = none := by
    rw [Schema.requisites, Requisites.nodeFragment_addIf, Schema.identity, if_pos has]
  have fit : (context.schema.requisites type []).Fit context.schema .fragment type [] :=
    Schema.fit_requisites [] (by simp) rfl
  cases assembled with
  | @intro fields others written generated areFields areOthers areWritten areGenerated =>
    rw [noFragment] at areGenerated
    cases areWritten
    cases areGenerated
    have ofId : List.Forall₂ (Child.GeneratedFor context.schema) [context.schema.names.id]
        fields := generatedFor_of_bare areFields
    have built : Built context.schema type (context.schema.requisites type []) [] []
        (fields ++ others) [] [] := by
      refine ⟨.nil, ?_, .nil, ?_⟩
      · show List.Forall₂ _ (missing (context.schema.required type _ []) []) _
        rw [missing_required_node convention has]
        exact List.rel_append ofId (generatedFor_of_bare areOthers)
      · rw [noFragment]
        exact .nil
    have supplied := built.supplied convention declares fit
    refine allSupplied_fragment ?_
    rw [arrayOf_items, named]
    exact supplied

theorem standsFor_represents :
    Represents context (fun _ => Child.StandsFor context.schema)
      (fun _ => CountsAs context.schema) where
  field := by
    intro parent selected origin below child parts assembled
    rw [parts.isChild]
    exact ⟨rfl, allSupplied_field (assembled.supplied convention
      (Schema.declares_of_field? parts.found) (Schema.fit_fieldRequisites _))⟩
  inline := by
    intro parent type head inner below node children parts opens declares assembled
    have named : node.type = type.name := by rw [parts.isNode]
    refine ⟨⟨rfl, allSupplied_fragment ?_, fun onNode => ?_⟩, fun isNodeSelection => ?_⟩
    · rw [named]
      exact assembled.supplied convention declares (Schema.fit_requisites inner (by simp) rfl)
    · cases opens with
      | inline isNone =>
        have isSome := of_decide_eq_true onNode
        rw [isNone] at isSome
        cases isSome
      | condition isCondition found =>
        cases isCondition.symm.trans (of_decide_eq_true onNode)
        exact ⟨node, _, _, rfl, named.trans (Schema.name_of_type? found)⟩
    · cases isNodeSelection
      cases opens with
      | inline isNone => cases isNone
      | condition isCondition found =>
        cases isCondition
        intro interface isInterface has
        cases found.symm.trans isInterface
        exact nodeSelection_allSupplied convention named declares has assembled
  reference := by
    intro parent head
    refine ⟨⟨rfl, fun site member => ?_, fun onNode => ?_⟩, fun isNodeSelection => ?_⟩
    · simp [Child.sites] at member
    · cases onNode
    · cases isNodeSelection

theorem children_supplied {children : Children} (declares : context.schema.Declares type)
    (fit : requisites.Fit context.schema kind type selections)
    (returns : Returns (Build.children context type requisites selections) children) :
    ∀ site ∈ Site.sites ⟨kind, type.name, selections, children.items⟩,
      site.IsSupplied context.schema :=
  ((standsFor_represents convention).children declares fit returns).supplied convention declares
    fit

/-! ## Definitions -/

/-- The array of a tree, with the context that it was built in and the type of the root. -/
structure RootBelow (context : Context) (definition : Definition) (root : Root) where
  own : Context
  kind : NodeKind
  type : SchemaType
  requisites : Requisites
  sameSchema : own.schema = context.schema
  parameters : own.parameters = context.parameters ++ root.parameters?.getD []
  declares : own.schema.Declares type
  fit : requisites.Fit own.schema kind type definition.printed
  returns : Returns (children own type requisites definition.printed) root.children
  site : root.site definition = ⟨kind, type.name, definition.printed, root.children.items⟩
  hasRoot : definition.kind ≠ .fragment →
    (Selection.fields definition.selections).head?.isSome = true

omit convention in
theorem printed_of_head {selected : SelectedField} (isOperation : definition.kind ≠ .fragment)
    (isSelected : (Selection.fields definition.selections).head? = some selected) :
    definition.printed = selected.selections ∧ definition.rootSelections = selected.selections := by
  rw [Definition.printed, if_neg isOperation, Definition.rootSelections, isSelected]
  exact ⟨rfl, rfl⟩

omit convention in
theorem operation_below {kind : NodeKind} {clientId : String} {head : OperationNode}
    {below : Children} {root : Root} (isOperation : definition.kind ≠ .fragment)
    (isClientId : kind.clientId? context.schema.names = some clientId)
    (parts : OperationParts context inputArgument type clientId definition head below)
    (noParameters : root.parameters? = none) (isBelow : root.children = below)
    (site : root.site definition =
      ⟨kind, head.responseType, definition.rootSelections, below.items⟩) :
    Nonempty (RootBelow context definition root) := by
  obtain ⟨printed, selected⟩ := printed_of_head isOperation parts.isSelected
  have typed : head.responseType = parts.declared.type.name :=
    congrArg OperationNode.responseType parts.isHead
  refine ⟨context, kind, parts.declared.type, _, rfl, ?_, Schema.declares_of_field? parts.found,
    printed ▸ Schema.fit_operation parts.selected.selections isClientId, ?_, ?_,
    fun _ => parts.isSelected ▸ rfl⟩
  · rw [noParameters, Option.getD_none, List.append_nil]
  · rw [printed, isBelow]
    exact parts.isBelow
  · rw [site, printed, selected, isBelow, typed]

omit convention in
theorem root_below {root : Root}
    (returns : Returns (Build.root context inputArgument definition) root) :
    Nonempty (RootBelow context definition root) := by
  cases root_parts returns with
  | query isKind parts =>
    obtain ⟨printed, selected⟩ := printed_of_head (by rw [isKind]; decide) parts.isSelected
    rw [parts.isRoot]
    refine ⟨context, .query, parts.declared.type, _, rfl, ?_,
      Schema.declares_of_field? parts.found,
      printed ▸ Schema.fit_requisites parts.selected.selections (by simp) rfl,
      printed ▸ parts.isBelow, ?_, fun _ => parts.isSelected ▸ rfl⟩
    · exact (List.append_nil _).symm
    · rw [Root.site, printed, selected]
      rfl
  | mutation isKind _ parts isRoot | subscription isKind _ parts isRoot =>
    rw [isRoot]
    exact operation_below (by rw [isKind]; decide) rfl parts rfl rfl rfl
  | fragment isKind parts =>
    obtain ⟨isBelow, named⟩ := fragment_returns parts.isFragment
    have printed : definition.printed = definition.selections := if_pos isKind
    have children : (fragmentTree parts.head parts.children parts.listed).children =
        parts.children := by
      cases parts.listed <;> rfl
    rw [parts.isRoot]
    refine ⟨fragmentContext context definition parts.listed, .fragment, parts.type, _, rfl, ?_,
      Schema.declares_of_type? parts.isType,
      printed ▸ Schema.fit_requisites definition.selections (by simp) rfl, ?_, ?_,
      fun notFragment => (notFragment isKind).elim⟩
    · cases parts.listed <;> rfl
    · rw [printed, children]
      exact isBelow
    · rw [printed, children, ← named]
      cases parts.listed <;> rfl

theorem root_supplied {root : Root}
    (returns : Returns (Build.root context inputArgument definition) root) :
    ∀ site ∈ root.sites definition, site.IsSupplied context.schema := by
  obtain ⟨below⟩ := root_below returns
  rw [Root.sites, below.site, ← below.sameSchema]
  exact children_supplied (below.sameSchema ▸ convention) below.declares below.fit below.returns

end Build

/-- Every node of the tree of a definition has the fields that its kind and its
type demand, and every field that was generated for it is one of those. -/
theorem Definition.build_supplied {schema : Schema} {snake : Bool} {options : BuildOptions}
    {definition : Definition} {root : Root} (convention : schema.names = .ofConvention snake)
    (built : definition.build schema options = .ok root) :
    ∀ site ∈ root.sites definition, site.IsSupplied schema :=
  Build.root_supplied convention (Definition.returns_of_build built)

/-! ## A query through a connection -/

namespace Sample

/-- A field without parameters. -/
def plainField (name : String) (type : TypeRef) : FieldDeclaration :=
  ⟨name, [], type, none, [], "", .unknown⟩

/-- A reference that allows for null. -/
def optional (name : String) : TypeRef := .named name false .unknown

/-- Pages of a feed whose items are people, who are nodes, or tags, which are not. -/
def feedSchema : Schema where
  types :=
    [⟨.object, "Query", [], [], [plainField "feed" (optional "FeedConnection")], [], [], "", false,
        .unknown⟩,
      ⟨.object, "FeedConnection", [], [],
        [plainField "edges" (.list (optional "FeedEdge") false .unknown),
          plainField "pageInfo" (optional "PageInfo")], [], [], "", false, .unknown⟩,
      ⟨.object, "FeedEdge", [], [],
        [plainField "cursor" (optional "String"), plainField "node" (optional "Item")], [], [], "",
        false, .unknown⟩,
      ⟨.object, "PageInfo", [], [],
        [plainField "hasNextPage" (optional "Boolean"),
          plainField "hasPreviousPage" (optional "Boolean")], [], [], "", false, .unknown⟩,
      ⟨.union, "Item", [], [], [], ["Person", "Tag"], [], "", false, .unknown⟩,
      ⟨.interface, "Node", [], [], [plainField "id" (optional "ID")], [], [], "", false, .unknown⟩,
      ⟨.object, "Person", ["Node"], [], [plainField "id" (optional "ID")], [], [], "", false,
        .unknown⟩,
      ⟨.object, "Tag", [], [], [plainField "text" (optional "String")], [], [], "", false,
        .unknown⟩,
      ⟨.scalar, "ID", [], [], [], [], [], "", true, .unknown⟩,
      ⟨.scalar, "String", [], [], [], [], [], "", true, .unknown⟩,
      ⟨.scalar, "Boolean", [], [], [], [], [], "", true, .unknown⟩]
  directives := []
  query := some "Query"
  mutation := none
  subscription := none
  names := .camelCase

/-- A query for the texts of the tags in the feed. -/
def feedQuery : Definition where
  kind := .query
  name := "Feed"
  condition := ""
  variableDefinitions := []
  directives := []
  selections :=
    [.field (Build.bareField "feed") [.field (Build.bareField "edges") [.field
      (Build.bareField "node") [.inline ⟨some "Tag", [], .unknown⟩
        [.field (Build.bareField "text") []]]]]]
  position := .unknown

end Sample

/-- The edges of the feed call for its page info, and the items, which may be
nodes, for a fragment on nodes. -/
theorem Definition.feedQuery_supplied :
    ∃ root, Sample.feedQuery.build Sample.feedSchema ⟨defaultInputArgument, false, []⟩ =
        .ok root ∧ (root.sites Sample.feedQuery).length = 13 ∧
      ∀ site ∈ root.sites Sample.feedQuery, site.IsSupplied Sample.feedSchema := by
  have counted : (Sample.feedQuery.build Sample.feedSchema
      ⟨defaultInputArgument, false, []⟩).toOption.map
        (fun root => (root.sites Sample.feedQuery).length) = some 13 := by decide +kernel
  cases built : Sample.feedQuery.build Sample.feedSchema ⟨defaultInputArgument, false, []⟩ with
  | error found =>
    rw [built] at counted
    cases counted
  | ok root =>
    rw [built] at counted
    have convention : Sample.feedSchema.names = .ofConvention false := rfl
    exact ⟨root, rfl, Option.some.inj counted, Definition.build_supplied convention built⟩

end QueryTree
