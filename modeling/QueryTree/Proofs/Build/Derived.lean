import QueryTree.Proofs.Build.Inherited
import QueryTree.Proofs.Build.Repeated
import QueryTree.Proofs.Build.Value

/-!
# Where the values of a tree come from

Every value in a tree was written in its definition, or it is a constant text or
truth value.  What was written keeps its variables from left to right, and a
variable is a substitution if it is among the parameters.
-/

namespace QueryTree

/-! ## Variables of literals and arguments -/

/-- A variable with whether it is substituted. -/
def useOf (parameters : List String) (name : String) : String × Bool :=
  (name, parameters.contains name)

theorem Literal.variableUses_ofVariable (parameters : List String) (name : String) :
    (ofVariable parameters name).variableUses = [useOf parameters name] := by
  unfold ofVariable useOf
  cases parameters.contains name <;> rfl

theorem ArgumentValue.variableUses_ofVariable (parameters : List String) (name : String) :
    (ofVariable parameters name).variableUses = [useOf parameters name] := by
  unfold ofVariable useOf
  cases parameters.contains name <;> rfl

theorem Literal.usesOfItems_eq_flatMap (items : List Literal) :
    usesOfItems items = items.flatMap variableUses :=
  eq_flatMap_of_cons rfl fun _ _ => rfl

theorem Literal.usesOfFields_eq_flatMap (fields : List (String × Literal)) :
    usesOfFields fields = fields.flatMap fun field => field.2.variableUses :=
  eq_flatMap_of_cons rfl fun _ _ => rfl

theorem ArgumentValue.usesOfItems_eq_flatMap (items : List ArgumentValue) :
    usesOfItems items = items.flatMap variableUses :=
  eq_flatMap_of_cons rfl fun _ _ => rfl

namespace Value

variable {parameters : List String} {value : Value}

theorem ofNumber_eq_ok {raw : String} {position : Position} {literal : Literal}
    (made : Literal.ofNumber raw position = .ok literal) : literal = .number raw := by
  unfold Literal.ofNumber at made
  split at made
  · cases made
    rfl
  · cases made

/-- A literal has the variables of its value, in their order. -/
theorem literal_variableUses {literal : Literal} (made : value.literal parameters = .ok literal) :
    literal.variableUses = value.variableNames.map (useOf parameters) := by
  induction value using Value.induction generalizing literal with
  | ofVariable name position =>
    cases made
    rw [Literal.variableUses_ofVariable, variableNames, List.map_singleton]
  | int raw position | float raw position =>
    rw [ofNumber_eq_ok made, Literal.variableUses, variableNames]
    all_goals simp
  | string | boolean | null | enum =>
    cases made
    rw [Literal.variableUses, variableNames]
    all_goals simp
  | list values position ih =>
    rw [Value.literal, literals_eq_mapM] at made
    obtain ⟨items, areItems, made⟩ := exists_of_bind_eq_ok made
    cases made
    rw [Literal.variableUses, Literal.usesOfItems_eq_flatMap, variableNames,
      namesOfList_eq_flatMap, List.map_flatMap]
    exact flatMap_of_mapM_eq_ok areItems fun value member item isItem => ih value member isItem
  | object fields position ih =>
    rw [Value.literal, literalFields_eq_mapM] at made
    obtain ⟨entries, areEntries, made⟩ := exists_of_bind_eq_ok made
    cases made
    rw [Literal.variableUses, Literal.usesOfFields_eq_flatMap, variableNames,
      namesOfFields_eq_flatMap, List.map_flatMap]
    apply flatMap_of_mapM_eq_ok areEntries
    intro field member entry isEntry
    obtain ⟨literal, isLiteral, isEntry⟩ := exists_of_bind_eq_ok isEntry
    cases isEntry
    exact ih field member isLiteral

/-- An argument has the variables of its value, in their order. -/
theorem argument_variableUses {argument : ArgumentValue}
    (made : value.argument parameters = .ok argument) :
    argument.variableUses = value.variableNames.map (useOf parameters) := by
  induction value using Value.induction generalizing argument with
  | ofVariable name position =>
    cases made
    rw [ArgumentValue.variableUses_ofVariable, variableNames, List.map_singleton]
  | list values position ih =>
    rw [Value.argument, argumentItems_eq_mapM] at made
    obtain ⟨items, areItems, made⟩ := exists_of_bind_eq_ok made
    cases made
    rw [ArgumentValue.variableUses, ArgumentValue.usesOfItems_eq_flatMap, variableNames,
      namesOfList_eq_flatMap, List.map_flatMap]
    exact flatMap_of_mapM_eq_ok areItems fun value member item isItem => ih value member isItem
  | int | float | string | boolean | null | enum | object =>
    rw [Value.argument] at made
    · obtain ⟨literal, isLiteral, made⟩ := exists_of_bind_eq_ok made
      cases made
      rw [ArgumentValue.variableUses, literal_variableUses isLiteral]
    all_goals simp

end Value

/-! ## Derived values -/

namespace ArgumentValue

/-- Whether a value is a constant text or truth value, or comes from a value that
was written. -/
inductive Derived (parameters : List String) (written : Value → Prop) : ArgumentValue → Prop where
  | text (text : String) : Derived parameters written (.literal (.string text))
  | truth (value : Bool) : Derived parameters written (.literal (.bool value))
  | argument {value : Value} {argument : ArgumentValue} (isWritten : written value)
      (made : value.argument parameters = .ok argument) : Derived parameters written argument
  | fact {value : Value} {literal : Literal} (isWritten : written value)
      (made : value.literal parameters = .ok literal) :
      Derived parameters written (.literal literal)

variable {parameters : List String} {written : Value → Prop} {argument : ArgumentValue}

theorem Derived.weaken {allowed : Value → Prop} (derived : argument.Derived parameters written)
    (weaker : ∀ value, written value → allowed value) : argument.Derived parameters allowed := by
  cases derived with
  | text text => exact .text text
  | truth value => exact .truth value
  | argument isWritten made => exact .argument (weaker _ isWritten) made
  | fact isWritten made => exact .fact (weaker _ isWritten) made

/-- The variables of a derived value were written, and they are substitutions if
they are among the parameters. -/
theorem Derived.mem_variableUses (derived : argument.Derived parameters written)
    {use : String × Bool} (member : use ∈ argument.variableUses) :
    use.2 = parameters.contains use.1 ∧ ∃ value, written value ∧ use.1 ∈ value.variableNames := by
  have mem_map : ∀ {value : Value}, written value →
      use ∈ value.variableNames.map (useOf parameters) →
        use.2 = parameters.contains use.1 ∧
          ∃ value, written value ∧ use.1 ∈ value.variableNames := by
    intro value isWritten inNames
    obtain ⟨name, isName, rfl⟩ := List.mem_map.mp inNames
    exact ⟨rfl, value, isWritten, isName⟩
  cases derived with
  | text text | truth value => cases member
  | argument isWritten made =>
    rw [Value.argument_variableUses made] at member
    exact mem_map isWritten member
  | fact isWritten made =>
    rw [variableUses, Value.literal_variableUses made] at member
    exact mem_map isWritten member

end ArgumentValue

namespace Build

variable {context : Context} {written : Value → Prop}

/-! ## Parts of nodes -/

variable {declared : SchemaField} {head : Field} {made : Option (List Call)}
variable {directives : List Directive} {facts : List (String × Literal)}
variable {selections : List Selection} {type : SchemaType} {kind : NodeKind}

theorem noted_derived (parameter : SchemaArgument) :
    parameter.noted.Holds (ArgumentValue.Derived context.parameters written) :=
  Metadata.holds_empty.set "type" (.text _)

theorem CallParts.derived {argument : Argument} {made : Call}
    (parts : CallParts context declared argument made) (isWritten : written argument.value) :
    ∀ value ∈ made.values, value.Derived context.parameters written := by
  obtain ⟨⟨_, isArgument⟩, parameter, _, facts⟩ := parts
  intro value member
  rcases List.mem_cons.mp member with rfl | isFact
  · exact .argument isWritten isArgument
  · rw [facts] at isFact
    split at isFact
    · exact noted_derived parameter value isFact
    · cases isFact

theorem calls_derived (succeeded : calls context head declared = .ok made)
    (areWritten : ∀ argument ∈ head.arguments, written argument.value) :
    ∀ call ∈ made.getD [], ∀ value ∈ call.values, value.Derived context.parameters written := by
  intro call member
  obtain ⟨argument, isArgument, parts⟩ := (calls_parts succeeded).exists_value member
  exact parts.derived (areWritten argument isArgument)

theorem nodes_derived {made : Option (List DirectiveNode)}
    (succeeded : Directive.nodes context.parameters directives = .ok made)
    (areWritten : ∀ value ∈ Directive.valuesOf directives, written value) :
    ∀ node ∈ made.getD [], ∀ value ∈ node.values,
      value.Derived context.parameters written := by
  intro node isNode value member
  obtain ⟨directive, isRepeated, _, related⟩ := (directives_repeat succeeded).exists_value isNode
  have inDirectives := (List.mem_filter.mp isRepeated).1
  obtain ⟨entry, isEntry, rfl⟩ := List.mem_map.mp member
  obtain ⟨argument, isArgument, _, isValue⟩ := exists_of_forall₂ related.flip isEntry
  exact .argument (areWritten _ (Directive.mem_valuesOf inDirectives isArgument)) isValue

theorem relayFacts_derived
    (succeeded : Directive.relayFacts context.parameters directives = .ok facts)
    (areWritten : ∀ value ∈ Directive.valuesOf directives, written value) :
    ∀ fact ∈ facts, (ArgumentValue.literal fact.2).Derived context.parameters written := by
  unfold Directive.relayFacts at succeeded
  split at succeeded
  · cases succeeded
    intro fact member
    cases member
  next relay found =>
    obtain ⟨groups, areGroups, succeeded⟩ := exists_of_bind_eq_ok succeeded
    cases succeeded
    intro fact member
    obtain ⟨group, isGroup, inGroup⟩ := List.mem_flatten.mp member
    obtain ⟨argument, isArgument, made⟩ := exists_of_mapM_eq_ok areGroups isGroup
    have inDirectives := List.mem_of_find?_eq_some found
    unfold Directive.relayFact at made
    split at made
    · cases made
    · split at made
      · cases made
        cases inGroup
      · obtain ⟨literal, isLiteral, made⟩ := exists_of_bind_eq_ok made
        cases made
        rw [List.mem_singleton.mp inGroup]
        exact .fact (areWritten _ (Directive.mem_valuesOf inDirectives isArgument)) isLiteral

theorem fieldFacts_derived (declared : SchemaField) (origin : Origin) :
    (fieldFacts context declared origin).Holds
      (ArgumentValue.Derived context.parameters written) := by
  have marked : ∀ {metadata : Metadata},
      metadata.Holds (ArgumentValue.Derived context.parameters written) → ∀ condition key,
        (metadata.mark condition key).Holds (ArgumentValue.Derived context.parameters written) :=
    fun holds condition key => holds.mark condition key (.truth true)
  have composite := marked Metadata.holds_empty declared.type.isComposite "canHaveSubselections"
  unfold fieldFacts
  dsimp only
  split
  · iterate 6 apply marked
    exact (composite.set _ (.text _)).set _ (.text _)
  · iterate 6 apply marked
    exact composite

/-! ## Nodes -/

theorem fieldNode_derived {parent : SchemaType} {origin : Origin}
    {below : SchemaField → Build Children} {child : Child}
    (parts : FieldParts context parent head selections origin below child)
    (areWritten : ∀ value ∈ head.values, written value) :
    ∀ value ∈ nodeValues parts.calls parts.directives
        ((fieldFacts context parts.declared origin).setAll parts.facts),
      value.Derived context.parameters written := by
  have ofDirectives : ∀ value ∈ Directive.valuesOf head.directives, written value :=
    fun value member => areWritten value (List.mem_append_right _ member)
  apply forall_nodeValues
  · apply calls_derived parts.areCalls
    intro argument member
    exact areWritten _ (List.mem_append_left _ (List.mem_map_of_mem member))
  · exact nodes_derived parts.areDirectives ofDirectives
  · exact (fieldFacts_derived parts.declared origin).setAll
      (relayFacts_derived parts.areFacts ofDirectives)

variable {children : Children}

theorem fragmentNode_derived {below : Build Children} {node : FragmentNode}
    (parts : FragmentParts context type directives below node children)
    (areWritten : ∀ value ∈ Directive.valuesOf directives, written value) :
    ∀ value ∈ nodeValues none node.directives node.metadata,
      value.Derived context.parameters written := by
  have abstract : (Metadata.empty.mark type.isAbstract "isAbstract").Holds
      (ArgumentValue.Derived context.parameters written) :=
    Metadata.holds_empty.mark _ _ (.truth true)
  rw [parts.isNode]
  apply forall_nodeValues
  · intro call member
    cases member
  · exact nodes_derived parts.arePrinted areWritten
  · exact abstract.setAll (relayFacts_derived parts.areFacts areWritten)

theorem derived_passesOn (context : Context) (written : Value → Prop) :
    PassesOn context written fun _ child =>
      ∀ value ∈ child.values, value.Derived context.parameters written where
  field parts areWritten below := by
    rw [parts.isChild, Child.values]
    exact List.forall_mem_append.mpr
      ⟨fieldNode_derived parts areWritten, Child.forall_valuesOf below⟩
  fragment parts _ areWritten below := by
    rw [Child.values]
    exact List.forall_mem_append.mpr
      ⟨fragmentNode_derived parts areWritten, Child.forall_valuesOf below⟩
  reference _ _ := by
    intro value member
    rw [Child.values] at member
    cases member

theorem children_derived {requisites : Requisites} (declares : context.schema.Declares type)
    (fit : requisites.Fit context.schema kind type selections)
    (areWritten : ∀ value ∈ Selection.valuesOf selections, written value)
    (returns : Returns (Build.children context type requisites selections) children) :
    ∀ value ∈ Child.valuesOf children.items, value.Derived context.parameters written :=
  Child.forall_valuesOf <|
    (derived_passesOn context written).children declares fit areWritten returns

/-! ## Roots -/

theorem queryCalls_derived (succeeded : queryCalls context head declared = .ok (facts, made))
    (areWritten : ∀ argument ∈ head.arguments, written argument.value) :
    (∀ call ∈ made.getD [], ∀ value ∈ call.values, value.Derived context.parameters written) ∧
      ∀ fact ∈ facts, (ArgumentValue.literal fact.2).Derived context.parameters written := by
  cases queryCalls_parts succeeded with
  | @identifying argument parameter found isOnly _ isValue =>
    constructor
    · intro call member value inCall
      cases List.mem_singleton.mp member
      rcases List.mem_cons.mp inCall with rfl | isFact
      · exact .argument (areWritten argument (isOnly ▸ List.mem_singleton_self _)) isValue
      · exact noted_derived parameter value isFact
    · intro fact member
      simp only [List.mem_cons, List.not_mem_nil, or_false] at member
      rcases member with rfl | rfl <;> exact .text _
  | nothing =>
    constructor
    · intro call member
      cases member
    · intro fact member
      cases member

variable {definition : Definition} {root : Root}

/-- The values of a root field, of what is below it and of the directives of its
operation. -/
theorem rootField_written {selected : SelectedField}
    (areWritten : ∀ value ∈ definition.values, written value)
    (isSelected : (Selection.fields definition.selections).head? = some selected) :
    (∀ argument ∈ selected.field.arguments, written argument.value) ∧
      (∀ value ∈ Directive.valuesOf (definition.directives ++ selected.field.directives),
        written value) ∧
      ∀ value ∈ Selection.valuesOf selected.selections, written value := by
  have inside : selected.field.values ++ Selection.valuesOf selected.selections ⊆
      Selection.valuesOf definition.selections :=
    Selection.values_of_fields (List.mem_of_head? isSelected)
  have fromSelections : ∀ value ∈ selected.field.values ++ Selection.valuesOf selected.selections,
      written value :=
    fun value member => areWritten value (List.mem_append_right _ (inside member))
  refine ⟨fun argument member => ?_, fun value member => ?_, fun value member => ?_⟩
  · exact fromSelections _
      (List.mem_append_left _ (List.mem_append_left _ (List.mem_map_of_mem member)))
  · rw [Directive.valuesOf_append] at member
    rcases List.mem_append.mp member with onDefinition | onField
    · exact areWritten value (List.mem_append_left _ onDefinition)
    · exact fromSelections value (List.mem_append_left _ (List.mem_append_right _ onField))
  · exact fromSelections value (List.mem_append_right _ member)

theorem query_derived (parts : QueryParts context definition root)
    (areWritten : ∀ value ∈ definition.values, written value) :
    ∀ value ∈ root.values, value.Derived context.parameters written := by
  obtain ⟨ofArguments, ofDirectives, ofSelections⟩ := rootField_written areWritten parts.isSelected
  obtain ⟨callsDerived, factsDerived⟩ := queryCalls_derived parts.areCalls ofArguments
  have fit : (context.schema.requisites parts.declared.type parts.selected.selections).Fit
      context.schema .query parts.declared.type parts.selected.selections :=
    Schema.fit_requisites parts.selected.selections (by simp) rfl
  have plural : (Metadata.empty.mark parts.declared.type.isList "isPlural").Holds
      (ArgumentValue.Derived context.parameters written) :=
    Metadata.holds_empty.mark _ _ (.truth true)
  have isValues : root.values = _ := congrArg Root.values parts.isRoot
  rw [isValues, Root.values]
  rw [List.forall_mem_append]
  constructor
  · exact forall_nodeValues callsDerived (nodes_derived parts.areDirectives ofDirectives)
      ((plural.mark _ _ (.truth true)).setAll factsDerived)
  · exact children_derived (Schema.declares_of_field? parts.found) fit ofSelections parts.isBelow

/-- The values of a mutation or a subscription.  It passes one variable on that does
not have to be written. -/
theorem operation_derived {inputArgument clientId : String} {head : OperationNode}
    (isClientId : kind.clientId? context.schema.names = some clientId)
    (parts : OperationParts context inputArgument type clientId definition head children)
    (areWritten : ∀ value ∈ definition.values, written value)
    (isInput : written (.variable inputArgument .unknown)) :
    ∀ value ∈ nodeValues head.calls head.directives head.metadata ++
        Child.valuesOf children.items, value.Derived context.parameters written := by
  obtain ⟨_, ofDirectives, ofSelections⟩ := rootField_written areWritten parts.isSelected
  rw [List.forall_mem_append]
  constructor
  · rw [parts.isHead]
    refine forall_nodeValues (fun call isCall value inCall => ?_)
      (nodes_derived parts.areDirectives ofDirectives)
      (Metadata.holds_empty.setAll fun fact isFact => ?_)
    · rw [Option.getD_some, List.mem_singleton] at isCall
      subst isCall
      rcases List.mem_cons.mp inCall with rfl | isFact
      · exact .argument isInput rfl
      · cases isFact
    · obtain ⟨argument, _, rfl⟩ := List.mem_map.mp isFact
      exact .text _
  · exact children_derived (Schema.declares_of_field? parts.found)
      (Schema.fit_operation parts.selected.selections isClientId) ofSelections parts.isBelow

theorem fragmentRoot_derived (parts : FragmentRootParts context definition root)
    (areWritten : ∀ value ∈ definition.values, written value) :
    ∀ value ∈ root.values,
      value.Derived (context.parameters ++ parts.listed.getD []) written := by
  obtain ⟨inner⟩ := fragment_parts parts.isFragment
  have fit : (context.schema.requisites parts.type definition.selections).Fit context.schema
      .fragment parts.type definition.selections :=
    Schema.fit_requisites definition.selections (by simp) rfl
  have own := fragmentNode_derived inner fun value member =>
    areWritten value (List.mem_append_left _ member)
  have below : ∀ value ∈ Child.valuesOf parts.children.items,
      value.Derived (fragmentContext context definition parts.listed).parameters written :=
    children_derived (Schema.declares_of_type? parts.isType) fit
      (fun value member => areWritten value (List.mem_append_right _ member)) inner.isBelow
  have isValues : root.values = _ := congrArg Root.values parts.isRoot
  rw [isValues]
  cases listed : parts.listed with
  | none =>
    rw [listed] at own below
    exact List.forall_mem_append.mpr ⟨own, below⟩
  | some parameters =>
    rw [listed] at own below
    refine List.forall_mem_append.mpr ⟨fun value member => ?_, below⟩
    rcases mem_nodeValues_set member with rfl | known
    · exact .truth true
    · exact own value known

theorem FragmentRootParts.parameters?_eq (parts : FragmentRootParts context definition root) :
    root.parameters? = parts.listed := by
  rw [congrArg Root.parameters? parts.isRoot]
  cases parts.listed <;> rfl

end Build

namespace Definition

/-- What the values of a tree may come from: the values of the definition and, for
an operation, its input variable. -/
def Writes (definition : Definition) (inputArgument : String) (value : Value) : Prop :=
  value ∈ definition.values ∨
    definition.kind.isOperation = true ∧ value = .variable inputArgument .unknown

variable {schema : Schema} {options : BuildOptions} {definition : Definition} {root : Root}

/-- The parameters of a tree are those of its definition. -/
theorem parameters_of_build (built : definition.build schema options = .ok root) :
    definition.parameters = .ok root.parameters? := by
  unfold Definition.parameters
  cases Build.root_parts (returns_of_build built) with
  | query isKind parts =>
    rw [isKind, parts.isRoot]
    rfl
  | mutation isKind _ _ isRoot | subscription isKind _ _ isRoot =>
    rw [isKind, isRoot]
    rfl
  | fragment isKind parts =>
    rw [if_pos isKind, parts.areListed, parts.parameters?_eq]

/-- The values of a tree are constants or come from what its definition writes, with
the parameters of the tree substituted. -/
theorem build_derived (built : definition.build schema options = .ok root) :
    ∀ value ∈ root.values,
      value.Derived (options.parameters ++ root.parameters?.getD [])
        (definition.Writes options.inputArgument) := by
  have areWritten : ∀ value ∈ definition.values, definition.Writes options.inputArgument value :=
    fun value member => .inl member
  have unlisted (none : root.parameters? = none) (derived : ∀ value ∈ root.values,
      value.Derived options.parameters (definition.Writes options.inputArgument)) :
      ∀ value ∈ root.values, value.Derived (options.parameters ++ root.parameters?.getD [])
        (definition.Writes options.inputArgument) := by
    rw [none, Option.getD_none, List.append_nil]
    exact derived
  cases Build.root_parts (returns_of_build built) with
  | query _ parts =>
    exact unlisted (congrArg Root.parameters? parts.isRoot) (Build.query_derived parts areWritten)
  | mutation isKind _ parts isRoot =>
    refine unlisted (congrArg Root.parameters? isRoot) ?_
    rw [isRoot]
    exact Build.operation_derived (show NodeKind.mutation.clientId? _ = _ from rfl) parts areWritten
      (.inr ⟨by rw [isKind]; rfl, rfl⟩)
  | subscription isKind _ parts isRoot =>
    refine unlisted (congrArg Root.parameters? isRoot) ?_
    rw [isRoot]
    exact Build.operation_derived (show NodeKind.subscription.clientId? _ = _ from rfl) parts
      areWritten (.inr ⟨by rw [isKind]; rfl, rfl⟩)
  | fragment _ parts =>
    rw [parts.parameters?_eq]
    exact Build.fragmentRoot_derived parts areWritten

end Definition

end QueryTree
