import QueryTree.Proofs.Build.Generable
import QueryTree.Proofs.Build.Validated

/-!
# Which definitions have a tree

A definition has a tree exactly if it is buildable: all that is written in it is
known and valid, and all that its nodes demand can be generated.  This is said of
every selection by itself, whatever stands beside it, since a field or a fragment on
nodes that was written can be generated, too.
-/

namespace QueryTree

/-- Whether all that a node of a type demands can be generated, selected or not. -/
structure Schema.CanSupply (schema : Schema) (kind : NodeKind) (type : SchemaType)
    (selected : List String) : Prop where
  fields : ∀ name, Demanded schema kind type selected name → schema.Generable type name
  onNode : ∀ node name, schema.AsksNode type node name → schema.Generable node name

/-- The names of the fields that are selected, leaving fragments aside. -/
def Selection.selectedNames (selections : List Selection) : List String :=
  (Selection.fields selections).map (·.field.name)

/-- Whether a selection on a type can be built, with all that is selected below it. -/
inductive Selection.Buildable (context : Context) : SchemaType → Selection → Prop
  | field {parent : SchemaType} {head : Field} {inner : List Selection} {declared : SchemaField}
      (found : context.schema.field? parent head.name = some declared)
      (keeps : context.validates = true →
        head.Keeps context.schema context.pattern parent inner declared)
      (supplied : context.schema.CanSupply .field declared.type (selectedNames inner))
      (below : ∀ selection ∈ inner, Buildable context declared.type selection)
      (valid : head.Valid context declared) : Buildable context parent (.field head inner)
  | spread {parent : SchemaType} {head : Spread} (plain : head.directives = []) :
      Buildable context parent (.spread head)
  | inline {parent type : SchemaType} {head : InlineFragment} {inner : List Selection}
      (opens : (Selection.inline head inner).Opens context.schema parent type inner)
      (supplied : context.schema.CanSupply .fragment type (selectedNames inner))
      (below : ∀ selection ∈ inner, Buildable context type selection)
      (valid : Directive.Valid context.parameters head.directives) :
      Buildable context parent (.inline head inner)

/-- Whether the selection array of a node of a type can be built. -/
structure Selection.AllBuildable (context : Context) (kind : NodeKind) (type : SchemaType)
    (selections : List Selection) : Prop where
  supplied : context.schema.CanSupply kind type (selectedNames selections)
  each : ∀ selection ∈ selections, selection.Buildable context type

namespace Selection

variable {context : Context} {parent type : SchemaType} {inner selections : List Selection}

theorem mem_selectedNames {name : String} : name ∈ selectedNames selections ↔
    ∃ head inner, Selection.field head inner ∈ selections ∧ head.name = name := by
  constructor
  · intro member
    obtain ⟨selected, isSelected, rfl⟩ := List.mem_map.mp member
    exact ⟨_, _, mem_fields.mp isSelected, rfl⟩
  · rintro ⟨head, inner, member, rfl⟩
    exact List.mem_map.mpr ⟨⟨head, inner⟩, mem_fields.mpr member, rfl⟩

variable {head : Field}

theorem buildable_field_iff :
    (Selection.field head inner).Buildable context parent ↔
      ∃ declared, context.schema.field? parent head.name = some declared ∧
        (context.validates = true →
          head.Keeps context.schema context.pattern parent inner declared) ∧
        AllBuildable context .field declared.type inner ∧ head.Valid context declared := by
  constructor
  · intro buildable
    cases buildable with
    | field found keeps supplied below valid => exact ⟨_, found, keeps, ⟨supplied, below⟩, valid⟩
  · rintro ⟨declared, found, keeps, all, valid⟩
    exact .field found keeps all.supplied all.each valid

theorem buildable_spread_iff {head : Spread} :
    (Selection.spread head).Buildable context parent ↔ head.directives = [] := by
  constructor
  · intro buildable
    cases buildable with
    | spread plain => exact plain
  · exact .spread

theorem buildable_inline_iff {head : InlineFragment} :
    (Selection.inline head inner).Buildable context parent ↔
      ∃ type, (Selection.inline head inner).Opens context.schema parent type inner ∧
        AllBuildable context .fragment type inner ∧
          Directive.Valid context.parameters head.directives := by
  constructor
  · intro buildable
    cases buildable with
    | inline opens supplied below valid => exact ⟨_, opens, ⟨supplied, below⟩, valid⟩
  · rintro ⟨type, opens, all, valid⟩
    exact .inline opens all.supplied all.each valid

/-- A field that was written can be generated as well. -/
theorem Buildable.generable (buildable : (Selection.field head inner).Buildable context parent) :
    context.schema.Generable parent head.name := by
  obtain ⟨declared, found, _, all, _⟩ := buildable_field_iff.mp buildable
  refine Schema.generable_iff.mpr ⟨declared, found, fun type asked asks => ?_⟩
  cases asks with
  | below demanded => exact all.supplied.fields asked (Demanded.iff_pageInfo.mpr (.inl demanded))
  | onNode asks => exact all.supplied.onNode type asked asks

end Selection

variable {name : String} {node type : SchemaType} {schema : Schema}

/-- What is selected on the node interface does not matter for what is demanded there:
it is no connection. -/
theorem Schema.AsksNode.demandedWith (asks : schema.AsksNode type node name)
    (selected : List String) : Demanded schema .fragment node selected name := by
  rcases Demanded.iff_pageInfo.mp asks.demanded with plain | ⟨connection, _⟩
  · exact Demanded.iff_pageInfo.mpr (.inl plain)
  · have ends := Schema.suffix_of_isConnection connection
    rw [Schema.name_of_type? asks.isNode] at ends
    exact absurd ends (by decide)

/-- What a fragment on nodes that was written can be supplied with can be generated. -/
theorem Selection.Buildable.generable_onNode {context : Context} {parent : SchemaType}
    {selection : Selection} (buildable : selection.Buildable context parent)
    (isOnNode : selection.isOnNode = true) (asks : context.schema.AsksNode type node name) :
    context.schema.Generable node name := by
  cases buildable with
  | field | spread => cases isOnNode
  | inline opens supplied =>
    have onNode := of_decide_eq_true isOnNode
    cases opens with
    | inline isNone =>
      rw [isNone] at onNode
      cases onNode
    | condition isCondition found =>
      cases isCondition.symm.trans onNode
      cases found.symm.trans asks.isNode
      exact supplied.fields name (asks.demandedWith _)

/-! ## Buildable definitions -/

/-- Whether the arguments of a root field are accepted.  A query has at most one, which
identifies it; for a mutation or a subscription they are only counted. -/
def Build.RootCalled (context : Context) (inputArgument : String) (head : Field)
    (declared : SchemaField) : DefinitionKind → Prop
  | .query =>
    Rule.queryRootFieldArity head = .ok () ∧ Succeeds (Build.queryCalls context head declared)
  | _ => Rule.mutationField head declared inputArgument = .ok ()

/-- Whether a definition can be built. -/
inductive Definition.Buildable (schema : Schema) (options : BuildOptions)
    (definition : Definition) : Prop
  | operation {root : SchemaType} {selected : SelectedField} {declared : SchemaField}
      (isRoot : schema.rootType? definition.kind = some root)
      (counted : (definition.context schema options).validates = true →
        Rule.rootFieldCount definition = .ok ())
      (isFirst : definition.first? = some selected)
      (isDeclared : schema.field? root selected.field.name = some declared)
      (called : Build.RootCalled (definition.context schema options) options.inputArgument
        selected.field declared definition.kind)
      (below : Selection.AllBuildable (definition.innerContext schema options)
        definition.kind.nodeKind declared.type selected.selections)
      (valid : Succeeds (Directive.nodes options.parameters
        (definition.directives ++ selected.field.directives))) : Buildable schema options definition
  | fragment {type : SchemaType} {listed : Option (List String)}
      (isFragment : definition.kind = .fragment)
      (found : schema.type? definition.condition = some type)
      (areListed : Directive.parameters definition.directives = .ok listed)
      (below : Selection.AllBuildable (definition.innerContext schema options) .fragment type
        definition.selections)
      (valid : Directive.Valid (definition.innerContext schema options).parameters
        definition.directives) : Buildable schema options definition

namespace Definition

variable {schema : Schema} {options : BuildOptions} {definition : Definition}

theorem buildable_operation_iff (isOperation : definition.kind.isOperation = true) :
    definition.Buildable schema options ↔
      ∃ root, schema.rootType? definition.kind = some root ∧
        ∃ selected, (((definition.context schema options).validates = true →
            Rule.rootFieldCount definition = .ok ()) ∧ definition.first? = some selected) ∧
        ∃ declared, schema.field? root selected.field.name = some declared ∧
          Build.RootCalled (definition.context schema options) options.inputArgument selected.field
            declared definition.kind ∧
          Selection.AllBuildable (definition.context schema options) definition.kind.nodeKind
            declared.type selected.selections ∧
          Succeeds (Directive.nodes options.parameters
            (definition.directives ++ selected.field.directives)) := by
  constructor
  · intro buildable
    cases buildable with
    | operation isRoot counted isFirst isDeclared called below valid =>
      rw [innerContext_of_operation isOperation] at below
      exact ⟨_, isRoot, _, ⟨counted, isFirst⟩, _, isDeclared, called, below, valid⟩
    | fragment isFragment =>
      rw [isFragment] at isOperation
      cases isOperation
  · rintro ⟨root, isRoot, selected, ⟨counted, isFirst⟩, declared, isDeclared, called, below, valid⟩
    rw [← innerContext_of_operation isOperation] at below
    exact .operation isRoot counted isFirst isDeclared called below valid

theorem buildable_fragment_iff (isFragment : definition.kind = .fragment) :
    definition.Buildable schema options ↔
      ∃ type, schema.type? definition.condition = some type ∧
        ∃ listed, Directive.parameters definition.directives = .ok listed ∧
          Selection.AllBuildable
            (Build.fragmentContext (definition.context schema options) definition listed) .fragment
            type definition.selections ∧
          Directive.Valid (options.parameters ++ listed.getD []) definition.directives := by
  constructor
  · intro buildable
    cases buildable with
    | operation isRoot =>
      rw [isFragment] at isRoot
      cases isRoot
    | fragment _ found areListed below valid =>
      rw [innerContext_of_fragment isFragment areListed] at below valid
      exact ⟨_, found, _, areListed, below, valid⟩
  · rintro ⟨type, found, listed, areListed, below, valid⟩
    have inner : definition.innerContext schema options = _ :=
      innerContext_of_fragment isFragment areListed
    exact .fragment isFragment found areListed (inner ▸ below) (inner ▸ valid)

end Definition

/-! ## Selection sets -/

namespace Build

open Selection (Buildable AllBuildable selectedNames)

variable {context : Context}

theorem conditionType_yields (parent : SchemaType) (head : InlineFragment)
    (inner : List Selection) :
    Yields (conditionType context parent head) fun type =>
      (Selection.inline head inner).Opens context.schema parent type inner := by
  intro count type
  simp only [conditionType_eq_ok_iff inner, exists_and_left, exists_eq, and_true]

theorem reference_accepts (head : Spread) :
    Accepts (reference head) (head.directives = []) := by
  unfold reference
  split
  next plain => exact (Accepts.pure _).of_iff (iff_of_true trivial plain)
  next directive others isFirst => exact (Accepts.throw _).of_iff (by simp [isFirst])

variable {kind : NodeKind} {requisites : Requisites} {selections : List Selection}
variable {type parent : SchemaType}

/-- What is missing in a selection set can be generated exactly if all that is
demanded can. -/
theorem canSupply_iff (fit : requisites.Fit context.schema kind type selections)
    (each : ∀ selection ∈ selections, selection.Buildable context type) :
    context.schema.CanSupply kind type (selectedNames selections) ↔
      (∀ node name, requisites.nodeFragment = some node →
        context.schema.AsksNode type node name → context.schema.Generable node name) ∧
      ∀ name ∈ missing (context.schema.required type requisites (selectedNames selections))
        (selectedNames selections), context.schema.Generable type name := by
  constructor
  · intro supplied
    refine ⟨fun node name _ => supplied.onNode node name, fun name member => ?_⟩
    exact supplied.fields name ((Schema.mem_required fit _).mp (List.mem_filter.mp member).1)
  · rintro ⟨onNode, ofMissing⟩
    constructor
    · intro name demanded
      by_cases selected : name ∈ selectedNames selections
      · obtain ⟨head, inner, member, rfl⟩ := Selection.mem_selectedNames.mp selected
        exact (each _ member).generable
      · refine ofMissing name (List.mem_filter.mpr ⟨?_, by simpa using selected⟩)
        exact (Schema.mem_required fit _).mpr demanded
    · intro node name asks
      cases written : selections.any (·.isOnNode) with
      | false => exact onNode node name (fit.nodeFragment_eq asks written) asks
      | true =>
        obtain ⟨selection, member, isOnNode⟩ := List.any_eq_true.mp written
        exact (each selection member).generable_onNode isOnNode asks

theorem fieldBuild_accepts {required : List String} {selected : SelectedField}
    (inside : ∀ type, Accepts (children context type
        (context.schema.fieldRequisites type selected.selections) selected.selections)
      (AllBuildable context .field type selected.selections)) :
    Accepts (fieldBuild context parent required selected)
      ((Selection.field selected.field selected.selections).Buildable context parent) := by
  refine (field_accepts fun declared _ => inside declared.type).of_iff ?_
  simp only [Selection.buildable_field_iff, check_eq_ok_iff]

theorem fragmentBuild_accepts {selection : Selection} (noField : selection.field? = none)
    (inside : ∀ type, Accepts
      (children context type (context.schema.requisites type selection.inner) selection.inner)
      (AllBuildable context .fragment type selection.inner)) :
    Accepts (fragmentBuild context parent selection) (selection.Buildable context parent) := by
  cases selection with
  | field => cases noField
  | spread head => exact (reference_accepts head).of_iff Selection.buildable_spread_iff.symm
  | inline head inner =>
    exact ((conditionType_yields parent head inner).bind fun type _ =>
      innerFragment_accepts (inside type)).of_iff Selection.buildable_inline_iff.symm

/-- The nodes below a node of a type are built exactly if the selection set is buildable. -/
theorem children_accepts (fit : requisites.Fit context.schema kind type selections) :
    Accepts (children context type requisites selections)
      (AllBuildable context kind type selections) := by
  induction selections using Selection.setInduction generalizing kind type requisites with
  | step selections ih =>
    have ofFragments : Accepts
        ((Selection.fragments selections).mapM (fragmentBuild context type)) _ :=
      .mapM fun selection member => by
        obtain ⟨member, noField⟩ := Selection.mem_of_mem_fragments member
        exact fragmentBuild_accepts noField fun type =>
          ih _ member (Schema.fit_requisites _ (by simp) rfl)
    have ofNode := nodeFragments_accepts fit fun node name origin _ =>
      generator_accepts context node name origin
    have ofFields (required : List String) : Accepts
        ((Selection.fields selections).mapM (fieldBuild context type required)) _ :=
      .mapM fun selected member => fieldBuild_accepts fun type =>
        ih _ (Selection.mem_fields.mp member) (Schema.fit_fieldRequisites _)
    have ofOthers (names : List String) :
        Accepts (names.mapM (generator context type · generatedOrigin))
          (∀ name ∈ names, context.schema.Generable type name) :=
      .mapM fun name _ => generator_accepts context type name generatedOrigin rfl
    rw [children_eq]
    refine (ofFragments.bind fun _ => ofNode.bind fun _ =>
      (ofFields _).bind fun _ => (ofOthers _).thenPure _).of_iff ?_
    constructor
    · rintro ⟨fragments, generated, fields, others⟩
      have each := Selection.forall_mem_iff.mpr ⟨fragments, fields⟩
      exact ⟨(canSupply_iff fit each).mpr ⟨generated, others⟩, each⟩
    · rintro ⟨supplied, each⟩
      obtain ⟨generated, others⟩ := (canSupply_iff fit each).mp supplied
      obtain ⟨fragments, fields⟩ := Selection.forall_mem_iff.mp each
      exact ⟨fragments, generated, fields, others⟩

/-! ## Definitions -/

theorem rootType_yields (type : Option SchemaType) (definition : Definition) :
    Yields (rootType type definition) fun root => type = some root := by
  intro count root
  constructor
  · rintro ⟨after, returned⟩
    exact rootType_returns ⟨count, after, returned⟩
  · rintro rfl
    exact ⟨count, rfl⟩

theorem rootField_yields (definition : Definition) :
    Yields (rootField context definition) fun selected =>
      (context.validates = true → Rule.rootFieldCount definition = .ok ()) ∧
        definition.first? = some selected := by
  intro count selected
  constructor
  · rintro ⟨after, returned⟩
    refine ⟨fun validates => ?_, rootField_head ⟨count, after, returned⟩⟩
    unfold rootField at returned
    rw [if_pos validates] at returned
    obtain ⟨⟨_, between⟩, counted, _⟩ := exists_of_bind_eq_ok returned
    exact lift_returns ⟨count, between, counted⟩
  · rintro ⟨counted, isFirst⟩
    obtain ⟨others, fields⟩ := List.head?_eq_some_iff.mp isFirst
    refine ⟨count, ?_⟩
    unfold rootField
    rw [fields]
    cases validates : context.validates with
    | false => rfl
    | true =>
      rw [counted validates]
      rfl

theorem declaredRootField_yields (type : SchemaType) (field : Field) :
    Yields (declaredRootField context type field) fun declared =>
      context.schema.field? type field.name = some declared := by
  intro count declared
  constructor
  · rintro ⟨after, returned⟩
    exact declaredRootField_found ⟨count, after, returned⟩
  · intro found
    unfold declaredRootField
    rw [found]
    exact ⟨count, rfl⟩

variable {inputArgument : String} {definition : Definition}

theorem query_accepts (inputArgument : String) :
    Accepts (query context definition)
      (∃ root, context.schema.queryType? = some root ∧
        ∃ selected, ((context.validates = true → Rule.rootFieldCount definition = .ok ()) ∧
          definition.first? = some selected) ∧
        ∃ declared, context.schema.field? root selected.field.name = some declared ∧
          RootCalled context inputArgument selected.field declared .query ∧
          AllBuildable context .query declared.type selected.selections ∧
          Succeeds (Directive.nodes context.parameters
            (definition.directives ++ selected.field.directives))) := by
  refine (rootType_yields _ definition).bind fun root _ => ?_
  refine (rootField_yields definition).bind fun selected _ => ?_
  refine (declaredRootField_yields root selected.field).bind fun declared _ => ?_
  have fit : (context.schema.requisites declared.type selected.selections).Fit context.schema
      .query declared.type selected.selections := Schema.fit_requisites _ (by simp) rfl
  refine (((lift_accepts _).of_iff Rule.succeeds_iff).bind fun _ => (children_accepts fit).bind
    fun _ => (lift_accepts _).bind fun _ => (lift_accepts _).thenPure _).of_iff ?_
  constructor
  · rintro ⟨arity, below, called, valid⟩
    exact ⟨⟨arity, called⟩, below, valid⟩
  · rintro ⟨⟨arity, called⟩, below, valid⟩
    exact ⟨arity, below, called, valid⟩

theorem operation_accepts (kind : NodeKind) {clientId : String}
    (isClientId : kind.clientId? context.schema.names = some clientId) :
    Accepts (operation context inputArgument type clientId definition)
      (∃ selected, ((context.validates = true → Rule.rootFieldCount definition = .ok ()) ∧
          definition.first? = some selected) ∧
        ∃ declared, context.schema.field? type selected.field.name = some declared ∧
          Rule.mutationField selected.field declared inputArgument = .ok () ∧
          AllBuildable context kind declared.type selected.selections ∧
          Succeeds (Directive.nodes context.parameters
            (definition.directives ++ selected.field.directives))) := by
  refine (rootField_yields definition).bind fun selected _ => ?_
  refine (declaredRootField_yields type selected.field).bind fun declared _ => ?_
  exact ((lift_accepts _).of_iff Rule.succeeds_iff).bind fun _ =>
    (children_accepts (Schema.fit_operation _ isClientId)).bind fun _ =>
      (lift_accepts _).thenPure _

variable {schema : Schema} {options : BuildOptions}

theorem fragmentRoot_accepts :
    Accepts (fragmentRoot context definition)
      (∃ type, context.schema.type? definition.condition = some type ∧
        ∃ listed, Directive.parameters definition.directives = .ok listed ∧
          AllBuildable (fragmentContext context definition listed) .fragment type
            definition.selections ∧
          Directive.Valid (fragmentContext context definition listed).parameters
            definition.directives) := by
  unfold fragmentRoot
  cases found : context.schema.type? definition.condition with
  | none => exact (Accepts.throw _).of_iff (by simp)
  | some type =>
    have fit : (context.schema.requisites type definition.selections).Fit context.schema
        .fragment type definition.selections := Schema.fit_requisites _ (by simp) rfl
    simp only [Option.some.injEq, exists_eq_left']
    refine (lift_yields _).bind fun listed _ => ?_
    have inside : Accepts (fragment (fragmentContext context definition listed) type
        definition.directives (children (fragmentContext context definition listed) type
          (context.schema.requisites type definition.selections) definition.selections)) _ :=
      fragment_accepts (children_accepts fit)
    refine (inside.bind fun result => (?_ : Accepts _ True)).of_iff (iff_of_eq (and_true _))
    cases listed with
    | none | some parameters => exact Accepts.pure _

theorem root_accepts :
    Accepts (root (definition.context schema options) options.inputArgument definition)
      (definition.Buildable schema options) := by
  unfold root
  cases kind : definition.kind with
  | query =>
    refine (query_accepts options.inputArgument).of_iff ?_
    rw [Definition.buildable_operation_iff (by rw [kind]; rfl), kind]
    rfl
  | mutation =>
    refine ((rootType_yields _ definition).bind fun type _ =>
      (operation_accepts .mutation rfl).thenPure _).of_iff ?_
    rw [Definition.buildable_operation_iff (by rw [kind]; rfl), kind]
    rfl
  | subscription =>
    refine ((rootType_yields _ definition).bind fun type _ =>
      (operation_accepts .subscription rfl).thenPure _).of_iff ?_
    rw [Definition.buildable_operation_iff (by rw [kind]; rfl), kind]
    rfl
  | fragment =>
    exact fragmentRoot_accepts.of_iff (Definition.buildable_fragment_iff kind).symm
  | other code =>
    refine (Accepts.throw _).of_iff (iff_of_false id fun buildable => ?_)
    cases buildable with
    | operation isRoot =>
      rw [kind] at isRoot
      cases isRoot
    | fragment isFragment => cases kind.symm.trans isFragment

end Build

/-- A definition has a tree exactly if it is buildable. -/
theorem Definition.succeeds_build_iff {options : BuildOptions} {definition : Definition} :
    Succeeds (definition.build schema options) ↔ definition.Buildable schema options := by
  rw [← Build.root_accepts 0]
  constructor
  · rintro ⟨root, built⟩
    obtain ⟨count, returned⟩ := Definition.build_eq_ok_iff.mp built
    exact ⟨_, returned⟩
  · rintro ⟨⟨root, count⟩, returned⟩
    exact ⟨root, Definition.build_eq_ok_iff.mpr ⟨count, returned⟩⟩

end QueryTree
