import QueryTree.Proofs.Build.Reference
import QueryTree.Proofs.Build.Value
import QueryTree.Proofs.Diagnostic.Reports
import QueryTree.Proofs.Document.WellFormed

/-!
# How a build fails

A build fails for something that is written in the definition, or because a field
that a node demands cannot be generated.  The tree of an operation or a fragment in
normal form fails to be built for a diagnostic, or because generated fields call for
generated fields without end.  The diagnostic never is about the directives of a
spread or about a selection of an unknown kind.
-/

namespace QueryTree

/-! ## Values and directives -/

theorem Literal.ofNumber_reports (raw : String) (position : Position) :
    Reports Problem.IsOfPart (Literal.ofNumber raw position) :=
  .ite (.ok _) (.atPosition trivial position)

namespace Value

theorem literal_reports (parameters : List String) (value : Value) :
    Reports Problem.IsOfPart (value.literal parameters) := by
  induction value using Value.induction with
  | ofVariable | string | boolean | null | enum => exact .ok _
  | int raw position | float raw position => exact Literal.ofNumber_reports raw position
  | list values position ih =>
    rw [Value.literal, literals_eq_mapM]
    exact .bind (.mapM ih) fun _ => .ok _
  | object fields position ih =>
    rw [Value.literal, literalFields_eq_mapM]
    exact .bind (.mapM fun field member => .bind (ih field member) fun _ => .ok _) fun _ => .ok _

theorem argument_reports (parameters : List String) (value : Value) :
    Reports Problem.IsOfPart (value.argument parameters) := by
  induction value using Value.induction with
  | ofVariable => exact .ok _
  | list values position ih =>
    rw [Value.argument, argumentItems_eq_mapM]
    exact .bind (.mapM ih) fun _ => .ok _
  | int | float | string | boolean | null | enum | object =>
    rw [Value.argument]
    · exact .bind (literal_reports parameters _) fun _ => .ok _
    all_goals simp

end Value

namespace Directive

theorem nodes_reports (parameters : List String) (directives : List Directive) :
    Reports Problem.IsOfPart (nodes parameters directives) := by
  refine .bind (.mapM fun directive _ => ?_) fun found => ?_
  · exact .bind (.mapM fun argument _ => .bind (argument.value.argument_reports parameters)
      fun _ => .ok _) fun _ => .ok _
  · split <;> exact .ok _

theorem relayFacts_reports (parameters : List String) (directives : List Directive) :
    Reports Problem.IsOfPart (relayFacts parameters directives) := by
  unfold relayFacts
  split
  · exact .ok _
  · refine .bind (.mapM fun argument _ => ?_) fun _ => .ok _
    unfold relayFact
    split
    · exact .atPosition trivial _
    · exact .ite (.ok _) (.bind (Value.literal_reports parameters _) fun _ => .ok _)

theorem parameters_reports (directives : List Directive) :
    Reports Problem.IsOfPart (parameters directives) := by
  unfold parameters
  split
  · exact .ok _
  · refine .bind ?_ fun _ => .ok _
    unfold parameterNames
    split
    · refine .mapM fun item _ => ?_
      unfold parameterName
      split
      · exact .ok _
      · exact .atPosition trivial _
    · exact .atPosition trivial _

end Directive

/-! ## Rules -/

namespace Rule

theorem rootFieldCount_reports (definition : Definition) :
    Reports Problem.IsOfPart (rootFieldCount definition) :=
  .ite (.ok _) (.atPosition trivial _)

variable (field : Field)

theorem queryRootFieldArity_reports : Reports Problem.IsOfPart (queryRootFieldArity field) :=
  .ite (.ok _) (.atPosition trivial _)

theorem connectionArguments_reports : Reports Problem.IsOfPart (connectionArguments field) := by
  unfold connectionArguments
  refine .ite (.bind (.atPosition trivial _) fun _ => ?_) ?_ <;>
    refine .ite (.bind (.atPosition trivial _) fun _ => ?_) ?_ <;>
      exact .ite (.atPosition trivial _) (.ok _)

theorem connectionSubfields_reports (schema : Schema) (field : Field)
    (selections : List Selection) (connection : SchemaType) (pattern : Bool) :
    Reports Problem.IsOfPart (connectionSubfields schema field selections connection pattern) := by
  unfold connectionSubfields
  split
  · exact .ok _
  · refine .forM (fun subfield => ?_) _
    refine .ite (.ite (.ok _) (.atPosition trivial _)) ?_
    split
    · exact .ok _
    · exact .ite (.atPosition trivial _) (.ok _)

theorem mutationField_reports (declared : SchemaField) (inputArgument : String) :
    Reports Problem.IsOfPart (mutationField field declared inputArgument) := by
  unfold mutationField
  split
  · exact .ite (.atPosition trivial _) (.ite (.atPosition trivial _) (.ok _))
  · exact .atPosition trivial _

theorem nodeField_reports (schema : Schema) (field : Field) (declared : SchemaField)
    (parent : SchemaType) : Reports Problem.IsOfPart (nodeField schema field declared parent) := by
  refine .ite (.ok _) ?_
  split
  · exact .ite (.atPosition trivial _) (.ok _)
  · exact .ok _

end Rule

namespace Build

variable (context : Context)

theorem check_reports (parent : SchemaType) (head : Field) (selections : List Selection)
    (declared : SchemaField) :
    Reports Problem.IsOfPart (check context parent head selections declared) :=
  .bind (Rule.nodeField_reports _ _ _ _) fun _ =>
    .ite (.bind (Rule.connectionArguments_reports _) fun _ =>
      Rule.connectionSubfields_reports _ _ _ _ _) (.ok _)

theorem calls_reports (head : Field) (declared : SchemaField) :
    Reports Problem.IsOfPart (calls context head declared) := by
  unfold calls
  split
  · exact .ok _
  · refine .bind (.mapM fun argument _ => ?_) fun _ => .ok _
    unfold call
    split
    · exact .atPosition trivial _
    · exact .bind (argument.value.argument_reports _) fun _ => .ok _

theorem queryCalls_reports (head : Field) (declared : SchemaField) :
    Reports Problem.IsOfPart (queryCalls context head declared) := by
  unfold queryCalls
  split
  · refine .bind ?_ fun _ => .ok _
    unfold identifyingCall
    split
    · exact .atPosition trivial _
    · exact .bind (Value.argument_reports _ _) fun _ => .ok _
  · exact .ok _

end Build

/-! ## Builds -/

namespace Build

variable {α β : Type}

/-- Whether a build fails for good reasons only. -/
def Fails (good : BuildError → Prop) (build : Build α) : Prop :=
  ∀ before error, build before = .error error → good error

namespace Fails

variable {good : BuildError → Prop}

theorem pure (value : α) : Fails good (Pure.pure value) := by
  intro before error failed
  cases failed

/-- What comes after a step only matters for what the step returns. -/
theorem bindReturned {first : Build α} {next : α → Build β} (ofFirst : Fails good first)
    (ofNext : ∀ value, Returns first value → Fails good (next value)) :
    Fails good (first >>= next) := by
  intro before error failed
  change first before >>= _ = _ at failed
  rcases error_of_bind_eq_error failed with inFirst | ⟨⟨value, after⟩, returned, inNext⟩
  · exact ofFirst before error inFirst
  · exact ofNext value ⟨before, after, returned⟩ after error inNext

theorem bind {first : Build α} {next : α → Build β} (ofFirst : Fails good first)
    (ofNext : ∀ value, Fails good (next value)) : Fails good (first >>= next) :=
  bindReturned ofFirst fun value _ => ofNext value

theorem throw {error : BuildError} (isGood : good error) :
    Fails good (MonadExcept.throw error : Build α) := by
  intro before found failed
  cases failed
  exact isGood

theorem lift {result : Except Diagnostic α}
    (each : ∀ found, result = .error found → good (.diagnostic found)) :
    Fails good (Build.lift result) := by
  cases result with
  | ok value => exact pure value
  | error found => exact throw (each found rfl)

theorem mapM {build : α → Build β} {values : List α}
    (each : ∀ value ∈ values, Fails good (build value)) : Fails good (values.mapM build) := by
  induction values with
  | nil =>
    rw [List.mapM_nil]
    exact pure _
  | cons value values ih =>
    rw [List.mapM_cons]
    exact bind (each value List.mem_cons_self) fun _ =>
      bind (ih (List.forall_mem_cons.mp each).2) fun _ => pure _

theorem ite {condition : Prop} [Decidable condition] {left right : Build α}
    (ofLeft : condition → Fails good left) (ofRight : ¬ condition → Fails good right) :
    Fails good (if condition then left else right) := by
  split
  next holds => exact ofLeft holds
  next fails => exact ofRight fails

theorem weaken {other : BuildError → Prop} {build : Build α} (fails : Fails good build)
    (weaker : ∀ error, good error → other error) : Fails other build :=
  fun before error failed => weaker error (fails before error failed)

end Fails

variable {context : Context} {good : BuildError → Prop}

/-! ## Nodes -/

variable {origin : Origin} {parent type node : SchemaType} {selections : List Selection}
variable {below : Build Children} {directives : List Directive} {name : String}
variable {generate : Generator} {kind : NodeKind} {requisites : Requisites}

theorem field_fails {head : Field} {below : SchemaField → Build Children}
    (unknown : context.schema.field? parent head.name = none →
      good (.diagnostic (.atPosition (.unknownField head.name parent.name) head.position)))
    (broken : ∀ declared found, context.schema.field? parent head.name = some declared →
      FieldBreaks context origin.checked parent head selections declared found →
        good (.diagnostic found))
    (ofBelow : ∀ declared, context.schema.field? parent head.name = some declared →
      Fails good (below declared)) :
    Fails good (field context parent head selections origin below) := by
  unfold field
  split
  next missing => exact .throw (unknown missing)
  next declared isDeclared =>
    have made : Fails good (fieldNode context head origin declared (below declared)) := by
      refine .bind (ofBelow declared isDeclared) fun _ =>
        .bind (.lift fun found refused => ?_) fun _ =>
          .bind (.lift fun found refused => ?_) fun _ =>
            .bind (.lift fun found refused => ?_) fun _ => .pure _
      · exact broken declared found isDeclared (.arguments refused)
      · exact broken declared found isDeclared (.directives (.nodes refused))
      · exact broken declared found isDeclared (.directives (.facts refused))
    refine .ite (fun isChecked => .bind (.lift fun found refused => ?_) fun _ => made) fun _ => made
    exact broken declared found isDeclared (.rule isChecked refused)

theorem fragment_fails
    (broken : ∀ found, Directive.Break context.parameters directives found →
      good (.diagnostic found))
    (ofBelow : Fails good below) : Fails good (fragment context type directives below) := by
  refine .bind ?_ fun _ => .bind ofBelow fun _ =>
    .bind (.lift fun found refused => broken found (.facts refused)) fun _ =>
      .bind (.lift fun found refused => broken found (.nodes refused)) fun _ => .pure _
  intro before error failed
  cases failed

theorem innerFragment_fails
    (broken : ∀ found, Directive.Break context.parameters directives found →
      good (.diagnostic found))
    (ofBelow : Fails good below) : Fails good (innerFragment context type directives below) :=
  .bind (fragment_fails broken ofBelow) fun _ => .pure _

/-! ## Generated fields -/

/-- What the generated fragment on nodes lacks besides the id. -/
theorem asksNode_of_missing (demands : DemandsNode context.schema type)
    (isNode : context.schema.type? nodeInterface = some node)
    (member : name ∈ missing (context.schema.required node
      (context.schema.requisites node selections) [context.schema.names.id])
        [context.schema.names.id]) : context.schema.AsksNode type node name := by
  have fit : (context.schema.requisites node selections).Fit context.schema .fragment node
      selections := Schema.fit_requisites selections nofun rfl
  exact ⟨demands, isNode, (Schema.mem_required fit _).mp (List.mem_filter.mp member).1⟩

theorem nodeFragment_fails (demands : DemandsNode context.schema type)
    (isNode : context.schema.type? nodeInterface = some node)
    (has : context.schema.hasField node context.schema.names.id = true)
    (ofGenerate : ∀ name origin, context.schema.AsksNode type node name →
      origin.checked = false → Fails good (generate node name origin)) :
    Fails good (nodeFragment context generate node) := by
  refine innerFragment_fails (fun found broken => (Directive.not_break_nil broken).elim) ?_
  exact .bind (ofGenerate _ _ ⟨demands, isNode, .id has⟩ rfl) fun _ =>
    .bind (.mapM fun name member => ofGenerate _ _ (asksNode_of_missing demands isNode member) rfl)
      fun _ => .pure _

theorem nodeFragments_fails (fit : requisites.Fit context.schema kind type selections)
    (ofGenerate : ∀ node name origin, context.schema.AsksNode type node name →
      origin.checked = false → Fails good (generate node name origin)) :
    Fails good (nodeFragments context generate requisites) := by
  unfold nodeFragments
  split
  next => exact .pure _
  next node isNode =>
    obtain ⟨demands, found, has⟩ := fit.node node isNode
    exact .bind (nodeFragment_fails demands found has (ofGenerate node)) fun _ => .pure _

/-- A generated field fails for the lack of its declaration, or for a field that it asks for. -/
theorem requisiteField_succ_fails {depth : Nat} (unchecked : origin.checked = false)
    (unknown : context.schema.field? parent name = none →
      good (.diagnostic (.atPosition (.unknownField name parent.name) .unknown)))
    (ofAsked : ∀ declared next asked origin, context.schema.field? parent name = some declared →
      context.schema.Asks declared.type next asked → origin.checked = false →
        Fails good (requisiteField context depth next asked origin)) :
    Fails good (requisiteField context (depth + 1) parent name origin) := by
  refine field_fails unknown (fun declared found isDeclared broken => ?_)
    fun declared isDeclared => ?_
  · rw [unchecked] at broken
    exact (not_fieldBreaks_of_plain rfl rfl broken).elim
  · have fit : (context.schema.fieldRequisites declared.type []).Fit context.schema .field
        declared.type [] := Schema.fit_fieldRequisites []
    refine .bind (nodeFragments_fails fit fun node asked origin asks => ?_) fun _ =>
      .bind (.mapM fun asked member => ?_) fun _ => .pure _
    · exact ofAsked declared node asked origin isDeclared (.onNode asks)
    · exact ofAsked declared _ asked _ isDeclared (.below ((Schema.mem_required fit _).mp member))
        rfl

/-- An invariant of all fields that are asked for tells which of them can be lacking. -/
theorem requisiteField_fails (asked : SchemaType → String → Prop) (unbounded : good .unbounded)
    (unknown : ∀ parent name, asked parent name → context.schema.field? parent name = none →
      good (.diagnostic (.atPosition (.unknownField name parent.name) .unknown)))
    (next : ∀ {parent name declared type other}, asked parent name →
      context.schema.field? parent name = some declared →
        context.schema.Asks declared.type type other → asked type other)
    (isAsked : asked parent name) (unchecked : origin.checked = false) (depth : Nat) :
    Fails good (requisiteField context depth parent name origin) := by
  induction depth generalizing parent name origin with
  | zero => exact .throw unbounded
  | succ depth ih =>
    exact requisiteField_succ_fails unchecked (unknown parent name isAsked)
      fun declared type other origin isDeclared asks => ih (next isAsked isDeclared asks)

/-- Whether the generation of a field that some node demands fails for a reason. -/
inductive GenerationFails (schema : Schema) : BuildError → Prop where
  | intro {context : Context} {type : SchemaType} {name : String} {origin : Origin} {before : Nat}
      {error : BuildError} (same : context.schema = schema)
      (demanded : schema.IsDemanded type name) (unchecked : origin.checked = false)
      (failed : generator context type name origin before = .error error) :
      GenerationFails schema error

theorem generator_fails (demanded : context.schema.IsDemanded type name)
    (unchecked : origin.checked = false) :
    Fails (GenerationFails context.schema) (generator context type name origin) :=
  fun _ _ failed => .intro rfl demanded unchecked failed

/-- A field that cannot be generated is unknown, or goes on without end. -/
theorem GenerationFails.isLookup {schema : Schema} {error : BuildError}
    (fails : GenerationFails schema error) :
    error = .unbounded ∨ ∃ found, error = .diagnostic found ∧ found.problem.IsLookup := by
  cases fails with
  | @intro context type name origin before _ _ _ unchecked failed =>
    have lookups : Fails (fun error => error = .unbounded ∨
        ∃ found, error = .diagnostic found ∧ found.problem.IsLookup)
        (generator context type name origin) :=
      requisiteField_fails (fun _ _ => True) (.inl rfl)
        (fun _ _ _ _ => .inr ⟨_, rfl, trivial⟩) (fun _ _ _ => trivial) trivial unchecked _
    exact lookups before _ failed

/-! ## Selections -/

theorem children_fails (carries : context.schema.Carries kind type)
    (fit : requisites.Fit context.schema kind type selections)
    (generated : ∀ error, GenerationFails context.schema error → good error)
    (ofFragments : ∀ selection ∈ Selection.fragments selections,
      Fails good (fragmentBuild context type selection))
    (ofFields : ∀ required, ∀ selected ∈ Selection.fields selections,
      Fails good (fieldBuild context type required selected)) :
    Fails good (children context type requisites selections) := by
  rw [children_eq]
  refine .bind (.mapM ofFragments) fun _ => .bind ?_ fun _ => .bind (.mapM (ofFields _)) fun _ =>
    .bind (.mapM fun name member => ?_) fun _ => .pure _
  · refine nodeFragments_fails fit fun node name origin asks unchecked => ?_
    have onNode : context.schema.Carries .fragment node :=
      ⟨Schema.declares_of_type? asks.isNode, nofun⟩
    exact (generator_fails ⟨_, _, onNode, asks.demanded⟩ unchecked).weaken generated
  · have demanded := (Schema.mem_required fit _).mp (List.mem_filter.mp member).1
    exact (generator_fails ⟨_, _, carries, demanded⟩ rfl).weaken generated

end Build

namespace Definition

open Build

variable {schema : Schema} {options : BuildOptions} {definition : Definition}

/-- Why a build of a definition can fail. -/
def FailsBy (schema : Schema) (options : BuildOptions) (definition : Definition)
    (error : BuildError) : Prop :=
  definition.AtFault schema options error ∨ GenerationFails schema error

variable {parent type : SchemaType} {siblings : List Selection} {requisites : Requisites}
variable {good : BuildError → Prop} {inputArgument : String} {selected : SelectedField}
variable {found : Diagnostic} {kind : NodeKind}

theorem conditionType_fails {inner : List Selection} {head : InlineFragment}
    (visited : definition.Visits schema kind parent siblings)
    (member : .inline head inner ∈ siblings) :
    Fails (definition.FailsBy schema options)
      (conditionType (definition.innerContext schema options) parent head) := by
  unfold conditionType
  split
  next => exact .pure _
  next name isCondition =>
    split
    next => exact .pure _
    next unknown =>
      rw [innerContext_schema] at unknown
      exact .throw (.inl (.misses (.inline visited member isCondition unknown)))

theorem reference_fails {head : Spread} (visited : definition.Visits schema kind parent siblings)
    (member : .spread head ∈ siblings) :
    Fails (definition.FailsBy schema options) (reference head) := by
  unfold reference
  split
  next => exact .pure _
  next directive others isFirst =>
    have first : head.directives.head? = some directive := by rw [isFirst, List.head?_cons]
    exact .throw (.inl (.breaks (.spread visited member first)))

/-- What goes wrong with the nodes below a visited selection set goes wrong with a selection
in it, with something that is selected below, or with a generated field. -/
theorem selections_fails {selections : List Selection}
    (visited : definition.Visits schema kind type selections)
    (fit : requisites.Fit schema kind type selections) :
    Fails (definition.FailsBy schema options)
      (children (definition.innerContext schema options) type requisites selections) := by
  have sameSchema : (definition.innerContext schema options).schema = schema := innerContext_schema
  induction selections using Selection.setInduction generalizing kind type requisites with
  | step selections ih =>
    refine children_fails (sameSchema.symm ▸ visited.carries) (sameSchema.symm ▸ fit)
      (fun error generated => .inr (sameSchema ▸ generated)) (fun selection member => ?_)
      fun required selected member => ?_
    · obtain ⟨member, noField⟩ := Selection.mem_of_mem_fragments member
      cases selection with
      | field => cases noField
      | spread head => exact reference_fails visited member
      | inline head inner =>
        refine .bindReturned (conditionType_fails visited member) fun narrowed returns =>
          innerFragment_fails (fun found broken => ?_) ?_
        · exact .inl (.breaks (.inline visited member broken))
        · have opens := opens_of_conditionType inner returns
          rw [innerContext_schema] at opens ⊢
          exact ih _ member (visited.inside member opens)
            (Schema.fit_requisites inner (by simp [Selection.nodeKind]) rfl)
    · have member := Selection.mem_fields.mp member
      refine field_fails (fun unknown => ?_) (fun declared found isDeclared broken => ?_)
        fun declared isDeclared => ?_
      · rw [innerContext_schema] at unknown
        exact .inl (.misses (.field visited member unknown))
      · rw [innerContext_schema] at isDeclared
        exact .inl (.breaks (.field visited member isDeclared broken))
      · rw [innerContext_schema] at isDeclared ⊢
        exact ih _ member (visited.inside member (.field isDeclared))
          (Schema.fit_fieldRequisites selected.selections)

/-! ## Definitions -/

theorem rootType_fails {type : Option SchemaType} {context : Context}
    (isRoot : context.schema.rootType? definition.kind = type)
    (broken : ∀ found, OperationBreaks context inputArgument definition found →
      good (.diagnostic found)) : Fails good (rootType type definition) := by
  unfold rootType
  split
  next => exact .pure _
  next => exact .throw (broken _ (.rootType isRoot))

theorem rootField_fails {context : Context}
    (broken : ∀ found, OperationBreaks context inputArgument definition found →
      good (.diagnostic found)) : Fails good (rootField context definition) := by
  have ofCount (isChecked : context.validates = true) :
      Fails good (lift (Rule.rootFieldCount definition)) :=
    .lift fun found refused => broken found (.rootFieldCount isChecked refused)
  unfold rootField
  split
  next none =>
    have noFirst : definition.first? = Option.none := by rw [first?, none, List.head?_nil]
    have ofNone : Fails good (refuse (.missingRootField definition.name) definition.position :
        Build SelectedField) := .throw (broken _ (.rootField noFirst))
    exact .ite (fun isChecked => .bind (ofCount isChecked) fun _ => ofNone) fun _ => ofNone
  next =>
    exact .ite (fun isChecked => .bind (ofCount isChecked) fun _ => .pure _) fun _ => .pure _

theorem declaredRootField_fails {root : SchemaType}
    (isRoot : schema.rootType? definition.kind = some root)
    (isFirst : definition.first? = some selected) :
    Fails (definition.FailsBy schema options)
      (declaredRootField (definition.context schema options) root selected.field) := by
  unfold declaredRootField
  split
  next => exact .pure _
  next unknown => exact .throw (.inl (.misses (.rootField isRoot isFirst unknown)))

/-- What an operation selects below its root field. -/
theorem rootSelections_fails {root : SchemaType} {declared : SchemaField}
    (isOperation : definition.kind.isOperation = true)
    (isRoot : schema.rootType? definition.kind = some root)
    (isFirst : definition.first? = some selected)
    (isDeclared : schema.field? root selected.field.name = some declared)
    (fit : requisites.Fit schema definition.kind.nodeKind declared.type selected.selections) :
    Fails (definition.FailsBy schema options)
      (children (definition.context schema options) declared.type requisites
        selected.selections) := by
  rw [← innerContext_of_operation isOperation]
  exact selections_fails (.operation isRoot isFirst isDeclared) fit

theorem query_fails (isQuery : definition.kind = .query) :
    Fails (definition.FailsBy schema options)
      (query (definition.context schema options) definition) := by
  have isOperation : definition.kind.isOperation = true := by rw [isQuery]; rfl
  have sameType : schema.rootType? definition.kind = schema.queryType? := by rw [isQuery]; rfl
  have broken (found : Diagnostic) (breaks : OperationBreaks (definition.context schema options)
      options.inputArgument definition found) :
      definition.FailsBy schema options (.diagnostic found) :=
    .inl (.breaks (.operation isOperation breaks))
  refine .bindReturned (rootType_fails sameType broken) fun root isRoot => ?_
  have isRoot : schema.rootType? definition.kind = some root :=
    sameType.trans (rootType_returns isRoot)
  refine .bindReturned (rootField_fails broken) fun selected isSelected => ?_
  have isFirst : definition.first? = some selected := rootField_head isSelected
  refine .bindReturned (declaredRootField_fails isRoot isFirst) fun declared returns => ?_
  have isDeclared : schema.field? root selected.field.name = some declared :=
    declaredRootField_found returns
  have fit : (schema.requisites declared.type selected.selections).Fit schema
      definition.kind.nodeKind declared.type selected.selections := by
    rw [isQuery]
    exact Schema.fit_requisites _ nofun rfl
  refine .bind (.lift fun found refused => ?_) fun _ =>
    .bind (rootSelections_fails isOperation isRoot isFirst isDeclared fit) fun _ =>
      .bind (.lift fun found refused => ?_) fun _ =>
        .bind (.lift fun found refused => ?_) fun _ => .pure _
  · exact broken found (.arity isQuery isFirst refused)
  · exact broken found (.call isQuery isRoot isFirst isDeclared refused)
  · exact broken found (.directives isFirst refused)

/-- Mutations and subscriptions differ in their root type, in the field by which clients
recognize the response and in the tree that is made. -/
theorem operation_fails {type : Option SchemaType} {clientId : String}
    (isOperation : definition.kind.isOperation = true) (notQuery : definition.kind ≠ .query)
    (sameType : schema.rootType? definition.kind = type)
    (isClientId : definition.kind.nodeKind.clientId? schema.names = some clientId)
    (tree : OperationNode × Children → Root) :
    Fails (definition.FailsBy schema options)
      (rootType type definition >>= fun root =>
        operation (definition.context schema options) options.inputArgument root clientId
          definition >>= fun result => pure (tree result)) := by
  have broken (found : Diagnostic) (breaks : OperationBreaks (definition.context schema options)
      options.inputArgument definition found) :
      definition.FailsBy schema options (.diagnostic found) :=
    .inl (.breaks (.operation isOperation breaks))
  refine .bindReturned (rootType_fails sameType broken) fun root isRoot =>
    .bind ?_ fun _ => .pure _
  have isRoot : schema.rootType? definition.kind = some root :=
    sameType.trans (rootType_returns isRoot)
  refine .bindReturned (rootField_fails broken) fun selected isSelected => ?_
  have isFirst : definition.first? = some selected := rootField_head isSelected
  refine .bindReturned (declaredRootField_fails isRoot isFirst) fun declared returns => ?_
  have isDeclared : schema.field? root selected.field.name = some declared :=
    declaredRootField_found returns
  refine .bind (.lift fun found refused => ?_) fun _ =>
    .bind (rootSelections_fails isOperation isRoot isFirst isDeclared
      (Schema.fit_operation _ isClientId)) fun _ =>
        .bind (.lift fun found refused => ?_) fun _ => .pure _
  · exact broken found (.input notQuery isRoot isFirst isDeclared refused)
  · exact broken found (.directives isFirst refused)

theorem fragmentRoot_fails (isFragment : definition.kind = .fragment) :
    Fails (definition.FailsBy schema options)
      (fragmentRoot (definition.context schema options) definition) := by
  unfold fragmentRoot
  split
  next unknown => exact .throw (.inl (.misses (.condition isFragment unknown)))
  next type isType =>
    refine .bindReturned
      (.lift fun found refused => .inl (.breaks (.parameters isFragment refused)))
      fun listed returns => .bind ?_ fun result => ?_
    · have inner : definition.innerContext schema options =
          fragmentContext (definition.context schema options) definition listed :=
        innerContext_of_fragment isFragment (lift_returns returns)
      refine fragment_fails (fun found broken => .inl (.breaks (.fragment isFragment ?_))) ?_
      · rw [inner]
        exact broken
      · show Fails _ (children (fragmentContext (definition.context schema options) definition
          listed) type (schema.requisites type definition.selections) definition.selections)
        rw [← inner]
        exact selections_fails (.fragment isFragment isType) (Schema.fit_requisites _ nofun rfl)
    · split
      cases listed with
      | none | some parameters => exact .pure _

/-- Whatever a build of a definition fails for, either something that is written in the
definition is at fault, or a demanded field cannot be generated. -/
theorem root_failsBy : Fails (definition.FailsBy schema options)
    (root (definition.context schema options) options.inputArgument definition) := by
  unfold root
  split
  next isQuery => exact query_fails isQuery
  next isMutation =>
    exact operation_fails (by simp [isMutation, DefinitionKind.isOperation]) (by simp [isMutation])
      (by rw [isMutation]; rfl) (by rw [isMutation]; rfl) _
  next isSubscription =>
    exact operation_fails (by simp [isSubscription, DefinitionKind.isOperation])
      (by simp [isSubscription]) (by rw [isSubscription]; rfl) (by rw [isSubscription]; rfl) _
  next isFragment => exact fragmentRoot_fails isFragment
  next code isOther => exact .throw (.inl (.kind isOther))

/-- A build that fails as a whole fails for one of the reasons of its definition. -/
theorem failsBy_of_build {error : BuildError}
    (failed : definition.build schema options = .error error) :
    definition.FailsBy schema options error := by
  cases outcome : root (definition.context schema options) options.inputArgument definition 0 with
  | error found =>
    rw [build, StateT.run', outcome] at failed
    cases failed
    exact root_failsBy 0 _ outcome
  | ok result =>
    rw [build, StateT.run', outcome] at failed
    cases failed

/-! ## Normal forms -/

/-- Everything but the directives of spreads is reported as a problem of a part. -/
theorem Breaks.isOfPart (breaks : definition.Breaks schema options found) :
    found.problem.IsOfPart ∨ ∃ kind parent siblings head directive,
      definition.Visits schema kind parent siblings ∧ .spread head ∈ siblings ∧
      directive ∈ head.directives ∧
      found.problem = .unsupportedSpreadDirective directive.name head.name := by
  have ofDirectives {parameters : List String} {directives : List Directive}
      (broken : Directive.Break parameters directives found) : found.problem.IsOfPart := by
    cases broken with
    | nodes refused => exact Directive.nodes_reports _ _ found refused
    | facts refused => exact Directive.relayFacts_reports _ _ found refused
  cases breaks with
  | operation isOperation broken =>
    left
    cases broken with
    | rootType | rootField => exact trivial
    | rootFieldCount isChecked refused => exact Rule.rootFieldCount_reports _ found refused
    | arity isQuery isFirst refused => exact Rule.queryRootFieldArity_reports _ found refused
    | call isQuery isRoot isFirst isDeclared refused =>
      exact queryCalls_reports _ _ _ found refused
    | input notQuery isRoot isFirst isDeclared refused =>
      exact Rule.mutationField_reports _ _ _ found refused
    | directives isFirst refused => exact Directive.nodes_reports _ _ found refused
  | parameters isFragment refused => exact .inl (Directive.parameters_reports _ found refused)
  | fragment isFragment broken => exact .inl (ofDirectives broken)
  | field visited member isDeclared broken =>
    left
    cases broken with
    | rule isChecked refused => exact check_reports _ _ _ _ _ found refused
    | arguments refused => exact calls_reports _ _ _ found refused
    | directives broken => exact ofDirectives broken
  | inline visited member broken => exact .inl (ofDirectives broken)
  | spread visited member isFirst =>
    exact .inr ⟨_, _, _, _, _, visited, member, List.mem_of_head? isFirst, rfl⟩

/-- Names that the schema lacks are told apart from all else that is wrong. -/
theorem Breaks.not_isLookup (breaks : definition.Breaks schema options found) :
    ¬ found.problem.IsLookup := by
  rcases breaks.isOfPart with ofPart | ⟨_, _, _, _, _, _, _, _, isSpread⟩
  · exact ofPart.not_isLookup
  · rw [isSpread]
    exact id

/-- The spreads that are visited are spreads of the definition. -/
theorem Visits.spreads_subset {selections : List Selection}
    (visited : definition.Visits schema kind type selections) :
    Selection.spreads selections ⊆ Selection.spreads definition.selections := by
  induction visited with
  | operation isRoot isFirst isDeclared =>
    exact Selection.spreads_of_fields (List.mem_of_head? isFirst)
  | fragment isFragment found => exact List.Subset.refl _
  | inside visited member opens ih =>
    have within := Selection.mem_spreads member
    cases opens <;>
      · rw [Selection.spreadsOf] at within
        exact List.Subset.trans within ih

end Definition

/-- Whether no tree was built for a reason that every normal form can have. -/
def BuildError.IsExpected : BuildError → Prop
  | .diagnostic found => found.problem.IsOfTree
  | .unsupportedKind _ => False
  | .unbounded => True

/-- An operation or a fragment with bare spreads fails to be built for expected reasons
only. -/
theorem Definition.FailsBy.isExpected {schema : Schema} {options : BuildOptions}
    {definition : Definition} {error : BuildError} (formed : definition.HeadWellFormed)
    (bare : ∀ spread ∈ Selection.spreads definition.selections, spread.directives = [])
    (fails : definition.FailsBy schema options error) : error.IsExpected := by
  rcases fails with atFault | generated
  · cases atFault with
    | misses misses => cases misses <;> exact trivial
    | breaks breaks =>
      rcases breaks.isOfPart with ofPart | ⟨_, _, siblings, head, directive, visited, member,
        noted, _⟩
      · exact ofPart.isOfTree
      · have spread : head ∈ Selection.spreads siblings :=
          Selection.mem_spreads member (by rw [Selection.spreadsOf]; exact List.mem_cons_self)
        rw [bare head (visited.spreads_subset spread)] at noted
        cases noted
    | kind isOther =>
      rw [Definition.HeadWellFormed, isOther] at formed
      exact formed.elim
  · rcases generated.isLookup with rfl | ⟨found, rfl, isLookup⟩
    · exact trivial
    · exact isLookup.isOfTree

end QueryTree
