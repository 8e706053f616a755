import QueryTree.Proofs.Build.Selected
import QueryTree.Proofs.Document.Rule

/-!
# Trees do not depend on positions

A tree can be built from a definition exactly if it can be built from the same
definition without positions, and both trees are the same.
-/

namespace QueryTree

variable {α β γ κ : Type}

namespace Build

/-- From the same count of fragments both builds fail, or both go on to the same
count with related results. -/
def Agrees (related : α → β → Prop) (left : Build α) (right : Build β) : Prop :=
  ∀ count, Agree (fun leftResult rightResult =>
    related leftResult.1 rightResult.1 ∧ leftResult.2 = rightResult.2) (left count) (right count)

namespace Agrees

variable {related : α → β → Prop} {further : γ → κ → Prop}

theorem refl (build : Build α) : Agrees Eq build build := by
  intro count
  cases build count with
  | ok result => exact .ok ⟨rfl, rfl⟩
  | error found => exact .error _ _

theorem pure {left : α} {right : β} (holds : related left right) :
    Agrees related (Pure.pure left) (Pure.pure right) :=
  fun _ => .ok ⟨holds, rfl⟩

theorem bind {left : Build α} {right : Build β} {leftNext : α → Build γ} {rightNext : β → Build κ}
    (before : Agrees related left right)
    (after : ∀ leftValue rightValue, related leftValue rightValue →
      Agrees further (leftNext leftValue) (rightNext rightValue)) :
    Agrees further (left >>= leftNext) (right >>= rightNext) := by
  intro count
  refine (before count).bind fun ⟨leftValue, next⟩ ⟨rightValue, _⟩ ⟨holds, same⟩ => ?_
  cases same
  exact after leftValue rightValue holds next

theorem bindSame {left right : Build α} {leftNext : α → Build γ} {rightNext : α → Build κ}
    (before : Agrees Eq left right)
    (after : ∀ value, Agrees further (leftNext value) (rightNext value)) :
    Agrees further (left >>= leftNext) (right >>= rightNext) :=
  before.bind fun value _ equal => equal ▸ after value

theorem mapM {left : α → Build γ} {right : β → Build γ} {image : α → β} {values : List α}
    (each : ∀ value ∈ values, Agrees Eq (left value) (right (image value))) :
    Agrees Eq (values.mapM left) ((values.map image).mapM right) := by
  induction values with
  | nil => exact refl _
  | cons value values ih =>
    rw [List.map_cons, List.mapM_cons, List.mapM_cons]
    have rest := ih (List.forall_mem_cons.mp each).2
    exact (each value List.mem_cons_self).bindSame fun _ => rest.bindSame fun _ => refl _

theorem lift {left : Except Diagnostic α} {right : Except Diagnostic β}
    (agree : Agree related left right) : Agrees related (Build.lift left) (Build.lift right) := by
  intro count
  cases agree with
  | ok holds => exact .ok ⟨holds, rfl⟩
  | error => exact .error _ _

theorem refuse (leftProblem rightProblem : Problem) (leftPlace rightPlace : Position) :
    Agrees related (Build.refuse leftProblem leftPlace) (Build.refuse rightProblem rightPlace) :=
  fun _ => .error _ _

end Agrees

/-! ## Fields and fragments -/

theorem check_stripped (context : Context) (parent : SchemaType) (head : Field)
    (selections : List Selection) (declared : SchemaField) :
    Agree Eq (check context parent head selections declared)
      (check context parent head.stripped (selections.map Selection.stripped) declared) := by
  refine (Rule.nodeField_stripped context.schema head declared parent).bindSame fun _ => ?_
  refine .ite (fun _ => ?_) fun _ => .pure rfl
  refine (Rule.connectionArguments_stripped head).bindSame fun _ => ?_
  exact Rule.connectionSubfields_stripped context.schema head selections declared.type
    context.pattern

theorem call_stripped (context : Context) (head : Field) (declared : SchemaField)
    (argument : Argument) :
    Agree Eq (call context head declared argument)
      (call context head.stripped declared argument.stripped) := by
  unfold call
  rw [show argument.stripped.name = argument.name from rfl]
  cases declared.argument? argument.name with
  | none => exact .error _ _
  | some parameter =>
    exact (Value.argument_stripped context.parameters argument.value).bindSame fun _ => .pure rfl

theorem calls_stripped (context : Context) (head : Field) (declared : SchemaField) :
    Agree Eq (calls context head declared) (calls context head.stripped declared) := by
  unfold calls
  rw [show head.stripped.arguments = head.arguments.map Argument.stripped from rfl]
  cases head.arguments with
  | nil => exact .ok rfl
  | cons argument arguments =>
    refine .bindSame ?_ fun _ => .pure rfl
    exact Agree.mapM fun argument _ => call_stripped context head declared argument

theorem field_stripped (context : Context) (parent : SchemaType) (head : Field)
    (selections : List Selection) (origin : Origin) {below other : SchemaField → Build Children}
    (inside : ∀ declared, Agrees Eq (below declared) (other declared)) :
    Agrees Eq (field context parent head selections origin below)
      (field context parent head.stripped (selections.map Selection.stripped) origin other) := by
  unfold field
  rw [show head.stripped.name = head.name from rfl]
  cases context.schema.field? parent head.name with
  | none => exact .refuse _ _ _ _
  | some declared =>
    have proceed : Agrees Eq (fieldNode context head origin declared (below declared))
        (fieldNode context head.stripped origin declared (other declared)) := by
      refine (inside declared).bindSame fun _ => ?_
      refine .bindSame (.lift (calls_stripped context head declared)) fun _ => ?_
      refine .bindSame (.lift (Directive.nodes_stripped _ head.directives)) fun _ => ?_
      exact .bindSame (.lift (Directive.relayFacts_stripped _ head.directives)) fun _ =>
        .pure rfl
    cases origin.checked with
    | true =>
      exact .bindSame (.lift (check_stripped context parent head selections declared))
        fun _ => proceed
    | false => exact proceed

variable {below other : Build Children} {context : Context} {parent : SchemaType}

theorem fragment_stripped (context : Context) (type : SchemaType) (directives : List Directive)
    (inside : Agrees Eq below other) :
    Agrees Eq (fragment context type directives below)
      (fragment context type (directives.map Directive.stripped) other) := by
  refine .bindSame (.refl _) fun _ => inside.bindSame fun _ => ?_
  refine .bindSame (.lift (Directive.relayFacts_stripped _ directives)) fun _ => ?_
  exact .bindSame (.lift (Directive.nodes_stripped _ directives)) fun _ => .pure rfl

theorem innerFragment_stripped (context : Context) (type : SchemaType) (directives : List Directive)
    (inside : Agrees Eq below other) :
    Agrees Eq (innerFragment context type directives below)
      (innerFragment context type (directives.map Directive.stripped) other) :=
  (fragment_stripped context type directives inside).bindSame fun _ => .pure rfl

theorem conditionType_stripped (context : Context) (parent : SchemaType) (head : InlineFragment) :
    Agrees Eq (conditionType context parent head) (conditionType context parent head.stripped) := by
  unfold conditionType
  rw [show head.stripped.condition = head.condition from rfl]
  cases head.condition with
  | none => exact .pure rfl
  | some name =>
    dsimp only
    cases context.schema.type? name with
    | none => exact .refuse _ _ _ _
    | some type => exact .pure rfl

theorem reference_stripped (head : Spread) :
    Agrees Eq (reference head) (reference head.stripped) := by
  unfold reference
  rw [show head.stripped.directives = head.directives.map Directive.stripped from rfl]
  cases head.directives with
  | nil => exact .pure rfl
  | cons directive directives => exact .refuse _ _ _ _

/-! ## Selection sets -/

variable (selections : List Selection)

theorem hasSpread_stripped :
    hasSpread (selections.map Selection.stripped) = hasSpread selections := by
  rw [hasSpread, hasSpread, List.any_map]
  apply congrArg (selections.any ·)
  funext selection
  cases selection <;> simp only [Function.comp, Selection.stripped]

theorem fields_map_stripped :
    Selection.fields (selections.map Selection.stripped) =
      (Selection.fields selections).map fun selected =>
        ⟨selected.field.stripped, selected.selections.map Selection.stripped⟩ := by
  rw [Selection.fields, Selection.fields, List.filterMap_map, List.map_filterMap]
  apply congrArg (List.filterMap · selections)
  funext selection
  cases selection with
  | field head inner =>
    simp only [Function.comp, Selection.stripped, Selection.field?, Selection.strippedAll_eq_map,
      Option.map_some]
  | spread | inline =>
    simp only [Function.comp, Selection.stripped, Selection.field?, Option.map_none]

theorem fragments_map_stripped :
    Selection.fragments (selections.map Selection.stripped) =
      (Selection.fragments selections).map Selection.stripped := by
  rw [Selection.fragments, Selection.fragments, List.filter_map]
  apply congrArg (fun test => (selections.filter test).map Selection.stripped)
  funext selection
  cases selection <;> simp only [Function.comp, Selection.stripped] <;> rfl

variable (schema : Schema) (type : SchemaType) (selections : List Selection)

theorem identity_stripped :
    schema.identity type (selections.map Selection.stripped) = schema.identity type selections := by
  have onNode : (selections.map Selection.stripped).any (·.isOnNode) =
      selections.any (·.isOnNode) := by
    rw [List.any_map]
    apply congrArg (selections.any ·)
    funext selection
    cases selection <;> simp only [Function.comp, Selection.stripped] <;> rfl
  rw [Schema.identity, Schema.identity, onNode]

theorem requisites_stripped :
    schema.requisites type (selections.map Selection.stripped) =
      schema.requisites type selections := by
  rw [Schema.requisites, identity_stripped, Schema.requisites]

theorem fieldRequisites_stripped :
    schema.fieldRequisites type (selections.map Selection.stripped) =
      schema.fieldRequisites type selections := by
  simp only [Schema.fieldRequisites, identity_stripped]

theorem fieldBuild_stripped {required : List String} {selected : SelectedField}
    (inside : ∀ type requisites, Agrees Eq (children context type requisites selected.selections)
      (children context type requisites (selected.selections.map Selection.stripped))) :
    Agrees Eq (fieldBuild context parent required selected) (fieldBuild context parent required
      ⟨selected.field.stripped, selected.selections.map Selection.stripped⟩) := by
  unfold fieldBuild
  simp only [fieldRequisites_stripped]
  exact field_stripped context parent _ _ _ fun declared => inside declared.type _

theorem fragmentBuild_stripped {selection : Selection}
    (inside : ∀ type requisites, Agrees Eq (children context type requisites selection.inner)
      (children context type requisites (selection.inner.map Selection.stripped))) :
    Agrees Eq (fragmentBuild context parent selection)
      (fragmentBuild context parent selection.stripped) := by
  cases selection with
  | field head inner =>
    rw [Selection.stripped]
    exact .refl _
  | spread head =>
    rw [Selection.stripped]
    exact reference_stripped head
  | inline head inner =>
    rw [Selection.stripped, Selection.strippedAll_eq_map]
    refine (conditionType_stripped context parent head).bindSame fun type => ?_
    rw [requisites_stripped]
    exact innerFragment_stripped context type head.directives (inside type _)

theorem children_stripped (context : Context) (type : SchemaType) (requisites : Requisites)
    (selections : List Selection) :
    Agrees Eq (children context type requisites selections)
      (children context type requisites (selections.map Selection.stripped)) := by
  induction selections using Selection.setInduction generalizing type requisites with
  | step selections ih =>
    have sameNames : (Selection.fields (selections.map Selection.stripped)).map (·.field.name) =
        (Selection.fields selections).map (·.field.name) := by
      rw [fields_map_stripped, List.map_map]
      rfl
    rw [children_eq, children_eq, sameNames, hasSpread_stripped, fields_map_stripped,
      fragments_map_stripped]
    refine .bindSame (.mapM fun selection member => ?_) fun _ => .bindSame (.refl _) fun _ => ?_
    · exact fragmentBuild_stripped fun type requisites =>
        ih _ (Selection.mem_of_mem_fragments member).1 type requisites
    · refine .bindSame (.mapM fun selected member => ?_) fun _ => .refl _
      exact fieldBuild_stripped fun type requisites =>
        ih _ (Selection.mem_fields.mp member) type requisites

/-! ## Roots -/

theorem rootField_stripped (context : Context) (definition : Definition) :
    Agrees (fun left right => right =
        ⟨left.field.stripped, left.selections.map Selection.stripped⟩)
      (rootField context definition) (rootField context definition.stripped) := by
  have selected : Selection.fields definition.stripped.selections = _ :=
    fields_map_stripped definition.selections
  unfold rootField
  rw [selected]
  cases Selection.fields definition.selections with
  | nil =>
    cases context.validates with
    | true =>
      exact .bindSame (.lift (Rule.rootFieldCount_stripped definition)) fun _ =>
        .refuse _ _ _ _
    | false => exact .refuse _ _ _ _
  | cons first others =>
    cases context.validates with
    | true =>
      exact .bindSame (.lift (Rule.rootFieldCount_stripped definition)) fun _ => .pure rfl
    | false => exact .pure rfl

theorem declaredRootField_stripped (context : Context) (type : SchemaType) (head : Field) :
    Agrees Eq (declaredRootField context type head)
      (declaredRootField context type head.stripped) := by
  unfold declaredRootField
  rw [show head.stripped.name = head.name from rfl]
  cases context.schema.field? type head.name with
  | some declared => exact .pure rfl
  | none => exact .refuse _ _ _ _

theorem rootType_stripped (type : Option SchemaType) (definition : Definition) :
    Agrees Eq (rootType type definition) (rootType type definition.stripped) := by
  cases type with
  | some type => exact .pure rfl
  | none => exact .refuse _ _ _ _

theorem identifyingCall_stripped (context : Context) (head : Field) (declared : SchemaField)
    (argument : Argument) :
    Agree Eq (identifyingCall context head declared argument)
      (identifyingCall context head.stripped declared argument.stripped) := by
  unfold identifyingCall
  rw [show argument.stripped.name = argument.name from rfl]
  cases declared.argument? argument.name with
  | none => exact .error _ _
  | some parameter =>
    exact (Value.argument_stripped context.parameters argument.value).bindSame fun _ => .pure rfl

theorem queryCalls_stripped (context : Context) (head : Field) (declared : SchemaField) :
    Agree Eq (queryCalls context head declared) (queryCalls context head.stripped declared) := by
  unfold queryCalls
  rw [show head.stripped.arguments = head.arguments.map Argument.stripped from rfl]
  match head.arguments with
  | [] => exact .ok rfl
  | [argument] =>
    exact (identifyingCall_stripped context head declared argument).bindSame fun _ => .pure rfl
  | _ :: _ :: _ => exact .ok rfl

theorem rootDirectives_stripped (parameters : List String) (definition : Definition)
    (head : Field) :
    Agree Eq (Directive.nodes parameters (definition.directives ++ head.directives))
      (Directive.nodes parameters (definition.stripped.directives ++ head.stripped.directives)) := by
  have stripped := Directive.nodes_stripped parameters (definition.directives ++ head.directives)
  rw [List.map_append] at stripped
  exact stripped

theorem query_stripped (context : Context) (definition : Definition) :
    Agrees Eq (query context definition) (query context definition.stripped) := by
  refine (rootType_stripped _ definition).bindSame fun type => ?_
  refine (rootField_stripped context definition).bind fun ⟨head, selections⟩ _ equal => ?_
  subst equal
  refine (declaredRootField_stripped context type head).bindSame fun declared => ?_
  refine .bindSame (.lift (Rule.queryRootFieldArity_stripped head)) fun _ => ?_
  dsimp only
  rw [requisites_stripped]
  refine (children_stripped context declared.type _ selections).bindSame fun _ => ?_
  refine .bindSame (.lift (queryCalls_stripped context head declared)) fun _ => ?_
  exact .bindSame (.lift (rootDirectives_stripped _ definition head)) fun _ => .pure rfl

theorem operation_stripped (context : Context) (inputArgument : String) (type : SchemaType)
    (clientId : String) (definition : Definition) :
    Agrees Eq (operation context inputArgument type clientId definition)
      (operation context inputArgument type clientId definition.stripped) := by
  refine (rootField_stripped context definition).bind fun ⟨head, selections⟩ _ equal => ?_
  subst equal
  refine (declaredRootField_stripped context type head).bindSame fun declared => ?_
  refine .bindSame (.lift (Rule.mutationField_stripped head declared inputArgument)) fun _ => ?_
  dsimp only
  rw [requisites_stripped]
  refine (children_stripped context declared.type _ selections).bindSame fun _ => ?_
  exact .bindSame (.lift (rootDirectives_stripped _ definition head)) fun _ => .pure rfl

theorem fragmentRoot_stripped (context : Context) (definition : Definition) :
    Agrees Eq (fragmentRoot context definition) (fragmentRoot context definition.stripped) := by
  unfold fragmentRoot
  rw [show definition.stripped.condition = definition.condition from rfl]
  cases context.schema.type? definition.condition with
  | none => exact .refuse _ _ _ _
  | some type =>
    refine .bindSame (.lift (Directive.parameters_stripped definition.directives)) fun listed => ?_
    rw [show definition.stripped.directives = definition.directives.map Directive.stripped
      from rfl, Directive.isPattern_stripped]
    dsimp only
    rw [show definition.stripped.selections = definition.selections.map Selection.stripped
      from rfl, requisites_stripped]
    refine .bindSame (fragment_stripped _ type definition.directives
      (children_stripped _ type _ definition.selections)) fun _ => ?_
    exact .refl _

theorem root_stripped (context : Context) (inputArgument : String) (definition : Definition) :
    Agrees Eq (root context inputArgument definition)
      (root context inputArgument definition.stripped) := by
  unfold root
  rw [show definition.stripped.kind = definition.kind from rfl]
  cases definition.kind with
  | query => exact query_stripped context definition
  | mutation | subscription =>
    refine (rootType_stripped _ definition).bindSame fun type => ?_
    exact (operation_stripped context inputArgument type _ definition).bindSame fun _ => .pure rfl
  | fragment => exact fragmentRoot_stripped context definition
  | other code => exact fun _ => .error _ _

end Build

theorem Definition.context_stripped (schema : Schema) (options : BuildOptions)
    (definition : Definition) :
    definition.stripped.context schema options = definition.context schema options := by
  have generated : (Directive.find? generatedName definition.stripped.directives).isNone =
      (Directive.find? generatedName definition.directives).isNone := by
    rw [show definition.stripped.directives = definition.directives.map Directive.stripped
      from rfl, Directive.find?_stripped, Option.isNone_map]
  rw [Definition.context, Definition.context, generated]
  rfl

/-- A definition and the same without positions have the same tree. -/
theorem Definition.build_stripped (schema : Schema) (options : BuildOptions)
    (definition : Definition) :
    Agree Eq (definition.build schema options) (definition.stripped.build schema options) := by
  unfold Definition.build
  rw [Definition.context_stripped]
  refine (Build.root_stripped _ options.inputArgument definition 0).map fun left right same => ?_
  exact same.1

end QueryTree
