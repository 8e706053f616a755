import QueryTree.Proofs.Build.Fault
import QueryTree.Proofs.Build.Site
import QueryTree.Proofs.Document.Definition

/-!
# Selection sets, one inside another

The array of a node is built from the fields and the fragments of a selection set, and each
of them opens a set of its own.  What is shown of every set may therefore be assumed of the
sets inside it.

A relation between selections and nodes holds of all nodes that a build returns if it
carries over from the nodes of an array to the node above them.  A generated node is
regarded as if its selection had been written: a field without anything below it, or the
fragment that selects the id of nodes.
-/

namespace QueryTree

namespace Selection

variable {selections : List Selection}

/-- Induction on a selection set, with the property assumed of the sets inside it. -/
@[elab_as_elim]
theorem setInduction {motive : List Selection → Prop}
    (step : ∀ selections, (∀ selection ∈ selections, motive selection.inner) → motive selections)
    (selections : List Selection) : motive selections := by
  have inside (selection : Selection) : motive selection.inner := by
    induction selection using Selection.induction with
    | field head inner ih => exact step inner ih
    | spread head => exact step [] (by simp)
    | inline head inner ih => exact step inner ih
  exact step selections fun selection _ => inside selection

theorem mem_fields {selected : SelectedField} : selected ∈ fields selections ↔
    .field selected.field selected.selections ∈ selections := by
  rw [fields, List.mem_filterMap]
  constructor
  · rintro ⟨selection, member, isField⟩
    cases selection with
    | field head inner =>
      cases isField
      exact member
    | spread | inline => cases isField
  · exact fun member => ⟨_, member, rfl⟩

theorem mem_of_mem_fragments {selection : Selection} (member : selection ∈ fragments selections) :
    selection ∈ selections ∧ selection.field? = none :=
  ⟨(List.mem_filter.mp member).1, Option.isNone_iff_eq_none.mp (List.mem_filter.mp member).2⟩

theorem forall_mem_iff {property : Selection → Prop} :
    (∀ selection ∈ selections, property selection) ↔
      (∀ selection ∈ fragments selections, property selection) ∧
        ∀ selected ∈ fields selections, property (.field selected.field selected.selections) := by
  constructor
  · intro each
    exact ⟨fun selection member => each _ (mem_of_mem_fragments member).1,
      fun selected member => each _ (mem_fields.mp member)⟩
  · rintro ⟨ofFragments, ofFields⟩ selection member
    cases selection with
    | field head inner => exact ofFields ⟨head, inner⟩ (mem_fields.mpr member)
    | spread | inline => exact ofFragments _ (List.mem_filter.mpr ⟨member, rfl⟩)

end Selection

/-- A field that is selected by its name alone. -/
def SelectedField.bare (name : String) : SelectedField := ⟨Build.bareField name, []⟩

/-- The fragment that selects the id of nodes. -/
def Schema.nodeSelection (schema : Schema) : Selection :=
  .inline ⟨some nodeInterface, [], .unknown⟩ [.field (Build.bareField schema.names.id) []]

variable {inner : List Selection} {parent type : SchemaType} {schema : Schema}
variable {selection : Selection}

/-- A selection opens one selection set at most. -/
theorem Selection.Opens.unique {other : SchemaType} {found : List Selection}
    (opens : selection.Opens schema parent type inner)
    (again : selection.Opens schema parent other found) : type = other ∧ inner = found := by
  cases opens with
  | field isDeclared =>
    cases again with
    | field isOther =>
      cases isDeclared.symm.trans isOther
      exact ⟨rfl, rfl⟩
  | inline isNone =>
    cases again with
    | inline => exact ⟨rfl, rfl⟩
    | condition isCondition => cases isNone.symm.trans isCondition
  | condition isCondition found =>
    cases again with
    | inline isNone => cases isNone.symm.trans isCondition
    | condition isOther foundOther =>
      cases isCondition.symm.trans isOther
      cases found.symm.trans foundOther
      exact ⟨rfl, rfl⟩

theorem Selection.Opens.declares (opens : selection.Opens schema parent type inner)
    (declares : schema.Declares parent) : schema.Declares type := by
  cases opens with
  | field isDeclared => exact Schema.declares_of_field? isDeclared
  | inline => exact declares
  | condition isCondition found => exact Schema.declares_of_type? found

namespace Build

variable {context : Context} {parent type : SchemaType} {selections : List Selection}

/-! ## Builds of selections -/

/-- The build of a selected field. -/
def fieldBuild (context : Context) (parent : SchemaType) (required : List String)
    (selected : SelectedField) : Build Child :=
  field context parent selected.field selected.selections
    ⟨required.contains selected.field.name, false, context.validates⟩ fun declared =>
      children context declared.type
        (context.schema.fieldRequisites declared.type selected.selections) selected.selections

/-- The build of a fragment or a reference.  A field is neither. -/
def fragmentBuild (context : Context) (parent : SchemaType) : Selection → Build Child
  | .field _ _ => throw .unbounded
  | .spread head => reference head
  | .inline head inner => do
    let type ← conditionType context parent head
    innerFragment context type head.directives
      (children context type (context.schema.requisites type inner) inner)

theorem fields_eq_mapM (context : Context) (parent : SchemaType) (selections : List Selection)
    (required : List String) : fields context parent selections required =
      (Selection.fields selections).mapM (fieldBuild context parent required) := by
  induction selections with
  | nil => rw [fields]; rfl
  | cons selection selections ih =>
    cases selection with
    | field head inner =>
      rw [fields, fieldOf, ih]
      change _ = List.mapM _ (⟨head, inner⟩ :: Selection.fields selections)
      rw [List.mapM_cons]
      simp only [bind_assoc, pure_bind, List.singleton_append]
      rfl
    | spread | inline =>
      simp only [fields, fieldOf, ih, pure_bind, List.nil_append, bind_pure]
      rfl

theorem fragments_eq_mapM (context : Context) (parent : SchemaType)
    (selections : List Selection) : fragments context parent selections =
      (Selection.fragments selections).mapM (fragmentBuild context parent) := by
  induction selections with
  | nil => rw [fragments]; rfl
  | cons selection selections ih =>
    cases selection with
    | field head inner =>
      simp only [fragments, fragmentOf, ih, pure_bind, List.nil_append, bind_pure]
      rfl
    | spread head =>
      rw [fragments, fragmentOf, ih]
      change _ = List.mapM _ (.spread head :: Selection.fragments selections)
      rw [List.mapM_cons]
      simp only [bind_assoc, pure_bind, List.singleton_append]
      rfl
    | inline head inner =>
      rw [fragments, fragmentOf, ih]
      change _ = List.mapM _ (.inline head inner :: Selection.fragments selections)
      rw [List.mapM_cons, fragmentBuild]
      simp only [bind_assoc, pure_bind, List.singleton_append]
      rfl

/-- The array of a node comes of the builds of its selections and of what is generated. -/
theorem children_eq (context : Context) (type : SchemaType) (requisites : Requisites)
    (selections : List Selection) : children context type requisites selections = (do
      let written ← (Selection.fragments selections).mapM (fragmentBuild context type)
      let generated ← nodeFragments context (generator context) requisites
      let selected := (Selection.fields selections).map (·.field.name)
      let required := context.schema.required type requisites selected
      let fields ← (Selection.fields selections).mapM (fieldBuild context type required)
      let others ← (missing required selected).mapM (generator context type · generatedOrigin)
      return arrayOf (hasSpread selections) (fields ++ others) (written ++ generated)) := by
  rw [children, selectionSet, fragments_eq_mapM]
  simp only [fields_eq_mapM]

theorem reference_returns {head : Spread} {child : Child}
    (returns : Returns (reference head) child) : child = .reference head.name := by
  unfold reference at returns
  split at returns
  · exact returns.of_pure
  · exact (Returns.not_throw returns).elim

variable {head : InlineFragment}

/-- An inline fragment applies to the type of the selection set that it opens. -/
theorem conditionType_eq_ok_iff (inner : List Selection) {count after : Nat} :
    conditionType context parent head count = .ok (type, after) ↔
      (Selection.inline head inner).Opens context.schema parent type inner ∧ after = count := by
  unfold conditionType
  constructor
  · intro returned
    cases condition : head.condition with
    | none =>
      rw [condition] at returned
      cases returned
      exact ⟨.inline condition, rfl⟩
    | some name =>
      rw [condition] at returned
      cases found : context.schema.type? name with
      | none =>
        simp only [found] at returned
        cases returned
      | some other =>
        simp only [found] at returned
        cases returned
        exact ⟨.condition condition found, rfl⟩
  · rintro ⟨opens, rfl⟩
    cases opens with
    | inline isNone =>
      rw [isNone]
      rfl
    | condition isName isFound =>
      rw [isName]
      simp only [isFound]
      rfl

theorem opens_of_conditionType (inner : List Selection)
    (returns : Returns (conditionType context parent head) type) :
    (Selection.inline head inner).Opens context.schema parent type inner := by
  obtain ⟨count, after, returned⟩ := returns
  exact ((conditionType_eq_ok_iff inner).mp returned).1

/-! ## Nodes that stand for selections -/

/-- Whether an array was put together from nodes that stand for selections: for the
selected fields and those that are missing, and for the written fragments and the
generated one. -/
inductive Assembled (schema : Schema) (ofField : SelectedField → Child → Prop)
    (ofFragment : Selection → Child → Prop) (type : SchemaType) (requisites : Requisites)
    (selections : List Selection) : Children → Prop
  | intro {fields others written generated : List Child}
      (areFields : List.Forall₂ ofField (Selection.fields selections) fields)
      (areOthers : List.Forall₂ ofField
        ((missing (schema.required type requisites
            ((Selection.fields selections).map (·.field.name)))
          ((Selection.fields selections).map (·.field.name))).map .bare) others)
      (areWritten : List.Forall₂ ofFragment (Selection.fragments selections) written)
      (areGenerated : List.Forall₂ ofFragment
        (requisites.nodeFragment.toList.map fun _ => schema.nodeSelection) generated) :
      Assembled schema ofField ofFragment type requisites selections
        (arrayOf (hasSpread selections) (fields ++ others) (written ++ generated))

/-- Whether a node stands for a selection on a type whenever the nodes below it stand for
the selections inside. -/
structure Represents (context : Context) (ofField : SchemaType → SelectedField → Child → Prop)
    (ofFragment : SchemaType → Selection → Child → Prop) : Prop where
  field : ∀ {parent selected origin below child}
    (parts : FieldParts context parent selected.field selected.selections origin below child),
    Assembled context.schema (ofField parts.declared.type) (ofFragment parts.declared.type)
      parts.declared.type
      (context.schema.fieldRequisites parts.declared.type selected.selections)
      selected.selections parts.children → ofField parent selected child
  inline : ∀ {parent type head inner below node children}
    (_ : FragmentParts context type head.directives below node children),
    (Selection.inline head inner).Opens context.schema parent type inner →
    context.schema.Declares type →
    Assembled context.schema (ofField type) (ofFragment type) type
      (context.schema.requisites type inner) inner children →
    ofFragment parent (.inline head inner) (.fragment node children.shape children.items)
  reference : ∀ {parent head}, ofFragment parent (.spread head) (.reference head.name)

namespace Represents

variable {ofField : SchemaType → SelectedField → Child → Prop}
variable {ofFragment : SchemaType → Selection → Child → Prop}
variable (represents : Represents context ofField ofFragment)

include represents

variable {generate : Generator} {kind : NodeKind} {requisites : Requisites}

theorem nodeFragment
    (generates : ∀ parent name origin child, Returns (generate parent name origin) child →
      ofField parent (.bare name) child) {node : SchemaType}
    (isNode : context.schema.type? nodeInterface = some node)
    (has : context.schema.hasField node context.schema.names.id = true) {child : Child}
    (returns : Returns (Build.nodeFragment context generate node) child) :
    ofFragment parent context.schema.nodeSelection child := by
  obtain ⟨head, children, ⟨parts⟩, rfl⟩ := innerFragment_parts returns
  refine represents.inline parts (.condition rfl isNode) (Schema.declares_of_type? isNode) ?_
  obtain ⟨selected, isSelected, isBelow⟩ := Returns.of_bind parts.isBelow
  obtain ⟨others, areOthers, isBelow⟩ := isBelow.of_bind
  rw [isBelow.of_pure]
  have noFragment : (context.schema.requisites node
      [.field (bareField context.schema.names.id) []]).nodeFragment = none := by
    rw [Schema.requisites, Requisites.nodeFragment_addIf, Schema.identity, if_pos has]
  have areBare := areOthers.of_mapM.imp fun _ _ => generates _ _ _ _
  change Assembled _ _ _ _ _ _ (arrayOf
    (hasSpread [.field (bareField context.schema.names.id) []]) ([selected] ++ others) ([] ++ []))
  refine .intro (.cons (generates _ _ _ _ isSelected) .nil)
    (List.forall₂_map_left_iff.mpr areBare) .nil ?_
  rw [noFragment]
  exact .nil

/-- At most one fragment is generated, the one on nodes. -/
theorem nodeFragments
    (generates : ∀ parent name origin child, Returns (generate parent name origin) child →
      ofField parent (.bare name) child) (fit : requisites.Fit context.schema kind type selections)
    {generated : List Child}
    (returns : Returns (Build.nodeFragments context generate requisites) generated) :
    List.Forall₂ (ofFragment type)
      (requisites.nodeFragment.toList.map fun _ => context.schema.nodeSelection) generated := by
  unfold Build.nodeFragments at returns
  cases found : requisites.nodeFragment with
  | none =>
    rw [found] at returns
    rw [returns.of_pure]
    exact .nil
  | some node =>
    rw [found] at returns
    obtain ⟨child, isChild, returns⟩ := returns.of_bind
    rw [returns.of_pure]
    obtain ⟨_, isNode, has⟩ := fit.node node found
    exact .cons (represents.nodeFragment generates isNode has isChild) .nil

theorem requisiteField (depth : Nat) (parent : SchemaType) (name : String) (origin : Origin)
    (child : Child)
    (returns : Returns (Build.requisiteField context depth parent name origin) child) :
    ofField parent (.bare name) child := by
  induction depth generalizing parent name origin child with
  | zero => exact (Returns.not_throw returns).elim
  | succ depth ih =>
    obtain ⟨parts⟩ := field_parts returns
    refine represents.field parts ?_
    obtain ⟨generated, areGenerated, isBelow⟩ := Returns.of_bind parts.isBelow
    obtain ⟨others, areOthers, isBelow⟩ := isBelow.of_bind
    rw [isBelow.of_pure]
    have all (required : List String) : missing required [] = required :=
      List.filter_eq_self.mpr fun _ _ => rfl
    have areBare := areOthers.of_mapM.imp fun _ _ => ih _ _ _ _
    change Assembled _ _ _ _ _ _ (arrayOf (hasSpread []) ([] ++ others) ([] ++ generated))
    refine .intro .nil (List.forall₂_map_left_iff.mpr ?_) .nil
      (represents.nodeFragments ih (Schema.fit_fieldRequisites []) areGenerated)
    change List.Forall₂ _ (missing (context.schema.required _ _ []) []) _
    rw [all]
    exact areBare

/-- The nodes of an array stand for the selections that they were made from. -/
theorem children {children : Children} (declares : context.schema.Declares type)
    (fit : requisites.Fit context.schema kind type selections)
    (returns : Returns (Build.children context type requisites selections) children) :
    Assembled context.schema (ofField type) (ofFragment type) type requisites selections
      children := by
  induction selections using Selection.setInduction
    generalizing kind type requisites children with
  | step selections ih =>
    have generates := represents.requisiteField (depth context.schema)
    rw [children_eq] at returns
    obtain ⟨written, areWritten, returns⟩ := returns.of_bind
    obtain ⟨generated, areGenerated, returns⟩ := returns.of_bind
    obtain ⟨fields, areFields, returns⟩ := returns.of_bind
    obtain ⟨others, areOthers, returns⟩ := returns.of_bind
    rw [returns.of_pure]
    have areBare := areOthers.of_mapM.imp fun _ _ => generates _ _ _ _
    refine .intro (Returns.forall₂_of_mapM ?_ areFields) (List.forall₂_map_left_iff.mpr areBare)
      (Returns.forall₂_of_mapM ?_ areWritten) (represents.nodeFragments generates fit areGenerated)
    · intro selected member child isChild
      obtain ⟨parts⟩ := field_parts isChild
      exact represents.field parts (ih _ (Selection.mem_fields.mp member)
        (Schema.declares_of_field? parts.found) (Schema.fit_fieldRequisites _) parts.isBelow)
    · intro selection member child isChild
      obtain ⟨member, noField⟩ := Selection.mem_of_mem_fragments member
      cases selection with
      | field => cases noField
      | spread head =>
        rw [reference_returns isChild]
        exact represents.reference
      | inline head inner =>
        obtain ⟨type, isType, isChild⟩ := isChild.of_bind
        obtain ⟨node, children, ⟨parts⟩, rfl⟩ := innerFragment_parts isChild
        have opens := opens_of_conditionType inner isType
        have declares := opens.declares declares
        have fit : (context.schema.requisites type inner).Fit context.schema .fragment type
            inner := Schema.fit_requisites inner (by simp) rfl
        exact represents.inline parts opens declares (ih _ member declares fit parts.isBelow)

end Represents

end Build

end QueryTree
