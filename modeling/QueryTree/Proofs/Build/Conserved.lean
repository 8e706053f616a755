import QueryTree.Proofs.Build.Derived
import QueryTree.Proofs.Build.Typed

/-!
# What was written is kept

A selection array keeps a selection set: first its fields in their order, then
generated ones, then its fragments and references in their order, and last at most
one generated fragment on nodes.  Nothing that was written is lost, repeated or moved
within its class, and the same holds of everything below.
-/

namespace QueryTree

/-! ## Nodes that repeat what was written -/

/-- Whether the node of a field has its alias, its name, its arguments and its
directives. -/
structure FieldNode.Repeats (parameters : List String) (field : Field) (node : FieldNode) :
    Prop where
  alias? : node.alias? = field.alias?
  name : node.name = field.name
  calls : Lists (Call.Repeats parameters) field.arguments node.calls
  directives : Lists (DirectiveNode.Repeats parameters) (Directive.repeated field.directives)
    node.directives

/-- Whether the node of an inline fragment has its type, if it names one, and its
directives. -/
structure FragmentNode.Repeats (parameters : List String) (fragment : InlineFragment)
    (node : FragmentNode) : Prop where
  type : ∀ name, fragment.condition = some name → node.type = name
  directives : Lists (DirectiveNode.Repeats parameters) (Directive.repeated fragment.directives)
    node.directives

/-! ## Arrays that keep what was written -/

/-- Whether the array of a selection set with some items has its shape: it is missing
exactly if there are none, and it is flattened exactly if the set has a spread. -/
def ArrayShape.Fits (selections : List Selection) (items : List Child) (shape : ArrayShape) :
    Prop :=
  (shape = .absent ↔ items = []) ∧ (shape = .flattened ↔ ∃ head, .spread head ∈ selections)

mutual

/-- Whether an array keeps a selection set. -/
inductive Children.Keeps (schema : Schema) (parameters : List String) :
    List Selection → Children → Prop where
  | intro {selections nodeSelections : List Selection} {generated : List String}
      {shape : ArrayShape} {fields others fragments nodes : List Child}
      (areFields : List.Forall₂ (Child.KeepsField schema parameters)
        (Selection.fields selections) fields)
      (areOthers : List.Forall₂ (Child.KeepsField schema parameters)
        (generated.map SelectedField.bare) others)
      (once : generated.Nodup)
      (apart : ∀ name ∈ generated, name ∉ (Selection.fields selections).map (·.field.name))
      (areFragments : List.Forall₂ (Child.KeepsFragment schema parameters)
        (Selection.fragments selections) fragments)
      (areNodes : List.Forall₂ (Child.KeepsFragment schema parameters) nodeSelections nodes)
      (atMostOne : nodeSelections = [] ∨ nodeSelections = [schema.nodeSelection])
      (shaped : shape.Fits selections (fields ++ others ++ (fragments ++ nodes))) :
      Children.Keeps schema parameters selections
        ⟨shape, fields ++ others ++ (fragments ++ nodes)⟩

/-- Whether a node keeps a selected field and all that is selected below it. -/
inductive Child.KeepsField (schema : Schema) (parameters : List String) :
    SelectedField → Child → Prop where
  | intro {head : Field} {selections : List Selection} {node : FieldNode} {children : Children}
      (repeats : node.Repeats parameters head)
      (below : Children.Keeps schema parameters selections children) :
      Child.KeepsField schema parameters ⟨head, selections⟩
        (.field node children.shape children.items)

/-- Whether a node keeps a spread, or an inline fragment and all that is selected
below it. -/
inductive Child.KeepsFragment (schema : Schema) (parameters : List String) :
    Selection → Child → Prop where
  | spread (head : Spread) :
      Child.KeepsFragment schema parameters (.spread head) (.reference head.name)
  | inline {head : InlineFragment} {selections : List Selection} {node : FragmentNode}
      {children : Children} (repeats : node.Repeats parameters head)
      (below : Children.Keeps schema parameters selections children) :
      Child.KeepsFragment schema parameters (.inline head selections)
        (.fragment node children.shape children.items)

end

namespace Build

/-! ## Arrays -/

variable {context : Context} {parameters : List String} {selections : List Selection}
variable {kind : NodeKind} {requisites : Requisites} {type : SchemaType}

theorem hasSpread_iff : hasSpread selections = true ↔ ∃ head, .spread head ∈ selections := by
  rw [hasSpread, List.any_eq_true]
  constructor
  · rintro ⟨selection, member, isSpread⟩
    cases selection with
    | spread head => exact ⟨head, member⟩
    | field head selections | inline head selections => cases isSpread
  · rintro ⟨head, member⟩
    exact ⟨.spread head, member, rfl⟩

/-- The array of a selection set fits, if spreads were not left out. -/
theorem arrayOf_fits (fields : List Child) {fragments : List Child}
    (spreads : hasSpread selections = true → fragments ≠ []) :
    (arrayOf (hasSpread selections) fields fragments).shape.Fits selections
      (fields ++ fragments) := by
  rw [ArrayShape.Fits, ← hasSpread_iff]
  unfold arrayOf
  split
  next none =>
    simp only [List.append_eq_nil_iff] at none
    cases found : hasSpread selections with
    | true => exact absurd none.2 (spreads found)
    | false => simp [Children.none, none]
  next some =>
    have notNil : fields ++ fragments ≠ [] := some
    cases hasSpread selections with
    | true | false => simp [-List.append_eq_nil_iff, notNil]

theorem fragments_ne_nil (found : hasSpread selections = true) :
    Selection.fragments selections ≠ [] := by
  obtain ⟨head, member⟩ := hasSpread_iff.mp found
  exact List.ne_nil_of_mem (List.mem_filter.mpr ⟨member, rfl⟩)

/-- What is missing is generated once and was not selected. -/
theorem missing_apart {required selected : List String} {name : String}
    (isMissing : name ∈ missing required selected) : name ∉ selected := by
  simpa using (List.mem_filter.mp isMissing).2

/-- The array of a selection set keeps it if its nodes do. -/
theorem Assembled.keeps {schema : Schema} {children : Children}
    (fit : requisites.Fit schema kind type selections)
    (assembled : Assembled schema (Child.KeepsField schema parameters)
      (Child.KeepsFragment schema parameters) type requisites selections children) :
    children.Keeps schema parameters selections := by
  cases assembled with
  | @intro fields others written generated areFields areOthers areWritten areGenerated =>
    have spreads : hasSpread selections = true → written ++ generated ≠ [] := by
      intro found none
      have noFragments := (List.append_eq_nil_iff.mp none).1
      rw [noFragments, List.forall₂_nil_right_iff] at areWritten
      exact fragments_ne_nil found areWritten
    have atMostOne : (requisites.nodeFragment.toList.map fun _ => schema.nodeSelection) = [] ∨
        (requisites.nodeFragment.toList.map fun _ => schema.nodeSelection) =
          [schema.nodeSelection] := by
      cases requisites.nodeFragment with
      | none => exact .inl rfl
      | some node => exact .inr rfl
    have shaped := arrayOf_fits (fields ++ others) spreads
    have items := arrayOf_items (hasSpread selections) (fields ++ others) (written ++ generated)
    generalize arrayOf (hasSpread selections) (fields ++ others) (written ++ generated) = array
      at shaped items
    obtain ⟨shape, listed⟩ := array
    cases items
    exact .intro areFields areOthers ((Schema.nodup_required fit _).filter _)
      (fun _ => missing_apart) areWritten areGenerated atMostOne shaped

theorem keeps_represents (context : Context) : Represents context
    (fun _ => Child.KeepsField context.schema context.parameters)
    (fun _ => Child.KeepsFragment context.schema context.parameters) where
  field := by
    intro parent selected origin below child parts assembled
    rw [parts.isChild]
    have repeats : Lists (Call.Repeats context.parameters) selected.field.arguments parts.calls :=
      (calls_parts parts.areCalls).imp fun _ _ made => made.repeats
    exact .intro ⟨rfl, rfl, repeats, directives_repeat parts.areDirectives⟩
      (assembled.keeps (Schema.fit_fieldRequisites _))
  inline := by
    intro parent type head inner below node children parts opens declares assembled
    have fit : (context.schema.requisites type inner).Fit context.schema .fragment type inner :=
      Schema.fit_requisites inner (by simp) rfl
    refine .inline ⟨fun name isName => ?_, ?_⟩ (assembled.keeps fit)
    · rw [parts.isNode]
      cases opens with
      | inline isNone => cases isNone.symm.trans isName
      | condition isCondition found =>
        cases isCondition.symm.trans isName
        exact Schema.name_of_type? found
    · rw [parts.isNode]
      exact directives_repeat parts.arePrinted
  reference := .spread _

theorem children_keep {children : Children} (declares : context.schema.Declares type)
    (fit : requisites.Fit context.schema kind type selections)
    (returns : Returns (Build.children context type requisites selections) children) :
    children.Keeps context.schema context.parameters selections :=
  ((keeps_represents context).children declares fit returns).keeps fit

end Build

/-- A tree keeps all that is selected below the root field of an operation or in a
fragment, at every depth and in its order. -/
theorem Definition.build_keeps {schema : Schema} {options : BuildOptions}
    {definition : Definition} {root : Root} (built : definition.build schema options = .ok root) :
    root.children.Keeps schema (options.parameters ++ root.parameters?.getD [])
      (root.site definition).written := by
  obtain ⟨below⟩ := Build.root_below (Definition.returns_of_build built)
  have keeps := Build.children_keep below.declares below.fit below.returns
  rw [below.sameSchema, below.parameters] at keeps
  rw [below.site]
  exact keeps

namespace Sample

/-- The feed of a viewer under an alias, with a fragment of other parts written
before it. -/
def viewerFragment : Definition where
  kind := .fragment
  name := "ViewerFeed"
  condition := "Viewer"
  variableDefinitions := []
  directives := [⟨relayName, [argument Directive.relayVariables
    (.list [.string "since" false .unknown] .unknown)], .unknown⟩]
  selections :=
    [.spread ⟨"Parts", [], .unknown⟩,
      .field
        { Build.bareField "feed" with
          alias? := some "latest"
          arguments := [argument "first" (.int "10" .unknown),
            argument "since" (.variable "since" .unknown)]
          directives := [⟨"include", [argument "if" (.variable "shown" .unknown)], .unknown⟩,
            ⟨relayName, [], .unknown⟩] }
        [.field (Build.bareField "edges") [.field (Build.bareField "node") [.inline
          ⟨some "Tag", [], .unknown⟩ [.field (Build.bareField "text") []]]]]]
  position := .unknown

end Sample

/-- The alias, both arguments and one of the directives are kept, the spread comes
after the field, and what the edges and the items call for is generated below. -/
theorem Definition.viewerFragment_keeps :
    ∃ root, Sample.viewerFragment.build Sample.viewerSchema ⟨defaultInputArgument, true, []⟩ =
        .ok root ∧ root.children.shape = .flattened ∧ root.parameters? = some ["since"] ∧
      (root.sites Sample.viewerFragment).length = 14 ∧
      root.children.Keeps Sample.viewerSchema ["since"] Sample.viewerFragment.selections := by
  have facts : (Sample.viewerFragment.build Sample.viewerSchema
      ⟨defaultInputArgument, true, []⟩).toOption.map (fun root => (root.children.shape,
        root.parameters?, (root.sites Sample.viewerFragment).length)) =
      some (.flattened, some ["since"], 14) := by decide +kernel
  cases built : Sample.viewerFragment.build Sample.viewerSchema
      ⟨defaultInputArgument, true, []⟩ with
  | error found =>
    rw [built] at facts
    cases facts
  | ok root =>
    rw [built] at facts
    have facts := Option.some.inj facts
    simp only [Prod.mk.injEq] at facts
    obtain ⟨flattened, listed, counted⟩ := facts
    have keeps := Definition.build_keeps built
    rw [listed] at keeps
    refine ⟨root, rfl, flattened, listed, counted, ?_⟩
    cases root with
    | createFragment head children parameters => exact keeps
    | _ => cases listed

end QueryTree
