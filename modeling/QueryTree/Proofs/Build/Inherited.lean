import QueryTree.Proofs.Build.Demand
import QueryTree.Proofs.Document.Values

/-!
# Properties of all nodes

A property that every way to make a node passes on from the nodes below it holds
of all nodes that a build returns, whether they were written or generated.  A
property only has to be checked for a field, a fragment and a reference.  What was
written in them may be assumed to be admitted.
-/

namespace QueryTree

namespace Build

variable {context : Context} {admits : Value → Prop}

/-- Whether every way to make a node from admitted values passes a property on from
the nodes below. -/
structure PassesOn (context : Context) (admits : Value → Prop)
    (property : SchemaType → Child → Prop) : Prop where
  field : ∀ {parent head selections origin below child}
    (parts : FieldParts context parent head selections origin below child),
    (∀ value ∈ head.values, admits value) →
    (∀ node ∈ parts.children.items, property parts.declared.type node) → property parent child
  fragment : ∀ {parent type directives below node children}
    (_ : FragmentParts context type directives below node children),
    context.schema.Declares type → (∀ value ∈ Directive.valuesOf directives, admits value) →
    (∀ item ∈ children.items, property type item) →
      property parent (.fragment node children.shape children.items)
  reference : ∀ parent slot, property parent (.reference slot)

/-- Whether a node has a property as far as the values of its selection are admitted. -/
def HasIfAdmitted (admits : Value → Prop) (property : Child → Prop) (selection : Selection)
    (child : Child) : Prop :=
  (∀ value ∈ selection.values, admits value) → property child

theorem Assembled.forall_items {schema : Schema} {property : Child → Prop} {type : SchemaType}
    {requisites : Requisites} {selections : List Selection} {children : Children}
    (assembled : Assembled schema
      (fun selected => HasIfAdmitted admits property (.field selected.field selected.selections))
      (HasIfAdmitted admits property) type requisites selections children)
    (admitted : ∀ value ∈ Selection.valuesOf selections, admits value) :
    ∀ node ∈ children.items, property node := by
  have inside {selection : Selection} (member : selection ∈ selections) :
      ∀ value ∈ selection.values, admits value :=
    fun value inSelection => admitted value (Selection.values_subset_valuesOf member inSelection)
  cases assembled with
  | intro areFields areOthers areWritten areGenerated =>
    rw [arrayOf_items]
    simp only [List.forall_mem_append]
    refine ⟨⟨?_, ?_⟩, ?_, ?_⟩
    · exact Child.forall_of_forall₂ areFields fun selected member child has =>
        has (inside (Selection.mem_fields.mp member))
    · refine Child.forall_of_forall₂ areOthers fun selected member child has => has ?_
      obtain ⟨name, _, rfl⟩ := List.mem_map.mp member
      simp [SelectedField.bare, bareField, Selection.values, Selection.valuesOf, Field.values,
        Directive.valuesOf]
    · exact Child.forall_of_forall₂ areWritten fun selection member child has =>
        has (inside (Selection.mem_of_mem_fragments member).1)
    · refine Child.forall_of_forall₂ areGenerated fun selection member child has => has ?_
      obtain ⟨node, _, rfl⟩ := List.mem_map.mp member
      simp [Schema.nodeSelection, bareField, Selection.values, Selection.valuesOf, Field.values,
        Directive.valuesOf]

namespace PassesOn

variable {property : SchemaType → Child → Prop} (passes : PassesOn context admits property)

include passes

theorem represents : Represents context
    (fun parent selected => HasIfAdmitted admits (property parent)
      (.field selected.field selected.selections))
    (fun parent => HasIfAdmitted admits (property parent)) where
  field := by
    intro parent selected origin below child parts assembled admitted
    rw [Selection.values] at admitted
    simp only [List.forall_mem_append] at admitted
    exact passes.field parts admitted.1 (assembled.forall_items admitted.2)
  inline := by
    intro parent type head inner below node children parts opens declares assembled admitted
    rw [Selection.values] at admitted
    simp only [List.forall_mem_append] at admitted
    exact passes.fragment parts declares admitted.1 (assembled.forall_items admitted.2)
  reference := fun _ => passes.reference _ _

/-- All nodes below a node of a declared type have the property. -/
theorem children {kind : NodeKind} {type : SchemaType} {requisites : Requisites}
    {selections : List Selection} {children : Children} (declares : context.schema.Declares type)
    (fit : requisites.Fit context.schema kind type selections)
    (admitted : ∀ value ∈ Selection.valuesOf selections, admits value)
    (returns : Returns (Build.children context type requisites selections) children) :
    ∀ node ∈ children.items, property type node :=
  (passes.represents.children declares fit returns).forall_items admitted

end PassesOn

end Build

end QueryTree
