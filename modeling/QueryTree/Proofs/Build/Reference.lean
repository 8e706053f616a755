import QueryTree.Proofs.Build.Demand
import QueryTree.Proofs.Normal.Slots

/-!
# References in a tree

Below a node each slot is referred to as often as it is spread in the selections
of the node; nodes that were generated refer to none.
-/

namespace QueryTree

namespace Child

mutual

/-- The slots that a node and the nodes below it refer to. -/
def references : Child → List String
  | .field _ _ children => referencesOf children
  | .fragment _ _ children => referencesOf children
  | .reference slot => [slot]

/-- The slots that nodes refer to. -/
def referencesOf : List Child → List String
  | [] => []
  | child :: children => references child ++ referencesOf children

end

theorem referencesOf_append (lefts rights : List Child) :
    referencesOf (lefts ++ rights) = referencesOf lefts ++ referencesOf rights := by
  induction lefts with
  | nil => rw [List.nil_append, referencesOf, List.nil_append]
  | cons left lefts ih => rw [List.cons_append, referencesOf, referencesOf, ih, List.append_assoc]

end Child

/-- The slots that a tree refers to. -/
def Root.references : Root → List String
  | .query _ children => Child.referencesOf children.items
  | .mutation _ children => Child.referencesOf children.items
  | .subscription _ children => Child.referencesOf children.items
  | .fragment _ children => Child.referencesOf children.items
  | .createFragment _ children _ => Child.referencesOf children.items

theorem Root.references_eq (root : Root) :
    root.references = Child.referencesOf root.children.items := by
  cases root <;> rfl

namespace Build

open Child (references referencesOf referencesOf_append)

variable {context : Context}

/-! ## Selection sets -/

/-- How often selections spread into a slot. -/
def spreadCount (slot : String) (spreads : List Spread) : Nat :=
  (spreads.map (·.name)).count slot

/-- How often nodes refer to a slot. -/
def referenceCount (slot : String) (nodes : List Child) : Nat := (referencesOf nodes).count slot

/-- Whether a node refers to a slot as often as its selection spreads into it. -/
def Counted (slot : String) (selection : Selection) (child : Child) : Prop :=
  (references child).count slot = spreadCount slot (Selection.spreadsOf selection)

variable {slot : String} {selections : List Selection}

theorem selections_counted {fields fragments : List Child}
    (areFields : List.Forall₂ (fun selected => Counted slot (.field selected.field
      selected.selections)) (Selection.fields selections) fields)
    (areFragments : List.Forall₂ (Counted slot) (Selection.fragments selections) fragments) :
    referenceCount slot fields + referenceCount slot fragments =
      spreadCount slot (Selection.spreads selections) := by
  induction selections generalizing fields fragments with
  | nil =>
    cases areFields
    cases areFragments
    rw [referenceCount, referencesOf, Selection.spreads]
    rfl
  | cons selection selections ih =>
    rw [Selection.spreads]
    cases selection with
    | field head inner =>
      cases areFields with
      | cons first others =>
        have rest := ih others areFragments
        simp only [Counted, referenceCount, spreadCount, referencesOf, List.map_append,
          List.count_append] at first rest ⊢
        omega
    | spread | inline =>
      cases areFragments with
      | cons first others =>
        have rest := ih areFields others
        simp only [Counted, referenceCount, spreadCount, referencesOf, List.map_append,
          List.count_append] at first rest ⊢
        omega

theorem referenceCount_eq_zero {nodes : List Child}
    (none : ∀ child ∈ nodes, (references child).count slot = 0) :
    referenceCount slot nodes = 0 := by
  induction nodes with
  | nil => rw [referenceCount, referencesOf, List.count_nil]
  | cons child nodes ih =>
    rw [List.forall_mem_cons] at none
    rw [referenceCount, referencesOf, List.count_append, none.1, Nat.zero_add]
    exact ih none.2

/-- Generated nodes refer to no slot. -/
theorem Assembled.counted {schema : Schema} {type : SchemaType} {requisites : Requisites}
    {children : Children}
    (assembled : Assembled schema
      (fun selected => Counted slot (.field selected.field selected.selections)) (Counted slot)
      type requisites selections children) :
    referenceCount slot children.items = spreadCount slot (Selection.spreads selections) := by
  cases assembled with
  | @intro fields others written generated areFields areOthers areWritten areGenerated =>
    have noOthers : referenceCount slot others = 0 := by
      refine referenceCount_eq_zero (Child.forall_of_forall₂ areOthers ?_)
      intro selected member child counted
      obtain ⟨name, _, rfl⟩ := List.mem_map.mp member
      simpa [Counted, SelectedField.bare, Selection.spreadsOf, Selection.spreads, spreadCount]
        using counted
    have noGenerated : referenceCount slot generated = 0 := by
      refine referenceCount_eq_zero (Child.forall_of_forall₂ areGenerated ?_)
      intro selection member child counted
      obtain ⟨node, _, rfl⟩ := List.mem_map.mp member
      simpa [Counted, Schema.nodeSelection, Selection.spreadsOf, Selection.spreads, spreadCount]
        using counted
    rw [← selections_counted areFields areWritten, arrayOf_items]
    simp only [referenceCount, referencesOf_append, List.count_append] at noOthers noGenerated ⊢
    omega

theorem counted_represents (slot : String) : Represents context
    (fun _ selected => Counted slot (.field selected.field selected.selections))
    (fun _ => Counted slot) where
  field := by
    intro parent selected origin below child parts assembled
    rw [parts.isChild, Counted, references, Selection.spreadsOf]
    exact assembled.counted
  inline := by
    intro parent type head inner below node children parts opens declares assembled
    rw [Counted, references, Selection.spreadsOf]
    exact assembled.counted
  reference := by
    intro parent head
    rw [Counted, references, Selection.spreadsOf]
    rfl

end Build

variable {definition : Definition} {options : BuildOptions} {root : Root} {schema : Schema}
variable {selections : List Selection}

/-- A tree refers to each slot as often as what it was made from spreads into it. -/
theorem Definition.count_references (built : definition.build schema options = .ok root)
    (slot : String) :
    root.references.count slot =
      ((Selection.spreads definition.printed).map (·.name)).count slot := by
  obtain ⟨below⟩ := Build.root_below (Definition.returns_of_build built)
  rw [root.references_eq]
  exact ((Build.counted_represents slot).children below.declares below.fit below.returns).counted

theorem Definition.mem_references (built : definition.build schema options = .ok root)
    (slot : String) :
    slot ∈ root.references ↔ slot ∈ (Selection.spreads definition.printed).map (·.name) := by
  rw [← List.count_pos_iff, ← List.count_pos_iff, Definition.count_references built]

/-! ## What is not printed -/

theorem Selection.mem_spreads {selection : Selection} (member : selection ∈ selections) :
    Selection.spreadsOf selection ⊆ Selection.spreads selections := by
  induction selections with
  | nil => cases member
  | cons first others ih =>
    rw [Selection.spreads]
    rcases List.mem_cons.mp member with rfl | member
    · exact List.subset_append_left _ _
    · exact List.Subset.trans (ih member) (List.subset_append_right _ _)

/-- The spreads below a field among selections. -/
theorem Selection.spreads_of_fields {selected : SelectedField}
    (member : selected ∈ Selection.fields selections) :
    Selection.spreads selected.selections ⊆ Selection.spreads selections := by
  obtain ⟨selection, isSelection, isField⟩ := List.mem_filterMap.mp member
  cases selection with
  | field head inner =>
    cases isField
    have inside := Selection.mem_spreads isSelection
    rw [Selection.spreadsOf] at inside
    exact inside
  | spread head | inline head inner => cases isField

/-- The spreads below the root field of an operation are spreads of the operation. -/
theorem Definition.spreads_printed_subset (definition : Definition) :
    Selection.spreads definition.printed ⊆ Selection.spreads definition.selections := by
  unfold Definition.printed
  split
  · exact List.Subset.refl _
  · unfold Definition.rootSelections
    cases found : (Selection.fields definition.selections).head? with
    | none =>
      rw [Option.map_none, Option.getD_none, Selection.spreads]
      exact List.nil_subset _
    | some selected =>
      rw [Option.map_some, Option.getD_some]
      exact Selection.spreads_of_fields (List.mem_of_head? found)

/-- An operation that selects only its root field is printed as a whole. -/
theorem Definition.spreads_printed (one : definition.selections.length = 1)
    (found : (Selection.fields definition.selections).head?.isSome = true)
    (notFragment : definition.kind ≠ .fragment) :
    Selection.spreads definition.printed = Selection.spreads definition.selections := by
  obtain ⟨selection, only⟩ := List.length_eq_one_iff.mp one
  rw [Definition.printed, if_neg notFragment, Definition.rootSelections]
  rw [only] at found ⊢
  cases selection with
  | field head inner =>
    rw [Selection.spreads, Selection.spreads, Selection.spreadsOf, List.append_nil]
    rfl
  | spread head | inline head inner => cases found

end QueryTree
