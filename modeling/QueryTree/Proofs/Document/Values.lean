import QueryTree.Proofs.Document.Definition

/-!
# The values in a definition

All values that are written in a definition: the arguments of its fields and of its
directives, at any depth of its selections.  The default values of variables are not
among them.
-/

namespace QueryTree

/-- The values in the arguments of directives. -/
def Directive.valuesOf (directives : List Directive) : List Value :=
  directives.flatMap fun directive => directive.arguments.map (·.value)

/-- The values in the arguments and the directives of a field. -/
def Field.values (field : Field) : List Value :=
  field.arguments.map (·.value) ++ Directive.valuesOf field.directives

namespace Selection

mutual

/-- The values in a selection, at any depth. -/
def values : Selection → List Value
  | .field head selections => head.values ++ valuesOf selections
  | .spread head => Directive.valuesOf head.directives
  | .inline head selections => Directive.valuesOf head.directives ++ valuesOf selections

/-- The values in selections, at any depth. -/
def valuesOf : List Selection → List Value
  | [] => []
  | selection :: selections => values selection ++ valuesOf selections

end

theorem valuesOf_eq_flatMap (selections : List Selection) :
    valuesOf selections = selections.flatMap values :=
  eq_flatMap_of_cons rfl fun _ _ => rfl

variable {selections : List Selection}

theorem values_subset_valuesOf {selection : Selection} (member : selection ∈ selections) :
    values selection ⊆ valuesOf selections := by
  intro value inSelection
  rw [valuesOf_eq_flatMap]
  exact List.mem_flatMap.mpr ⟨selection, member, inSelection⟩

/-- The values of a field among selections, and those below it. -/
theorem values_of_fields {selected : SelectedField} (member : selected ∈ fields selections) :
    selected.field.values ++ valuesOf selected.selections ⊆ valuesOf selections := by
  obtain ⟨selection, isSelection, isField⟩ := List.mem_filterMap.mp member
  cases selection with
  | field head inner =>
    cases isField
    have inside := values_subset_valuesOf isSelection
    rw [values] at inside
    exact inside
  | spread head | inline head inner => cases isField

end Selection

/-- The values in the directives and the selections of a definition. -/
def Definition.values (definition : Definition) : List Value :=
  Directive.valuesOf definition.directives ++ Selection.valuesOf definition.selections

theorem Directive.valuesOf_append (lefts rights : List Directive) :
    valuesOf (lefts ++ rights) = valuesOf lefts ++ valuesOf rights :=
  List.flatMap_append

variable {directives : List Directive}

theorem Directive.mem_valuesOf {directive : Directive} {argument : Argument}
    (member : directive ∈ directives) (inArguments : argument ∈ directive.arguments) :
    argument.value ∈ valuesOf directives :=
  List.mem_flatMap.mpr ⟨directive, member, List.mem_map_of_mem inArguments⟩

/-- Fewer directives have fewer values. -/
theorem Directive.valuesOf_subset {fewer : List Directive} (subset : fewer ⊆ directives) :
    valuesOf fewer ⊆ valuesOf directives := by
  intro value member
  obtain ⟨directive, isFewer, inDirective⟩ := List.mem_flatMap.mp member
  exact List.mem_flatMap.mpr ⟨directive, subset isFewer, inDirective⟩

end QueryTree
