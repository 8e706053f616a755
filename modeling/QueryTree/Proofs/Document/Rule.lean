import QueryTree.Document.Rule
import QueryTree.Proofs.Build.Value

/-!
# Structural rules do not depend on positions

A rule accepts a definition, a field or its arguments exactly if it accepts the
same without positions.
-/

namespace QueryTree.Rule

theorem rootFieldCount_stripped (definition : Definition) :
    Agree Eq (rootFieldCount definition) (rootFieldCount definition.stripped) := by
  unfold rootFieldCount
  rw [show definition.stripped.selections.length = definition.selections.length from
    List.length_map ..]
  exact .ite (fun _ => .ok rfl) fun _ => .error _ _

variable (field : Field)

theorem queryRootFieldArity_stripped :
    Agree Eq (queryRootFieldArity field) (queryRootFieldArity field.stripped) := by
  unfold queryRootFieldArity
  rw [show field.stripped.arguments.length = field.arguments.length from List.length_map ..]
  exact .ite (fun _ => .ok rfl) fun _ => .error _ _

theorem compatible_stripped (left right : Option Argument) :
    compatible (left.map Argument.stripped) (right.map Argument.stripped) =
      compatible left right := by
  cases left with
  | none => rfl
  | some left =>
    cases right with
    | none => rfl
    | some right =>
      simp only [Option.map_some, compatible, Argument.stripped, Value.isVariable_stripped]

theorem connectionArguments_stripped :
    Agree Eq (connectionArguments field) (connectionArguments field.stripped) := by
  have found (name : String) : Named.find? name field.stripped.arguments =
      (Named.find? name field.arguments).map Argument.stripped :=
    Argument.find?_stripped name field.arguments
  unfold connectionArguments
  simp only [found, compatible_stripped]
  refine .ite (fun _ => .error _ _) fun _ => ?_
  refine .ite (fun _ => .error _ _) fun _ => ?_
  exact .ite (fun _ => .error _ _) fun _ => .pure rfl

theorem subfields_eq_flatMap (selections : List Selection) :
    subfields selections = selections.flatMap subfieldsOf :=
  eq_flatMap_of_cons rfl fun _ _ => rfl

theorem subfieldsOf_stripped (selection : Selection) :
    subfieldsOf selection.stripped = (subfieldsOf selection).map Field.stripped := by
  induction selection using Selection.induction with
  | field head selections =>
    simp only [Selection.stripped, subfieldsOf, List.map_cons, List.map_nil]
  | spread head => simp only [Selection.stripped, subfieldsOf, List.map_nil]
  | inline head selections ih =>
    simp only [Selection.stripped, subfieldsOf, Selection.strippedAll_eq_map,
      subfields_eq_flatMap, List.flatMap_map, List.map_flatMap]
    apply congrArg List.flatten
    exact List.map_congr_left ih

theorem subfields_stripped (selections : List Selection) :
    subfields (selections.map Selection.stripped) = (subfields selections).map Field.stripped := by
  rw [subfields_eq_flatMap, subfields_eq_flatMap, List.flatMap_map, List.map_flatMap]
  apply congrArg List.flatten
  exact List.map_congr_left fun selection _ => subfieldsOf_stripped selection

theorem isPaginated_stripped (pattern : Bool) :
    isPaginated field.stripped pattern = isPaginated field pattern := by
  have found (name : String) : (Named.find? name field.stripped.arguments).isSome =
      (Named.find? name field.arguments).isSome := by
    rw [show field.stripped.arguments = field.arguments.map Argument.stripped from rfl,
      Argument.find?_stripped, Option.isSome_map]
  simp only [isPaginated, found]

variable (schema : Schema)

theorem connectionSubfield_stripped (connection node : SchemaType) (field : Field)
    (paginated : Bool) (subfield : Field) :
    Agree Eq (connectionSubfield schema connection node field paginated subfield)
      (connectionSubfield schema connection node field.stripped paginated subfield.stripped) := by
  refine .ite (fun _ => .ite (fun _ => .ok rfl) fun _ => .error _ _) fun _ => ?_
  rw [show subfield.stripped.name = subfield.name from rfl]
  cases schema.field? connection subfield.name with
  | none => exact .ok rfl
  | some declared => exact .ite (fun _ => .error _ _) fun _ => .ok rfl

theorem connectionSubfields_stripped (field : Field) (selections : List Selection)
    (connection : SchemaType) (pattern : Bool) :
    Agree Eq (connectionSubfields schema field selections connection pattern)
      (connectionSubfields schema field.stripped (selections.map Selection.stripped) connection
        pattern) := by
  unfold connectionSubfields
  cases schema.connectionNode? connection with
  | none => exact .ok rfl
  | some node =>
    simp only [subfields_stripped, isPaginated_stripped]
    exact .forM fun subfield _ =>
      connectionSubfield_stripped schema connection node field _ subfield

theorem mutationField_stripped (declared : SchemaField) (inputArgument : String) :
    Agree Eq (mutationField field declared inputArgument)
      (mutationField field.stripped declared inputArgument) := by
  unfold mutationField
  rw [show field.stripped.arguments.length = field.arguments.length from List.length_map ..]
  cases declared.arguments with
  | nil => exact .error _ _
  | cons argument arguments =>
    cases arguments with
    | nil => exact .ite (fun _ => .error _ _) fun _ => .ite (fun _ => .error _ _) fun _ => .ok rfl
    | cons second arguments => exact .error _ _

theorem nodeField_stripped (field : Field) (declared : SchemaField) (parent : SchemaType) :
    Agree Eq (nodeField schema field declared parent)
      (nodeField schema field.stripped declared parent) := by
  refine .ite (fun _ => .ok rfl) fun _ => ?_
  cases declared.arguments with
  | nil => exact .ok rfl
  | cons argument arguments =>
    cases arguments with
    | nil => exact .ite (fun _ => .error _ _) fun _ => .ok rfl
    | cons second arguments => exact .ok rfl

end QueryTree.Rule
