import QueryTree.Compile.Compiler
import QueryTree.Proofs.Build.Stripped
import QueryTree.Proofs.Normal.Stripped

/-!
# Artifacts do not depend on positions

The artifact of a definition is that of the same definition without positions.  Of
the scope it depends only on how the module and the property of each fragment are
bound.
-/

namespace QueryTree

/-! ## Slots -/

/-- Two scopes bind the module and the property of a fragment alike. -/
def Scope.Alike (left right : Scope) (fragment : String) : Prop :=
  ∀ place, FragmentPlace.ofName? fragment = some place →
    left.binding? place.module = right.binding? place.module ∧
      left.binding? place.property = right.binding? place.property

namespace Slot

theorem resolve_congr {slot : Slot} {left right : Scope} (alike : left.Alike right slot.fragment)
    (parameters : List String) : slot.resolve left parameters = slot.resolve right parameters := by
  unfold resolve
  cases found : FragmentPlace.ofName? slot.fragment with
  | none => rfl
  | some place =>
    obtain ⟨sameModule, sameProperty⟩ := alike place found
    simp only [access, sameModule, sameProperty]

theorem access_stripped (slot : Slot) (scope : Scope) (place : FragmentPlace)
    (parameters : List String) :
    Agree Eq (slot.access scope place parameters)
      (slot.stripped.access scope place parameters) := by
  refine .ite (fun _ => ?_) fun _ => .ok rfl
  rw [show slot.stripped.arguments = slot.arguments.map (List.map Argument.stripped) from rfl]
  cases slot.arguments with
  | none => exact .pure rfl
  | some fields =>
    have stripped := Value.argument_stripped parameters (.object fields .unknown)
    rw [Value.stripped, Value.strippedFields_eq_map] at stripped
    exact .bindSame (stripped.map fun _ _ equal => congrArg some equal) fun _ => .pure rfl

theorem resolve_stripped (slot : Slot) (scope : Scope) (parameters : List String) :
    Agree Eq (slot.resolve scope parameters) (slot.stripped.resolve scope parameters) := by
  unfold resolve
  rw [show slot.stripped.fragment = slot.fragment from rfl]
  cases FragmentPlace.ofName? slot.fragment with
  | none => exact .error _ _
  | some place =>
    refine .ite (fun _ => .error _ _) fun _ => ?_
    exact (access_stripped slot scope place parameters).bindSame fun _ => .pure rfl

end Slot

theorem resolveSlots_congr {slots : List Slot} {left right : Scope}
    (alike : ∀ slot ∈ slots, left.Alike right slot.fragment) (parameters : List String) :
    resolveSlots slots left parameters = resolveSlots slots right parameters := by
  unfold resolveSlots
  induction slots with
  | nil => rfl
  | cons slot slots ih =>
    rw [List.mapM_cons, List.mapM_cons, Slot.resolve_congr (alike slot List.mem_cons_self),
      ih (List.forall_mem_cons.mp alike).2]

theorem resolveSlots_stripped (slots : List Slot) (scope : Scope) (parameters : List String) :
    Agree Eq (resolveSlots slots scope parameters)
      (resolveSlots (slots.map Slot.stripped) scope parameters) :=
  .mapM fun slot _ => slot.resolve_stripped scope parameters

/-! ## Formal arguments -/

namespace ArgumentDefinition

theorem ofVariable_stripped (declared : VariableDefinition) :
    Agree Eq (ofVariable declared) (ofVariable declared.stripped) := by
  have typed (type : TypeRef) : type.stripped.text = type.text := by
    induction type with
    | named name nonNull position => rfl
    | list element nonNull position ih => rw [TypeRef.stripped, TypeRef.text, TypeRef.text, ih]
  unfold ofVariable
  rw [show declared.stripped.default = declared.default.map Value.stripped from rfl,
    show declared.stripped.type.text = declared.type.text from typed declared.type]
  cases declared.default with
  | none => exact .pure rfl
  | some value => exact (Value.literal_stripped [] value).bindSame fun _ => .pure rfl

theorem readEntry_stripped (declaration : Argument) (argument : ArgumentDefinition)
    (entry : Named Value) :
    Agree Eq (readEntry declaration argument entry)
      (readEntry declaration.stripped argument (Argument.stripped entry)) := by
  refine .ite (fun _ => ?_) fun _ => .ite (fun _ => ?_) fun _ => .ok rfl
  · unfold Argument.stripped
    cases entry.value
    case string => exact .ok rfl
    all_goals exact .error _ _
  · exact (Value.literal_stripped [] entry.value).bindSame fun _ => .pure rfl

theorem ofDeclaration_stripped (declaration : Argument) :
    Agree Eq (ofDeclaration declaration) (ofDeclaration declaration.stripped) := by
  have entries (fields : List (Named Value)) :
      Agree Eq (fields.foldlM (readEntry declaration) ⟨.local, declaration.name, "", .null⟩)
        ((fields.map Argument.stripped).foldlM (readEntry declaration.stripped)
          ⟨.local, declaration.name, "", .null⟩) :=
    .foldlM _ fun argument entry _ => readEntry_stripped declaration argument entry
  unfold ofDeclaration
  rw [show declaration.stripped.value = declaration.value.stripped from rfl]
  cases declaration.value
  case object fields position =>
    simp only [Value.stripped, Value.strippedFields_eq_map]
    exact entries fields
  all_goals exact .error _ _

theorem ofReference_stripped (declarations : List Argument) (name : String) :
    Agree Eq (ofReference declarations name)
      (ofReference (declarations.map Argument.stripped) name) := by
  unfold ofReference
  rw [Argument.find?_stripped]
  cases Named.find? name declarations with
  | none => exact .ok rfl
  | some declaration => exact ofDeclaration_stripped declaration

end ArgumentDefinition

theorem Artifact.assemble_stripped (definition : Definition) (form : NormalForm) (node : Root)
    (substitutions : List Initializer) :
    Agree Eq (assemble definition form node substitutions)
      (assemble definition.stripped form.stripped node substitutions) := by
  refine .ite (fun _ => .ite (fun _ => .error _ _) fun _ => ?_) fun _ =>
    .ite (fun _ => ?_) fun _ => .error _ _
  · refine .bindSame (.mapM fun declared _ => ArgumentDefinition.ofVariable_stripped declared)
      fun _ => .pure rfl
  · have references : Agree Eq
        (form.variableNames.mapM (ArgumentDefinition.ofReference form.argumentDefinitions))
        ((form.variableNames.map id).mapM
          (ArgumentDefinition.ofReference (form.argumentDefinitions.map Argument.stripped))) :=
      .mapM fun name _ => ArgumentDefinition.ofReference_stripped form.argumentDefinitions name
    rw [List.map_id] at references
    exact references.bindSame fun _ => .pure rfl

namespace Compiler

variable (compiler : Compiler) (definition : Definition)

theorem compileNormal_congr {form : NormalForm} {left right : Scope} (validation : Bool)
    (alike : ∀ slot ∈ form.slots, left.Alike right slot.fragment) :
    compiler.compileNormal definition form left validation =
      compiler.compileNormal definition form right validation := by
  simp only [compileNormal, resolveSlots_congr alike]

/-- Compiling a definition with its normal form does not depend on positions. -/
theorem compileNormal_stripped (form : NormalForm) (scope : Scope) (validation : Bool) :
    Agree Eq (compiler.compileNormal definition form scope validation)
      (compiler.compileNormal definition.stripped form.stripped scope validation) := by
  refine .bindSame (definition.parameters_stripped.mapError _ _) fun _ => ?_
  refine .bindSame ((form.definition.build_stripped _ _).mapError _ _) fun _ => ?_
  refine .bindSame ((resolveSlots_stripped form.slots scope _).mapError _ _) fun _ => ?_
  exact (Artifact.assemble_stripped definition form _ _).mapError _ _

/-- Compiling a definition does not depend on positions. -/
theorem compile_stripped (scope : Scope) (validation : Bool) :
    Agree Eq (compiler.compile definition scope validation)
      (compiler.compile definition.stripped scope validation) := by
  refine .bind (definition.normalize_stripped.mapError _ _) fun form _ same => ?_
  rw [same]
  exact compiler.compileNormal_stripped definition form scope validation

end Compiler

end QueryTree
