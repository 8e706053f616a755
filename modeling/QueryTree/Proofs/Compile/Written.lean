import QueryTree.Artifact.Format
import QueryTree.Proofs.Compile.Variables
import QueryTree.Proofs.Document.WellFormed
import QueryTree.Proofs.Node.Stable

/-!
# Artifacts can be written

The values of an artifact and the default values of its formal arguments come from
values of a document, where numbers are spelled like numbers.  So there is nothing
in an artifact that has no JSON, and only its depth can keep it from being written.
-/

namespace QueryTree

/-! ## Values of a document -/

/-- Whether everything that a value can become in a tree has a stable text. -/
structure Value.Stable (value : Value) : Prop where
  literal : ∀ {parameters literal}, value.literal parameters = .ok literal → literal.Stable
  argument : ∀ {parameters argument}, value.argument parameters = .ok argument → argument.Stable

namespace Value

theorem stable_ofVariable (name : String) (position : Position) :
    (Value.variable name position).Stable where
  literal made := by
    cases made
    unfold Literal.ofVariable
    split
    · exact .substitution name
    · exact .ofVariable name
  argument made := by
    cases made
    unfold ArgumentValue.ofVariable
    split
    · exact .substitution name
    · exact .ofVariable name

theorem stable_list {values : List Value} (position : Position)
    (each : ∀ value ∈ values, value.Stable) : (Value.list values position).Stable where
  literal made := by
    rw [Value.literal, literals_eq_mapM] at made
    obtain ⟨items, areItems, made⟩ := exists_of_bind_eq_ok made
    cases made
    apply Literal.Stable.list
    intro item member
    obtain ⟨value, isValue, made⟩ := exists_of_mapM_eq_ok areItems member
    exact (each value isValue).literal made
  argument made := by
    rw [Value.argument, argumentItems_eq_mapM] at made
    obtain ⟨items, areItems, made⟩ := exists_of_bind_eq_ok made
    cases made
    apply ArgumentValue.Stable.list
    intro item member
    obtain ⟨value, isValue, made⟩ := exists_of_mapM_eq_ok areItems member
    exact (each value isValue).argument made

variable {value : Value}

/-- A value other than a variable or a list is an argument as a literal. -/
theorem stable_of_literal (noVariable : ∀ name position, value ≠ .variable name position)
    (noList : ∀ values position, value ≠ .list values position)
    (stable : ∀ {parameters literal}, value.literal parameters = .ok literal → literal.Stable) :
    value.Stable where
  literal := stable
  argument made := by
    rw [Value.argument] at made
    · obtain ⟨literal, isLiteral, made⟩ := exists_of_bind_eq_ok made
      cases made
      exact .literal (stable isLiteral)
    · exact noVariable
    · exact noList

theorem stable_object {fields : List (Named Value)} (position : Position)
    (each : ∀ field ∈ fields, field.value.Stable) : (Value.object fields position).Stable := by
  apply stable_of_literal (by simp) (by simp)
  intro parameters literal made
  rw [Value.literal, literalFields_eq_mapM] at made
  obtain ⟨entries, areEntries, made⟩ := exists_of_bind_eq_ok made
  cases made
  apply Literal.Stable.object
  intro entry member
  obtain ⟨field, isField, made⟩ := exists_of_mapM_eq_ok areEntries member
  obtain ⟨literal, isLiteral, made⟩ := exists_of_bind_eq_ok made
  cases made
  exact (each field isField).literal isLiteral

/-- A value of a document has a stable text. -/
theorem WellFormed.stable (formed : value.WellFormed) : value.Stable := by
  induction value using Value.induction with
  | ofVariable name position => exact stable_ofVariable name position
  | int raw position | float raw position =>
    apply stable_of_literal (by simp) (by simp)
    intro parameters literal made
    rw [ofNumber_eq_ok made]
    exact .number formed.isJsonNumber
  | string text block position =>
    apply stable_of_literal (by simp) (by simp)
    intro parameters literal made
    cases made
    exact .string text
  | boolean value position =>
    apply stable_of_literal (by simp) (by simp)
    intro parameters literal made
    cases made
    exact .bool value
  | null position =>
    apply stable_of_literal (by simp) (by simp)
    intro parameters literal made
    cases made
    exact .null
  | enum name position =>
    apply stable_of_literal (by simp) (by simp)
    intro parameters literal made
    cases made
    exact .string name
  | list values position ih =>
    apply stable_list
    intro value member
    exact ih value member (allWellFormed_iff.mp formed value member)
  | object fields position ih =>
    apply stable_object
    intro field member
    exact ih field member (fieldsWellFormed_iff.mp formed field member).2

end Value

theorem Directive.wellFormed_of_mem_valuesOf {directives : List Directive}
    (formed : ∀ directive ∈ directives, directive.WellFormed) :
    ∀ value ∈ valuesOf directives, value.WellFormed := by
  intro value member
  obtain ⟨directive, isDirective, inDirective⟩ := List.mem_flatMap.mp member
  obtain ⟨argument, isArgument, rfl⟩ := List.mem_map.mp inDirective
  exact (Value.fieldsWellFormed_iff.mp (formed directive isDirective).2 argument isArgument).2

theorem Selection.wellFormed_of_mem_valuesOf {selections : List Selection}
    (formed : AllWellFormed selections) : ∀ value ∈ valuesOf selections, value.WellFormed := by
  induction selections using Selection.inductionAll with
  | nil => exact List.forall_mem_nil _
  | field head inner rest ofInner ofRest =>
    obtain ⟨⟨_, _, arguments, directives, below⟩, others⟩ := formed
    rw [valuesOf, values, Field.values]
    simp only [List.forall_mem_append]
    refine ⟨⟨⟨fun value member => ?_, Directive.wellFormed_of_mem_valuesOf directives⟩,
      ofInner below⟩, ofRest others⟩
    obtain ⟨argument, isArgument, rfl⟩ := List.mem_map.mp member
    exact (Value.fieldsWellFormed_iff.mp arguments argument isArgument).2
  | spread head rest ofRest =>
    rw [valuesOf, values, List.forall_mem_append]
    exact ⟨Directive.wellFormed_of_mem_valuesOf formed.1.2, ofRest formed.2⟩
  | inline head inner rest ofInner ofRest =>
    obtain ⟨⟨_, directives, below⟩, others⟩ := formed
    rw [valuesOf, values]
    simp only [List.forall_mem_append]
    exact ⟨⟨Directive.wellFormed_of_mem_valuesOf directives, ofInner below⟩, ofRest others⟩

variable {definition : Definition}

theorem Definition.WellFormed.of_mem_values (formed : definition.WellFormed) {value : Value}
    (member : value ∈ definition.values) : value.WellFormed := by
  rcases List.mem_append.mp member with inDirectives | inSelections
  · exact Directive.wellFormed_of_mem_valuesOf formed.directives value inDirectives
  · exact Selection.wellFormed_of_mem_valuesOf formed.selections value inSelections

/-! ## Values of an artifact -/

theorem ArgumentValue.Derived.stable {parameters : List String} {written : Value → Prop}
    {argument : ArgumentValue} (derived : argument.Derived parameters written)
    (stable : ∀ value, written value → value.Stable) : argument.Stable := by
  cases derived with
  | text text => exact .literal (.string text)
  | truth value => exact .literal (.bool value)
  | argument isWritten made => exact (stable _ isWritten).argument made
  | fact isWritten made => exact .literal ((stable _ isWritten).literal made)

theorem DefaultOf.stable {written : Option Value} {default : Literal}
    (made : DefaultOf written default) (stable : ∀ value ∈ written, value.Stable) :
    default.Stable := by
  cases made with
  | absent => exact .null
  | written made => exact (stable _ rfl).literal made

namespace Definition.WellFormed

variable (formed : definition.WellFormed)

include formed

/-- The default values that a fragment declares belong to its directives. -/
theorem of_declaredDefault? {name : String} {value : Value}
    (found : ArgumentDefinition.declaredDefault? definition.declaredArguments name = some value) :
    value.WellFormed := by
  obtain ⟨declaration, isDeclaration, inObject⟩ := Option.bind_eq_some_iff.mp found
  obtain ⟨directive, isDirective, inDirective⟩ :=
    List.mem_flatMap.mp (List.mem_of_find?_eq_some isDeclaration)
  have isFormed := Directive.wellFormed_of_mem_valuesOf formed.directives declaration.value
    (Directive.mem_valuesOf (List.mem_filter.mp isDirective).1 inDirective)
  unfold ArgumentDefinition.objectDefault? at inObject
  split at inObject
  next entries position isObject =>
    rw [isObject] at isFormed
    obtain ⟨entry, isEntry, rfl⟩ := ArgumentDefinition.mem_of_lastDefault? inObject
    exact (Value.fieldsWellFormed_iff.mp isFormed entry isEntry).2
  next => cases inObject

theorem of_writesDefault {name : String} {written : Option Value}
    (writes : definition.WritesDefault name written) : ∀ value ∈ written, value.WellFormed := by
  intro value isWritten
  rcases writes with ⟨_, declared, isDeclared, _, rfl⟩ | ⟨_, rfl⟩
  · exact (formed.declarations declared isDeclared).default value isWritten
  · exact formed.of_declaredDefault? isWritten

end Definition.WellFormed

namespace Compiler.Parts

variable {compiler : Compiler} {definition : Definition} {scope : Scope} {validation : Bool}
  {artifact : Artifact} (parts : Parts compiler definition scope validation artifact)

include parts

variable (formed : definition.WellFormed)

include formed

theorem writes_stable {value : Value} (writes : parts.Writes value) : value.Stable := by
  obtain ⟨_, values⟩ := Definition.notes_of_normalize parts.normal
  have ofNoted : ∀ value ∈ definition.noted, value.Stable := fun value member =>
    (formed.of_mem_values (definition.noted_subset member)).stable
  rcases writes with ofForm | ⟨slot, isSlot, arguments, bound, rfl⟩
  · rcases ofForm with written | ⟨_, rfl⟩
    · exact ofNoted value (values written)
    · exact Value.stable_ofVariable _ _
  · apply Value.stable_object
    intro argument member
    exact ofNoted _ (Definition.boundValues_of_slot parts.normal isSlot bound
      (List.mem_map_of_mem member))

/-- All values in an artifact of a definition from a document have a stable text. -/
theorem values_stable : AllStable artifact.values :=
  fun value member => (parts.derived value member).stable fun _ => parts.writes_stable formed

/-- The default values of its formal arguments have one as well. -/
theorem defaults_stable : ∀ argument ∈ artifact.arguments, argument.default.Stable := by
  intro argument member
  obtain ⟨written, writes, made⟩ := parts.writesDefault member
  exact made.stable fun value isWritten => (formed.of_writesDefault writes value isWritten).stable

end Compiler.Parts

/-! ## Artifacts as JSON -/

theorem Initializer.json_succeeds {initializer : Initializer}
    (stable : AllStable initializer.values) : Succeeds initializer.json := by
  unfold Initializer.values at stable
  unfold Initializer.json
  cases access : initializer.access with
  | lookup checkContainer arguments =>
    rw [access] at stable
    have ofArguments : (arguments.getD .absent).Stable := by
      cases arguments with
      | none => exact .absent
      | some value => exact stable value List.mem_cons_self
    exact ofArguments.json_succeeds.bind fun _ => .pure _
  | content localProperty => exact .pure _

namespace Artifact

variable {artifact : Artifact}

theorem json_succeeds (stable : AllStable artifact.values)
    (defaults : ∀ argument ∈ artifact.arguments, argument.default.Stable) :
    Succeeds artifact.json := by
  have ofArguments : Succeeds (ArgumentDefinition.jsonAll artifact.arguments) :=
    .bind (.mapM fun argument member =>
      .bind (defaults argument member).written.2 fun _ => .pure _) fun _ => .pure _
  have ofSubstitutions : Succeeds (artifact.substitutions.mapM Initializer.json) :=
    .mapM fun _ member => Initializer.json_succeeds (stable.right.of_flatMap member)
  exact ofArguments.bind fun _ => .bind (Root.json_succeeds stable.left) fun _ =>
    ofSubstitutions.bind fun _ => .pure _

/-- Whether an artifact has JSON, which is written unless it is nested too deeply. -/
def IsWritten (artifact : Artifact) : Prop :=
  ∃ value, artifact.json = .ok value ∧
    artifact.compact =
      if value.depth ≤ JsonValue.nestingLimit then .ok value.compact
      else .error ⟨[], .nestedTooDeeply⟩

theorem isWritten_of_json (written : Succeeds artifact.json) : artifact.IsWritten := by
  obtain ⟨value, isValue⟩ := written
  refine ⟨value, isValue, ?_⟩
  unfold compact limitedJson
  rw [isValue]
  change Except.bind (orFail value.limited) _ = _
  unfold JsonValue.limited
  split <;> rfl

end Artifact

/-- An artifact of a definition from a document has JSON. -/
theorem Compiler.compile_written {compiler : Compiler} {scope : Scope} {validation : Bool}
    {artifact : Artifact} (formed : definition.WellFormed)
    (compiled : compiler.compile definition scope validation = .ok artifact) :
    artifact.IsWritten := by
  obtain ⟨parts⟩ := compile_parts compiled
  exact Artifact.isWritten_of_json
    (Artifact.json_succeeds (parts.values_stable formed) (parts.defaults_stable formed))

end QueryTree
