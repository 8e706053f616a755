import QueryTree.Schema.View

/-!
# Looking up types

A type that was found in a schema is the one that the schema declares under its
name.  The questions about a type depend on its declaration alone, so that they
have the same answer for the type without its modifiers.
-/

namespace QueryTree

/-- The type without its modifiers. -/
def SchemaType.bare (type : SchemaType) : SchemaType :=
  ⟨type.declaration, .named type.name false .unknown⟩

namespace Schema

variable {schema : Schema} {type : SchemaType}

/-- Whether a type is the one that the schema declares under its name. -/
def Declares (schema : Schema) (type : SchemaType) : Prop :=
  schema.declaration? type.name = some type.declaration

theorem typeOf?_eq_some {ref : TypeRef} (found : schema.typeOf? ref = some type) :
    schema.Declares type ∧ type.name = ref.baseName := by
  obtain ⟨declaration, declared, rfl⟩ := Option.map_eq_some_iff.mp found
  have named : declaration.name = ref.baseName := by
    simpa using List.find?_some declared
  refine ⟨?_, named⟩
  show schema.declaration? declaration.name = some declaration
  rw [named, declared]

variable {name : String}

theorem declares_of_type? (found : schema.type? name = some type) : schema.Declares type :=
  (typeOf?_eq_some found).1

theorem name_of_type? (found : schema.type? name = some type) : type.name = name :=
  (typeOf?_eq_some found).2

/-- The type of every field is declared. -/
theorem declares_of_field? {field : SchemaField} (found : schema.field? type name = some field) :
    schema.Declares field.type := by
  unfold field? at found
  split at found
  · split at found
    · obtain ⟨fieldType, declared, rfl⟩ := Option.map_eq_some_iff.mp found
      exact (typeOf?_eq_some declared).1
    · cases found
  · obtain ⟨declaration, _, found⟩ := Option.bind_eq_some_iff.mp found
    obtain ⟨fieldType, declared, found⟩ := Option.bind_eq_some_iff.mp found
    cases found
    exact (typeOf?_eq_some declared).1

/-- A declared type is found by its name. -/
theorem Declares.type?_name (declares : schema.Declares type) :
    schema.type? type.name = some type.bare := by
  show (schema.declaration? type.name).map _ = _
  rw [declares]
  rfl

/-! ## Connections, edges and pages -/

theorem suffix_of_isConnection (connection : schema.isConnection type = true) :
    "Connection".toList <:+ type.name.toList := by
  simp only [isConnection, Bool.and_eq_true] at connection
  simpa using String.Slice.endsWith_string_iff.mp connection.1.1

theorem suffix_of_isEdge (edge : schema.isEdge type = true) :
    "Edge".toList <:+ type.name.toList := by
  simp only [isEdge, Bool.and_eq_true] at edge
  simpa using String.Slice.endsWith_string_iff.mp edge.1.1

theorem hasField_of_isConnection (connection : schema.isConnection type = true) :
    schema.hasField type schema.names.pageInfo = true := by
  simp only [isConnection, Bool.and_eq_true] at connection
  unfold hasField
  cases found : schema.field? type schema.names.pageInfo with
  | none =>
    rw [found] at connection
    cases connection.2
  | some field => rfl

/-- A page info is no connection. -/
theorem isConnection_of_isPageInfo (page : type.isPageInfo = true) :
    schema.isConnection type = false := by
  refine Bool.eq_false_iff.mpr fun connection => ?_
  have ends := suffix_of_isConnection connection
  rw [of_decide_eq_true page] at ends
  revert ends
  decide

/-- A page info is no edge. -/
theorem isEdge_of_isPageInfo (page : type.isPageInfo = true) : schema.isEdge type = false := by
  refine Bool.eq_false_iff.mpr fun edge => ?_
  have ends := suffix_of_isEdge edge
  rw [of_decide_eq_true page] at ends
  revert ends
  decide

/-- An edge is no connection. -/
theorem isConnection_of_isEdge (edge : schema.isEdge type = true) :
    schema.isConnection type = false := by
  refine Bool.eq_false_iff.mpr fun connection => ?_
  have both :=
    List.suffix_or_suffix_of_suffix (suffix_of_isConnection connection) (suffix_of_isEdge edge)
  revert both
  decide

end Schema

end QueryTree
