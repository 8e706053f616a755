import QueryTree.Proofs.Document.Definition

/-!
# Definitions up to positions

What remains of a value or a definition if its positions are left out.  The style in
which strings were written stays, so that less is lost than by stripping.
-/

namespace QueryTree

namespace Value

mutual

/-- A value without its positions. -/
def unplaced : Value → Value
  | .variable name _ => .variable name .unknown
  | .int raw _ => .int raw .unknown
  | .float raw _ => .float raw .unknown
  | .string text block _ => .string text block .unknown
  | .boolean value _ => .boolean value .unknown
  | .null _ => .null .unknown
  | .enum name _ => .enum name .unknown
  | .list values _ => .list (unplacedAll values) .unknown
  | .object fields _ => .object (unplacedFields fields) .unknown

/-- The values of a list without their positions. -/
def unplacedAll : List Value → List Value
  | [] => []
  | value :: values => unplaced value :: unplacedAll values

/-- Fields without their positions. -/
def unplacedFields : List (Named Value) → List (Named Value)
  | [] => []
  | ⟨name, value, _⟩ :: fields => ⟨name, unplaced value, .unknown⟩ :: unplacedFields fields

end

end Value

/-- An argument without its positions. -/
def Argument.unplaced (argument : Argument) : Argument :=
  ⟨argument.name, argument.value.unplaced, .unknown⟩

/-- A directive without its positions. -/
def Directive.unplaced (directive : Directive) : Directive :=
  ⟨directive.name, directive.arguments.map Argument.unplaced, .unknown⟩

/-- A field without its positions. -/
def Field.unplaced (field : Field) : Field where
  alias? := field.alias?
  name := field.name
  arguments := field.arguments.map Argument.unplaced
  directives := field.directives.map Directive.unplaced
  position := .unknown

/-- A spread without its positions. -/
def Spread.unplaced (spread : Spread) : Spread :=
  ⟨spread.name, spread.directives.map Directive.unplaced, .unknown⟩

/-- An inline fragment without its positions. -/
def InlineFragment.unplaced (fragment : InlineFragment) : InlineFragment :=
  ⟨fragment.condition, fragment.directives.map Directive.unplaced, .unknown⟩

namespace Selection

mutual

/-- A selection without its positions. -/
def unplaced : Selection → Selection
  | .field head selections => .field head.unplaced (unplacedAll selections)
  | .spread head => .spread head.unplaced
  | .inline head selections => .inline head.unplaced (unplacedAll selections)

/-- Selections without their positions. -/
def unplacedAll : List Selection → List Selection
  | [] => []
  | selection :: selections => unplaced selection :: unplacedAll selections

end

end Selection

/-- The declaration of a variable without its positions. -/
def VariableDefinition.unplaced (declared : VariableDefinition) : VariableDefinition where
  name := declared.name
  type := declared.type.stripped
  default := declared.default.map Value.unplaced
  position := .unknown

/-- A definition without its positions. -/
def Definition.unplaced (definition : Definition) : Definition where
  kind := definition.kind
  name := definition.name
  condition := definition.condition
  variableDefinitions := definition.variableDefinitions.map VariableDefinition.unplaced
  directives := definition.directives.map Directive.unplaced
  selections := definition.selections.map Selection.unplaced
  position := .unknown

/-! ## Lists -/

theorem Value.unplacedAll_eq_map (values : List Value) :
    unplacedAll values = values.map unplaced :=
  eq_map_of_cons rfl fun _ _ => rfl

theorem Value.unplacedFields_eq_map (fields : List (Named Value)) :
    unplacedFields fields = fields.map Argument.unplaced :=
  eq_map_of_cons rfl fun _ _ => rfl

theorem Selection.unplacedAll_eq_map (selections : List Selection) :
    unplacedAll selections = selections.map unplaced :=
  eq_map_of_cons rfl fun _ _ => rfl

/-! ## Stripping loses positions, too -/

theorem Value.stripped_unplaced (value : Value) : value.unplaced.stripped = value.stripped := by
  induction value using Value.induction with
  | ofVariable | int | float | string | boolean | null | enum => rfl
  | list values position ih =>
    rw [unplaced, stripped, stripped, strippedAll_eq_map, strippedAll_eq_map, unplacedAll_eq_map,
      List.map_map]
    congr 1
    exact List.map_congr_left ih
  | object fields position ih =>
    rw [unplaced, stripped, stripped, strippedFields_eq_map, strippedFields_eq_map,
      unplacedFields_eq_map, List.map_map]
    congr 1
    apply List.map_congr_left
    intro field member
    simp [Argument.unplaced, Argument.stripped, ih field member]

theorem Argument.stripped_unplaced (argument : Argument) :
    argument.unplaced.stripped = argument.stripped := by
  simp [unplaced, stripped, Value.stripped_unplaced]

theorem Directive.stripped_unplaced (directive : Directive) :
    directive.unplaced.stripped = directive.stripped := by
  simp [unplaced, stripped, Argument.stripped_unplaced]

theorem Selection.stripped_unplaced (selection : Selection) :
    selection.unplaced.stripped = selection.stripped := by
  induction selection using Selection.induction with
  | field head selections ih =>
    rw [unplaced, stripped, stripped, strippedAll_eq_map, strippedAll_eq_map, unplacedAll_eq_map,
      List.map_map]
    congr 1
    · simp [Field.unplaced, Field.stripped, Argument.stripped_unplaced, Directive.stripped_unplaced]
    · exact List.map_congr_left ih
  | spread head =>
    simp [unplaced, stripped, Spread.unplaced, Spread.stripped, Directive.stripped_unplaced]
  | inline head selections ih =>
    rw [unplaced, stripped, stripped, strippedAll_eq_map, strippedAll_eq_map, unplacedAll_eq_map,
      List.map_map]
    congr 1
    · simp [InlineFragment.unplaced, InlineFragment.stripped, Directive.stripped_unplaced]
    · exact List.map_congr_left ih

theorem TypeRef.stripped_stripped (type : TypeRef) : type.stripped.stripped = type.stripped := by
  induction type with
  | named => rfl
  | list element nonNull position ih => rw [stripped, stripped, ih]

theorem VariableDefinition.stripped_unplaced (declared : VariableDefinition) :
    declared.unplaced.stripped = declared.stripped := by
  simp [unplaced, stripped, TypeRef.stripped_stripped, Function.comp_def, Value.stripped_unplaced]

/-- Definitions that are the same up to positions are so without the style of strings. -/
theorem Definition.stripped_unplaced (definition : Definition) :
    definition.unplaced.stripped = definition.stripped := by
  simp [unplaced, stripped, VariableDefinition.stripped_unplaced, Directive.stripped_unplaced,
    Selection.stripped_unplaced]

/-! ## What is seen of a definition

With or without the style of strings, what is seen of the whole is made up of what is seen
of its parts. -/

section Seen

variable {styled : Bool}

/-- What is seen of a value, with or without the style of its strings. -/
def Value.seen : Bool → Value → Value
  | true => unplaced
  | false => stripped

def Argument.seen : Bool → Argument → Argument
  | true => unplaced
  | false => stripped

def Directive.seen : Bool → Directive → Directive
  | true => unplaced
  | false => stripped

def Field.seen : Bool → Field → Field
  | true => unplaced
  | false => stripped

def Selection.seen : Bool → Selection → Selection
  | true => unplaced
  | false => stripped

def VariableDefinition.seen : Bool → VariableDefinition → VariableDefinition
  | true => unplaced
  | false => stripped

def Definition.seen : Bool → Definition → Definition
  | true => unplaced
  | false => stripped

theorem Value.seen_list (values : List Value) (position : Position) :
    (Value.list values position).seen styled = .list (values.map (seen styled)) .unknown := by
  cases styled with
  | true => exact congrArg (Value.list · .unknown) (unplacedAll_eq_map values)
  | false => exact congrArg (Value.list · .unknown) (strippedAll_eq_map values)

theorem Value.seen_object (fields : List (Named Value)) (position : Position) :
    (Value.object fields position).seen styled =
      .object (fields.map (Argument.seen styled)) .unknown := by
  cases styled with
  | true => exact congrArg (Value.object · .unknown) (unplacedFields_eq_map fields)
  | false => exact congrArg (Value.object · .unknown) (strippedFields_eq_map fields)

variable (name : String)

theorem Argument.seen_mk (value : Value) (position : Position) :
    seen styled ⟨name, value, position⟩ = ⟨name, value.seen styled, .unknown⟩ := by
  cases styled <;> rfl

theorem Directive.seen_mk (arguments : List Argument) (position : Position) :
    seen styled ⟨name, arguments, position⟩ =
      ⟨name, arguments.map (Argument.seen styled), .unknown⟩ := by
  cases styled <;> rfl

theorem Field.seen_mk (alias? : Option String) (name : String) (arguments : List Argument)
    (directives : List Directive) (position : Position) :
    seen styled ⟨alias?, name, arguments, directives, position⟩ =
      ⟨alias?, name, arguments.map (Argument.seen styled), directives.map (Directive.seen styled),
        .unknown⟩ := by
  cases styled <;> rfl

theorem Selection.seen_field (head : Field) (selections : List Selection) :
    (Selection.field head selections).seen styled =
      .field (head.seen styled) (selections.map (seen styled)) := by
  cases styled with
  | true => exact congrArg (Selection.field head.unplaced) (unplacedAll_eq_map selections)
  | false => exact congrArg (Selection.field head.stripped) (strippedAll_eq_map selections)

theorem Selection.seen_spread (directives : List Directive) (position : Position) :
    (Selection.spread ⟨name, directives, position⟩).seen styled =
      .spread ⟨name, directives.map (Directive.seen styled), .unknown⟩ := by
  cases styled <;> rfl

theorem Selection.seen_inline (condition : Option String) (directives : List Directive)
    (position : Position) (selections : List Selection) :
    (Selection.inline ⟨condition, directives, position⟩ selections).seen styled =
      .inline ⟨condition, directives.map (Directive.seen styled), .unknown⟩
        (selections.map (seen styled)) := by
  cases styled with
  | true => exact congrArg (Selection.inline _) (unplacedAll_eq_map selections)
  | false => exact congrArg (Selection.inline _) (strippedAll_eq_map selections)

theorem VariableDefinition.seen_mk (type : TypeRef) (default : Option Value) (position : Position) :
    seen styled ⟨name, type, default, position⟩ =
      ⟨name, type.stripped, default.map (Value.seen styled), .unknown⟩ := by
  cases styled <;> rfl

theorem Definition.seen_mk (kind : DefinitionKind) (name condition : String)
    (declared : List VariableDefinition) (directives : List Directive)
    (selections : List Selection) (position : Position) :
    seen styled ⟨kind, name, condition, declared, directives, selections, position⟩ =
      ⟨kind, name, condition, declared.map (VariableDefinition.seen styled),
        directives.map (Directive.seen styled), selections.map (Selection.seen styled),
        .unknown⟩ := by
  cases styled <;> rfl

end Seen

end QueryTree
