import QueryTree.Language.Value

/-!
# Values without their positions, and what is inside them

A value is stripped of what its meaning does not depend on: the positions in it
and the style in which its strings were written.  Induction on a value assumes
the property of everything in a list or an object.  The variables of a value are
those among its parts, from left to right.
-/

namespace QueryTree

variable {α β : Type} {items : List α}

/-- What is collected from one item after another is collected from each. -/
theorem eq_flatMap_of_cons {collect : List α → List β} {each : α → List β}
    (nil : collect [] = [])
    (cons : ∀ first rest, collect (first :: rest) = each first ++ collect rest) :
    collect items = items.flatMap each := by
  induction items with
  | nil => exact nil
  | cons first rest ih => rw [cons, List.flatMap_cons, ih]

/-- What is changed one item after another is changed item by item. -/
theorem eq_map_of_cons {change : List α → List β} {each : α → β} (nil : change [] = [])
    (cons : ∀ first rest, change (first :: rest) = each first :: change rest) :
    change items = items.map each := by
  induction items with
  | nil => exact nil
  | cons first rest ih => rw [cons, List.map_cons, ih]

namespace Value

/-- Induction on a value, with the property assumed of the members of lists and
of the fields of objects. -/
@[elab_as_elim]
theorem induction {motive : Value → Prop}
    (ofVariable : ∀ name position, motive (.variable name position))
    (int : ∀ raw position, motive (.int raw position))
    (float : ∀ raw position, motive (.float raw position))
    (string : ∀ text block position, motive (.string text block position))
    (boolean : ∀ value position, motive (.boolean value position))
    (null : ∀ position, motive (.null position))
    (enum : ∀ name position, motive (.enum name position))
    (list : ∀ values position, (∀ value ∈ values, motive value) → motive (.list values position))
    (object : ∀ fields position, (∀ field ∈ fields, motive field.value) →
      motive (.object fields position))
    (value : Value) : motive value := by
  refine @Value.rec motive (fun values => ∀ value ∈ values, motive value)
    (fun fields => ∀ field ∈ fields, motive field.value) (fun field => motive field.value)
    ofVariable int float string boolean null enum list object ?_ ?_ ?_ ?_ ?_ value
  · exact List.forall_mem_nil _
  · intro first rest ofFirst ofRest
    exact List.forall_mem_cons.mpr ⟨ofFirst, ofRest⟩
  · exact List.forall_mem_nil _
  · intro first rest ofFirst ofRest
    exact List.forall_mem_cons.mpr ⟨ofFirst, ofRest⟩
  · intro name value position ofValue
    exact ofValue

mutual

/-- A value without its positions and without the style of its strings. -/
def stripped : Value → Value
  | .variable name _ => .variable name .unknown
  | .int raw _ => .int raw .unknown
  | .float raw _ => .float raw .unknown
  | .string text _ _ => .string text false .unknown
  | .boolean value _ => .boolean value .unknown
  | .null _ => .null .unknown
  | .enum name _ => .enum name .unknown
  | .list values _ => .list (strippedAll values) .unknown
  | .object fields _ => .object (strippedFields fields) .unknown

/-- The values of a list without their positions. -/
def strippedAll : List Value → List Value
  | [] => []
  | value :: values => stripped value :: strippedAll values

/-- Fields without their positions. -/
def strippedFields : List (Named Value) → List (Named Value)
  | [] => []
  | ⟨name, value, _⟩ :: fields => ⟨name, stripped value, .unknown⟩ :: strippedFields fields

end

mutual

/-- A value and all values inside it. -/
def parts : Value → List Value
  | .list values position => .list values position :: partsOfList values
  | .object fields position => .object fields position :: partsOfFields fields
  | value => [value]

/-- The parts of the values of a list. -/
def partsOfList : List Value → List Value
  | [] => []
  | value :: values => parts value ++ partsOfList values

/-- The parts of the values of fields. -/
def partsOfFields : List (Named Value) → List Value
  | [] => []
  | ⟨_, value, _⟩ :: fields => parts value ++ partsOfFields fields

end

/-- The name of a value that is a variable. -/
def variableName? : Value → Option String
  | .variable name _ => some name
  | _ => none

end Value

/-- An argument without its positions. -/
def Argument.stripped (argument : Argument) : Argument :=
  ⟨argument.name, argument.value.stripped, .unknown⟩

namespace Value

variable (values : List Value)

theorem namesOfList_eq_flatMap : namesOfList values = values.flatMap variableNames :=
  eq_flatMap_of_cons rfl fun _ _ => rfl

variable (fields : List (Named Value))

theorem namesOfFields_eq_flatMap :
    namesOfFields fields = fields.flatMap fun field => field.value.variableNames :=
  eq_flatMap_of_cons rfl fun _ _ => rfl

theorem partsOfList_eq_flatMap : partsOfList values = values.flatMap parts :=
  eq_flatMap_of_cons rfl fun _ _ => rfl

theorem partsOfFields_eq_flatMap :
    partsOfFields fields = fields.flatMap fun field => field.value.parts :=
  eq_flatMap_of_cons rfl fun _ _ => rfl

/-- The variables of a value are those among its parts. -/
theorem variableNames_eq_filterMap (value : Value) :
    value.variableNames = value.parts.filterMap variableName? := by
  induction value using Value.induction with
  | list values position ih =>
    simp only [variableNames, parts, namesOfList_eq_flatMap, partsOfList_eq_flatMap,
      List.filterMap_cons, variableName?, List.filterMap_flatMap]
    rw [List.flatMap_def, List.flatMap_def, List.map_congr_left ih]
  | object fields position ih =>
    simp only [variableNames, parts, namesOfFields_eq_flatMap, partsOfFields_eq_flatMap,
      List.filterMap_cons, variableName?, List.filterMap_flatMap]
    rw [List.flatMap_def, List.flatMap_def, List.map_congr_left ih]
  | _ => rfl

theorem strippedAll_eq_map : strippedAll values = values.map stripped :=
  eq_map_of_cons rfl fun _ _ => rfl

theorem strippedFields_eq_map : strippedFields fields = fields.map Argument.stripped :=
  eq_map_of_cons rfl fun _ _ => rfl

end Value

/-- A directive without its positions. -/
def Directive.stripped (directive : Directive) : Directive :=
  ⟨directive.name, directive.arguments.map Argument.stripped, .unknown⟩

/-- A type reference without its positions. -/
def TypeRef.stripped : TypeRef → TypeRef
  | .named name nonNull _ => .named name nonNull .unknown
  | .list element nonNull _ => .list element.stripped nonNull .unknown

end QueryTree
