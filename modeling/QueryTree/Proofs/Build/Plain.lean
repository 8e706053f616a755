import QueryTree.Proofs.Build.Derived

/-!
# Arguments without their wrappers

A value becomes an argument or a literal.  Both fail for the first number in the value
that cannot be represented, and for nothing else.  Otherwise the argument is the
literal, apart from the wrappers in it, and the variables of the value can be read from
either of them.
-/

namespace QueryTree

namespace ArgumentValue

mutual

/-- An argument without its wrappers, its lists read as plain ones. -/
def plain : ArgumentValue → Literal
  | .variable name => .variable name
  | .substitution name => .substitution name
  | .literal value => value
  | .list items => .list (plainItems items)
  | .absent => .null

/-- Arguments without their wrappers. -/
def plainItems : List ArgumentValue → List Literal
  | [] => []
  | item :: items => plain item :: plainItems items

end

theorem plainItems_eq_map (items : List ArgumentValue) : plainItems items = items.map plain :=
  eq_map_of_cons rfl fun _ _ => rfl

theorem plain_ofVariable (parameters : List String) (name : String) :
    (ofVariable parameters name).plain = .ofVariable parameters name := by
  unfold ofVariable Literal.ofVariable
  split <;> rfl

end ArgumentValue

namespace Value

/-- The text and the position of a value that is a number. -/
def number? : Value → Option (String × Position)
  | .int raw position => some (raw, position)
  | .float raw position => some (raw, position)
  | _ => none

/-- The numbers in a value, from left to right. -/
def numbers (value : Value) : List (String × Position) := value.parts.filterMap number?

/-- The first number in a value that cannot be represented, as it is reported. -/
def numberFault? (value : Value) : Option Diagnostic :=
  (value.numbers.find? fun number => !isRepresentable number.1).map fun number =>
    .atPosition (.invalidLiteral number.1) number.2

variable {parameters : List String} {value : Value}

/-! ## The first fault -/

theorem numberFault?_list (values : List Value) (position : Position) :
    (Value.list values position).numberFault? = values.findSome? numberFault? := by
  unfold numberFault? numbers
  rw [parts, partsOfList_eq_flatMap, List.filterMap_cons_none rfl, List.filterMap_flatMap,
    List.find?_flatMap, List.map_findSome?]
  rfl

theorem numberFault?_object (fields : List (Named Value)) (position : Position) :
    (Value.object fields position).numberFault? =
      fields.findSome? fun field => field.value.numberFault? := by
  unfold numberFault? numbers
  rw [parts, partsOfFields_eq_flatMap, List.filterMap_cons_none rfl, List.filterMap_flatMap,
    List.find?_flatMap, List.map_findSome?]
  rfl

/-- A literal is refused for the first number that cannot be represented. -/
theorem literal_eq_error_iff {found : Diagnostic} :
    value.literal parameters = .error found ↔ value.numberFault? = some found := by
  induction value using Value.induction generalizing found with
  | ofVariable | string | boolean | null | enum =>
    rw [Value.literal]
    simp [numberFault?, numbers, parts, number?]
  | int raw position | float raw position =>
    rw [Value.literal, Literal.ofNumber]
    cases represents : isRepresentable raw <;>
      simp [numberFault?, numbers, parts, number?, represents]
  | list values position ih =>
    rw [Value.literal, literals_eq_mapM, numberFault?_list]
    exact map_eq_error_iff.trans (mapM_eq_error_iff fun value member _ => ih value member)
  | object fields position ih =>
    rw [Value.literal, literalFields_eq_mapM, numberFault?_object]
    refine map_eq_error_iff.trans (mapM_eq_error_iff fun field member error => ?_)
    exact map_eq_error_iff.trans (ih field member)

/-! ## Wrappers -/

/-- The argument of a value is its literal, once the wrappers are removed. -/
theorem map_plain_argument :
    (value.argument parameters).map ArgumentValue.plain = value.literal parameters := by
  induction value using Value.induction with
  | ofVariable name position =>
    rw [Value.argument, Value.literal]
    exact congrArg Except.ok (ArgumentValue.plain_ofVariable parameters name)
  | int | float | string | boolean | null | enum | object =>
    rw [Value.argument]
    · cases Value.literal parameters _ <;> rfl
    all_goals simp
  | list values position ih =>
    rw [Value.argument, Value.literal, argumentItems_eq_mapM, literals_eq_mapM, ← map_mapM ih]
    cases values.mapM (argument parameters) with
    | error found => rfl
    | ok items => exact congrArg (Except.ok ∘ Literal.list) (ArgumentValue.plainItems_eq_map items)

theorem argument_eq_error_iff {found : Diagnostic} :
    value.argument parameters = .error found ↔ value.numberFault? = some found := by
  have ofLiteral : value.literal parameters = .error found ↔ value.numberFault? = some found :=
    literal_eq_error_iff
  rw [← ofLiteral, ← map_plain_argument, map_eq_error_iff]

/-- A value is refused as an argument and as a literal for the same number, the first that
cannot be represented.  Otherwise the argument without its wrappers is the literal, and both
have the variables of the value in their order, as substitutions if they are parameters. -/
theorem argument_agrees_literal (parameters : List String) (value : Value) :
    (∀ found, value.argument parameters = .error found ↔ value.numberFault? = some found) ∧
    (∀ found, value.literal parameters = .error found ↔ value.numberFault? = some found) ∧
    (∀ argument, value.argument parameters = .ok argument →
      value.literal parameters = .ok argument.plain ∧
        argument.variableUses = value.variableNames.map (useOf parameters)) ∧
    ∀ literal, value.literal parameters = .ok literal →
      literal.variableUses = value.variableNames.map (useOf parameters) := by
  refine ⟨fun _ => argument_eq_error_iff, fun _ => literal_eq_error_iff, ?_,
    fun _ => literal_variableUses⟩
  intro argument made
  refine ⟨?_, argument_variableUses made⟩
  rw [← map_plain_argument, made]
  rfl

end Value

/-! ## Variables and numbers inside objects -/

namespace Sample

/-- A position in the first line of a text. -/
def atColumn (column : Int) : Position := ⟨1, column, ""⟩

/-- A field of an object. -/
def objectField (name : String) (value : Value) : Named Value := ⟨name, value, .unknown⟩

/-- A list with variables in it and in a list of an object, one of them twice. -/
def nestedValue : Value :=
  .list [.object [objectField "a" (.variable "x" .unknown), objectField "b"
    (.list [.int "1" .unknown, .variable "y" .unknown] .unknown)] .unknown,
      .variable "x" .unknown] .unknown

/-- A list with two numbers that are too large, the first of them in an object. -/
def hugeValue : Value :=
  .list [.int "1" (atColumn 2), .object [objectField "a" (.list [.float "1e999" (atColumn 10)]
    .unknown)] .unknown, .float "1e400" (atColumn 19)] .unknown

end Sample

/-- The variables of a list with an object, and the first of two numbers that are too
large. -/
theorem Value.nestedValue_agrees :
    (∃ argument, Sample.nestedValue.argument ["y"] = .ok argument ∧
      Sample.nestedValue.literal ["y"] = .ok argument.plain ∧
      argument.variableUses = [("x", false), ("y", true), ("x", false)]) ∧
    Sample.hugeValue.argument [] =
      .error (.atPosition (.invalidLiteral "1e999") (Sample.atColumn 10)) ∧
    Sample.hugeValue.literal [] =
      .error (.atPosition (.invalidLiteral "1e999") (Sample.atColumn 10)) := by
  obtain ⟨_, _, accepted, _⟩ := Value.argument_agrees_literal ["y"] Sample.nestedValue
  obtain ⟨refused, refusedLiteral, _⟩ := Value.argument_agrees_literal [] Sample.hugeValue
  have fault : Sample.hugeValue.numberFault? =
      some (.atPosition (.invalidLiteral "1e999") (Sample.atColumn 10)) := by decide +kernel
  obtain ⟨argument, made⟩ : ∃ argument, Sample.nestedValue.argument ["y"] = .ok argument :=
    exists_of_isOk (by decide +kernel)
  exact ⟨⟨argument, made, accepted argument made⟩, (refused _).mpr fault,
    (refusedLiteral _).mpr fault⟩

end QueryTree
