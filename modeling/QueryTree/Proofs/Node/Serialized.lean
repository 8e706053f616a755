import QueryTree.Proofs.Build.Value
import QueryTree.Proofs.Json.Compact
import QueryTree.Proofs.Node.Stable

/-!
# Values of a document as JSON

A value is made an argument first, which is then written as JSON.  Both steps succeed
exactly if all numbers in the value can be written, and what comes out is told by one
function on values.
-/

namespace QueryTree

/-- A variable as JSON: a substitution if it is a parameter. -/
def JsonValue.ofReference (parameters : List String) (name : String) : JsonValue :=
  if parameters.contains name then .ofSubstitution name else .ofVariable name

namespace Value

mutual

/-- The JSON of a value as a literal. -/
def literalJson (parameters : List String) : Value → JsonValue
  | .variable name _ => .ofReference parameters name
  | .int raw _ => .number raw
  | .float raw _ => .number raw
  | .string text _ _ => .string text
  | .boolean value _ => .bool value
  | .null _ => .null
  | .enum name _ => .string name
  | .list values _ => .array (literalsJson parameters values)
  | .object fields _ => .object (literalFieldsJson parameters fields)

/-- The JSON of values as literals. -/
def literalsJson (parameters : List String) : List Value → List JsonValue
  | [] => []
  | value :: values => literalJson parameters value :: literalsJson parameters values

/-- The JSON of the fields of an object as literals. -/
def literalFieldsJson (parameters : List String) :
    List (Named Value) → List (String × JsonValue)
  | [] => []
  | ⟨name, value, _⟩ :: fields =>
    (name, literalJson parameters value) :: literalFieldsJson parameters fields

end

mutual

/-- The JSON of a value as an argument. -/
def argumentJson (parameters : List String) : Value → JsonValue
  | .variable name _ => .ofReference parameters name
  | .list values _ => .array (argumentsJson parameters values)
  | value => .object [("kind", .string "CallValue"), ("callValue", value.literalJson parameters)]

/-- The JSON of the items of a list as arguments. -/
def argumentsJson (parameters : List String) : List Value → List JsonValue
  | [] => []
  | value :: values => argumentJson parameters value :: argumentsJson parameters values

end

section

variable (parameters : List String)

theorem literalsJson_eq_map (values : List Value) :
    literalsJson parameters values = values.map (literalJson parameters) :=
  eq_map_of_cons rfl fun _ _ => rfl

theorem literalFieldsJson_eq_map (fields : List (Named Value)) :
    literalFieldsJson parameters fields =
      fields.map fun field => (field.name, field.value.literalJson parameters) :=
  eq_map_of_cons rfl fun _ _ => rfl

theorem argumentsJson_eq_map (values : List Value) :
    argumentsJson parameters values = values.map (argumentJson parameters) :=
  eq_map_of_cons rfl fun _ _ => rfl

end

/-! ## Values that can be written -/

/-- Whether a value is no number that cannot be written. -/
def NumberFits : Value → Prop
  | .int raw _ => isRepresentable raw = true ∧ isJsonNumber raw = true
  | .float raw _ => isRepresentable raw = true ∧ isJsonNumber raw = true
  | _ => True

/-- Whether all numbers in a value can be written. -/
def Writable (value : Value) : Prop := ∀ part ∈ value.parts, part.NumberFits

theorem writable_list {values : List Value} {position : Position} :
    (list values position).Writable ↔ ∀ value ∈ values, value.Writable := by
  rw [Writable, parts, partsOfList_eq_flatMap, List.forall_mem_cons, List.forall_mem_flatMap]
  exact and_iff_right trivial

theorem writable_object {fields : List (Named Value)} {position : Position} :
    (object fields position).Writable ↔ ∀ field ∈ fields, field.value.Writable := by
  rw [Writable, parts, partsOfFields_eq_flatMap, List.forall_mem_cons, List.forall_mem_flatMap]
  exact and_iff_right trivial

end Value

/-! ## Two steps -/

/-- Whether a step on a value and a second one on its result succeed. -/
def TwoSteps {α β γ ε δ : Type} (first : α → Except ε β) (second : β → Except δ γ) (value : α)
    (result : γ) : Prop :=
  ∃ between, first value = .ok between ∧ second between = .ok result

variable {good : Prop} {α β γ δ ε : Type} {second : β → Except δ γ} {first : α → Except ε β}

theorem twoSteps_of_ok {value : α} {between : β} {image result : γ}
    (made : first value = .ok between) (written : second between = .ok image) (holds : good) :
    TwoSteps first second value result ↔ good ∧ result = image := by
  constructor
  · rintro ⟨found, isFound, isResult⟩
    rw [made] at isFound
    cases isFound
    rw [written] at isResult
    cases isResult
    exact ⟨holds, rfl⟩
  · rintro ⟨_, rfl⟩
    exact ⟨between, made, written⟩

/-- Two steps succeed on something if they do inside of it. -/
theorem twoSteps_wrap {α' β' γ' : Type} {outer : α' → Except ε β'} {write : β' → Except δ γ'}
    {value : α} {whole : α'} {image : γ} (wrap : β → β') (close : γ → γ')
    (made : outer whole = do return wrap (← first value))
    (written : ∀ between, first value = .ok between →
      write (wrap between) = do return close (← second between))
    (inner : ∀ result, TwoSteps first second value result ↔ good ∧ result = image) (result : γ') :
    TwoSteps outer write whole result ↔ good ∧ result = close image := by
  constructor
  · rintro ⟨wrapped, isWrapped, isResult⟩
    rw [made] at isWrapped
    obtain ⟨between, isBetween, isWrapped⟩ := exists_of_bind_eq_ok isWrapped
    cases isWrapped
    rw [written between isBetween] at isResult
    obtain ⟨found, isFound, isResult⟩ := exists_of_bind_eq_ok isResult
    cases isResult
    obtain ⟨holds, rfl⟩ := (inner found).mp ⟨between, isBetween, isFound⟩
    exact ⟨holds, rfl⟩
  · rintro ⟨holds, rfl⟩
    obtain ⟨between, isBetween, isImage⟩ := (inner image).mpr ⟨holds, rfl⟩
    refine ⟨wrap between, ?_, ?_⟩
    · rw [made, isBetween]
      rfl
    · rw [written between isBetween, isImage]
      rfl

/-- Two steps on many values succeed if they do on each. -/
theorem twoSteps_mapM {good : α → Prop} {image : α → γ} {values : List α}
    (each : ∀ value ∈ values, ∀ result,
      TwoSteps first second value result ↔ good value ∧ result = image value)
    (results : List γ) :
    TwoSteps (List.mapM first) (List.mapM second) values results ↔
      (∀ value ∈ values, good value) ∧ results = values.map image := by
  induction values generalizing results with
  | nil =>
    constructor
    · rintro ⟨between, isFirst, isSecond⟩
      rw [List.mapM_nil] at isFirst
      cases isFirst
      rw [List.mapM_nil] at isSecond
      cases isSecond
      simp
    · rintro ⟨_, rfl⟩
      exact ⟨[], rfl, rfl⟩
  | cons value values ih =>
    have eachOther := (List.forall_mem_cons.mp each).2
    rw [List.forall_mem_cons, List.map_cons]
    constructor
    · rintro ⟨between, isFirst, isSecond⟩
      rw [List.mapM_cons] at isFirst
      obtain ⟨head, isHead, isFirst⟩ := exists_of_bind_eq_ok isFirst
      obtain ⟨others, areOthers, isFirst⟩ := exists_of_bind_eq_ok isFirst
      cases isFirst
      rw [List.mapM_cons] at isSecond
      obtain ⟨result, isResult, isSecond⟩ := exists_of_bind_eq_ok isSecond
      obtain ⟨rest, isRest, isSecond⟩ := exists_of_bind_eq_ok isSecond
      cases isSecond
      obtain ⟨isGood, rfl⟩ := (each value List.mem_cons_self result).mp ⟨head, isHead, isResult⟩
      obtain ⟨areGood, rfl⟩ := (ih eachOther rest).mp ⟨others, areOthers, isRest⟩
      exact ⟨⟨isGood, areGood⟩, rfl⟩
    · rintro ⟨⟨isGood, areGood⟩, rfl⟩
      obtain ⟨head, isHead, isResult⟩ := (each value List.mem_cons_self _).mpr ⟨isGood, rfl⟩
      obtain ⟨others, areOthers, isRest⟩ := (ih eachOther _).mpr ⟨areGood, rfl⟩
      refine ⟨head :: others, ?_, ?_⟩
      · rw [List.mapM_cons, isHead, areOthers]
        rfl
      · rw [List.mapM_cons, isResult, isRest]
        rfl

/-! ## Literals -/

namespace Literal

theorem jsonFields_eq_mapM (fields : List (String × Literal)) :
    jsonFields fields = fields.mapM fun field => do
      field.2.check
      return (field.1, ← field.2.json) := by
  induction fields with
  | nil => rfl
  | cons field fields ih =>
    rw [jsonFields, List.mapM_cons, ih, bind_assoc]
    simp only [bind_assoc, pure_bind]

end Literal

namespace Value

variable {parameters : List String} {value : Value}

/-- The literal of a value passes the check. -/
theorem check_literal {literal : Literal} (made : value.literal parameters = .ok literal) :
    literal.check = .ok () := by
  induction value using Value.induction generalizing literal with
  | ofVariable name position =>
    cases made
    unfold Literal.ofVariable
    split <;> rfl
  | int raw position | float raw position =>
    unfold Value.literal Literal.ofNumber at made
    split at made
    · cases made
      rfl
    · cases made
  | string | boolean | null | enum =>
    cases made
    rfl
  | list values position ih =>
    rw [Value.literal, literals_eq_mapM] at made
    obtain ⟨items, areItems, made⟩ := exists_of_bind_eq_ok made
    cases made
    apply Literal.checkItems_eq_ok
    intro item member
    obtain ⟨value, inside, isItem⟩ := exists_of_mapM_eq_ok areItems member
    exact ih value inside isItem
  | object fields position ih =>
    rw [Value.literal] at made
    obtain ⟨entries, _, made⟩ := exists_of_bind_eq_ok made
    cases made
    rfl

/-- A number is written if it can be represented and if JSON has it too. -/
theorem number_written {raw : String} {position : Position} {result : JsonValue} :
    (∃ between, Literal.ofNumber raw position = .ok between ∧ between.json = .ok result) ↔
      (isRepresentable raw = true ∧ isJsonNumber raw = true) ∧ result = .number raw := by
  have filled : isRepresentable raw = true → raw ≠ "" := by
    rintro represents rfl
    revert represents
    decide
  unfold Literal.ofNumber
  by_cases represents : isRepresentable raw = true
  · by_cases isNumber : isJsonNumber raw = true
    · simp [represents, isNumber, Literal.json, Literal.numberJson, filled represents, eq_comm]
    · simp [represents, isNumber, Literal.json, Literal.numberJson, filled represents]
  · simp [represents]

theorem json_ofVariable (name : String) :
    (Literal.ofVariable parameters name).json = .ok (.ofReference parameters name) := by
  unfold Literal.ofVariable JsonValue.ofReference
  split <;> rfl

/-- A value is written as a literal exactly if its numbers can be, and then as its JSON. -/
theorem literal_written (value : Value) (result : JsonValue) :
    TwoSteps (literal parameters) Literal.json value result ↔
      value.Writable ∧ result = value.literalJson parameters := by
  induction value using Value.induction generalizing result with
  | ofVariable name position =>
    exact twoSteps_of_ok rfl (json_ofVariable name) (by simp [Writable, parts, NumberFits])
  | int raw position | float raw position =>
    refine Iff.trans number_written ?_
    simp [Writable, parts, NumberFits, literalJson]
  | string | boolean | null | enum =>
    exact twoSteps_of_ok rfl rfl (by simp [Writable, parts, NumberFits])
  | list values position ih =>
    rw [writable_list, literalJson, literalsJson_eq_map]
    refine twoSteps_wrap Literal.list .array ?_ ?_ (twoSteps_mapM ih) result
    · rw [literal, literals_eq_mapM]
    · intro items _
      rw [Literal.json, Literal.jsonItems_eq_mapM]
  | object fields position ih =>
    have entries : ∀ field ∈ fields, ∀ result, TwoSteps
        (fun field => do return (field.name, ← field.value.literal parameters))
        (fun entry => do
          entry.2.check
          return (entry.1, ← entry.2.json)) field result ↔
        field.value.Writable ∧ result = (field.name, field.value.literalJson parameters) := by
      intro field member
      refine twoSteps_wrap (Prod.mk field.name) (Prod.mk field.name) rfl ?_ (ih field member)
      intro between isBetween
      dsimp only
      rw [check_literal isBetween]
      rfl
    rw [writable_object, literalJson, literalFieldsJson_eq_map]
    refine twoSteps_wrap Literal.object .object ?_ ?_ (twoSteps_mapM entries) result
    · rw [literal, literalFields_eq_mapM]
    · intro items _
      rw [Literal.json, Literal.jsonFields_eq_mapM]

/-! ## Arguments -/

/-- A value that is neither a variable nor a list is wrapped. -/
theorem wrapped_written (result : JsonValue)
    (made : value.argument parameters = do return .literal (← value.literal parameters)) :
    TwoSteps (argument parameters) ArgumentValue.json value result ↔ value.Writable ∧
      result = .object [("kind", .string "CallValue"),
        ("callValue", value.literalJson parameters)] := by
  let close (json : JsonValue) : JsonValue :=
    .object [("kind", .string "CallValue"), ("callValue", json)]
  refine twoSteps_wrap .literal close made ?_ (literal_written value) result
  intro between isBetween
  rw [ArgumentValue.json, check_literal isBetween]
  rfl

/-- A value is written as an argument exactly if its numbers can be, and then as its
JSON. -/
theorem argument_written (value : Value) (result : JsonValue) :
    TwoSteps (argument parameters) ArgumentValue.json value result ↔
      value.Writable ∧ result = value.argumentJson parameters := by
  induction value using Value.induction generalizing result with
  | ofVariable name position =>
    have written : (ArgumentValue.ofVariable parameters name).json =
        .ok (.ofReference parameters name) := by
      unfold ArgumentValue.ofVariable JsonValue.ofReference
      split <;> rfl
    exact twoSteps_of_ok rfl written (by simp [Writable, parts, NumberFits])
  | int | float | string | boolean | null | enum | object => exact wrapped_written result rfl
  | list values position ih =>
    rw [writable_list, argumentJson, argumentsJson_eq_map]
    refine twoSteps_wrap ArgumentValue.list .array ?_ ?_ (twoSteps_mapM ih) result
    · rw [argument, argumentItems_eq_mapM]
    · intro items _
      rw [ArgumentValue.json, ArgumentValue.jsonItems_eq_mapM]

/-- Whether a value is given as an argument in a text: the value is made an argument,
which is written as JSON that is not nested too deeply. -/
def Serializes (parameters : List String) (value : Value) (text : String) : Prop :=
  ∃ argument json, value.argument parameters = .ok argument ∧
    (do (← argument.json).limited) = .ok json ∧ text = json.compact

theorem serializes_iff {text : String} :
    value.Serializes parameters text ↔ value.Writable ∧
      (value.argumentJson parameters).depth ≤ JsonValue.nestingLimit ∧
        text = (value.argumentJson parameters).compact := by
  constructor
  · rintro ⟨argument, json, isArgument, isJson, rfl⟩
    obtain ⟨written, isWritten, isJson⟩ := exists_of_bind_eq_ok isJson
    obtain ⟨writable, rfl⟩ := (argument_written value written).mp ⟨argument, isArgument, isWritten⟩
    unfold JsonValue.limited at isJson
    split at isJson
    next within =>
      cases isJson
      exact ⟨writable, within, rfl⟩
    next => cases isJson
  · rintro ⟨writable, within, rfl⟩
    obtain ⟨argument, isArgument, isWritten⟩ := (argument_written value _).mpr ⟨writable, rfl⟩
    refine ⟨argument, _, isArgument, ?_, rfl⟩
    rw [isWritten]
    exact if_pos within

/-! ## Numbers -/

theorem wellFormed_ofReference (name : String) :
    (JsonValue.ofReference parameters name).WellFormed := by
  unfold JsonValue.ofReference
  split
  · apply JsonValue.WellFormed.object
    simp [JsonValue.WellFormed.string]
  · apply JsonValue.WellFormed.object
    simp [JsonValue.WellFormed.string]

theorem wellFormed_literalJson (writable : value.Writable) :
    (value.literalJson parameters).WellFormed := by
  induction value using Value.induction with
  | ofVariable name position => exact wellFormed_ofReference name
  | int raw position | float raw position =>
    simp [Writable, parts, NumberFits] at writable
    exact .number writable.2
  | string text => exact .string text
  | boolean value => exact .bool value
  | null => exact .null
  | enum name => exact .string name
  | list values position ih =>
    rw [literalJson, literalsJson_eq_map]
    apply JsonValue.WellFormed.array
    intro item member
    obtain ⟨value, inside, rfl⟩ := List.mem_map.mp member
    exact ih value inside (writable_list.mp writable value inside)
  | object fields position ih =>
    rw [literalJson, literalFieldsJson_eq_map]
    apply JsonValue.WellFormed.object
    intro entry member
    obtain ⟨field, inside, rfl⟩ := List.mem_map.mp member
    exact ih field inside (writable_object.mp writable field inside)

theorem wellFormed_argumentJson (writable : value.Writable) :
    (value.argumentJson parameters).WellFormed := by
  induction value using Value.induction with
  | ofVariable name position => exact wellFormed_ofReference name
  | int | float | string | boolean | null | enum | object =>
    apply JsonValue.WellFormed.object
    simp only [List.mem_cons, List.not_mem_nil, or_false]
    rintro entry (rfl | rfl)
    · exact .string _
    · exact wellFormed_literalJson writable
  | list values position ih =>
    rw [argumentJson, argumentsJson_eq_map]
    apply JsonValue.WellFormed.array
    intro item member
    obtain ⟨value, inside, rfl⟩ := List.mem_map.mp member
    exact ih value inside (writable_list.mp writable value inside)

end Value

end QueryTree
