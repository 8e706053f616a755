import QueryTree.Proofs.Node.Serialized

/-!
# Constants that look like variables

A variable inside an object is written as a small object of its own, and so is an object
literal with the same keys.  Such a literal is a disguise.  An argument is clear if no
object inside one of its objects is a disguise: the argument itself and the items of its
lists are wrapped, so they may look as they like.

The variables of a clear argument can be read from its text.  An argument that is not
clear has the same text as one that is and that has more variables.
-/

namespace QueryTree

/-! ## Disguises -/

namespace Value

/-- The text as which a value is written, if it is one. -/
def text? : Value → Option String
  | .string text _ _ => some text
  | .enum name _ => some name
  | _ => none

/-- The variable that an object literal looks like: a substitution if it is a parameter,
and an ordinary one if it is none. -/
def disguise? (parameters : List String) : Value → Option String
  | .object [field] _ =>
    if field.name = "$var" then field.value.text?.filter (parameters.contains ·) else none
  | .object [kind, field] _ =>
    if kind.name = "kind" ∧ kind.value.text? = some "CallVariable" ∧
        field.name = "callVariableName" then
      field.value.text?.filter (!parameters.contains ·)
    else none
  | _ => none

mutual

/-- The values inside the objects of an argument. -/
def embedded : Value → List Value
  | .list values _ => embeddedInList values
  | .object fields _ => partsOfFields fields
  | _ => []

/-- The values inside the objects of the items of a list. -/
def embeddedInList : List Value → List Value
  | [] => []
  | value :: values => embedded value ++ embeddedInList values

end

/-- Whether nothing inside the objects of an argument is a disguise. -/
def IsClear (parameters : List String) (value : Value) : Prop :=
  ∀ part ∈ value.embedded, part.disguise? parameters = none

instance (parameters : List String) (value : Value) : Decidable (value.IsClear parameters) :=
  inferInstanceAs (Decidable (∀ part ∈ value.embedded, part.disguise? parameters = none))

mutual

/-- A value in which every disguise is the variable that it looks like. -/
def revealed (parameters : List String) : Value → Value
  | .list values position => .list (revealedAll parameters values) position
  | .object fields position =>
    match disguise? parameters (.object fields position) with
    | some name => .variable name position
    | none => .object (revealedFields parameters fields) position
  | value => value

/-- Values in which every disguise is the variable that it looks like. -/
def revealedAll (parameters : List String) : List Value → List Value
  | [] => []
  | value :: values => revealed parameters value :: revealedAll parameters values

/-- Fields in which every disguise is the variable that it looks like. -/
def revealedFields (parameters : List String) : List (Named Value) → List (Named Value)
  | [] => []
  | ⟨name, value, position⟩ :: fields =>
    ⟨name, revealed parameters value, position⟩ :: revealedFields parameters fields

end

mutual

/-- An argument in whose objects every disguise is the variable that it looks like. -/
def revealedArgument (parameters : List String) : Value → Value
  | .list values position => .list (revealedArguments parameters values) position
  | .object fields position => .object (revealedFields parameters fields) position
  | value => value

/-- Items of a list in whose objects every disguise is the variable that it looks like. -/
def revealedArguments (parameters : List String) : List Value → List Value
  | [] => []
  | value :: values => revealedArgument parameters value :: revealedArguments parameters values

end

section

variable (parameters : List String) (values : List Value)

theorem embeddedInList_eq_flatMap : embeddedInList values = values.flatMap embedded :=
  eq_flatMap_of_cons rfl fun _ _ => rfl

theorem revealedAll_eq_map : revealedAll parameters values = values.map (revealed parameters) :=
  eq_map_of_cons rfl fun _ _ => rfl

theorem revealedFields_eq_map (fields : List (Named Value)) :
    revealedFields parameters fields = fields.map fun field =>
      ⟨field.name, field.value.revealed parameters, field.position⟩ :=
  eq_map_of_cons rfl fun _ _ => rfl

theorem revealedArguments_eq_map :
    revealedArguments parameters values = values.map (revealedArgument parameters) :=
  eq_map_of_cons rfl fun _ _ => rfl

end

end Value

/-! ## Reading the variables back -/

namespace JsonValue

/-- The text that a JSON value is, if it is one. -/
def text? : JsonValue → Option String
  | .string text => some text
  | _ => none

/-- The variable that a JSON value is, if it is one. -/
def reference? (parameters : List String) : JsonValue → Option String
  | .object [(key, value)] =>
    if key = "$var" then value.text?.filter (parameters.contains ·) else none
  | .object [(kindKey, kind), (key, value)] =>
    if kindKey = "kind" ∧ kind.text? = some "CallVariable" ∧ key = "callVariableName" then
      value.text?.filter (!parameters.contains ·)
    else none
  | _ => none

mutual

/-- The variables of a JSON value, in order. -/
def references (parameters : List String) : JsonValue → List String
  | .array items => referencesOfItems parameters items
  | .object entries =>
    match reference? parameters (.object entries) with
    | some name => [name]
    | none => referencesOfEntries parameters entries
  | _ => []

/-- The variables of the items of an array. -/
def referencesOfItems (parameters : List String) : List JsonValue → List String
  | [] => []
  | item :: items => references parameters item ++ referencesOfItems parameters items

/-- The variables of the values of an object. -/
def referencesOfEntries (parameters : List String) : List (String × JsonValue) → List String
  | [] => []
  | (_, value) :: entries => references parameters value ++ referencesOfEntries parameters entries

end

mutual

/-- The variables of the JSON of an argument.  What an argument wraps is no variable. -/
def argumentReferences (parameters : List String) : JsonValue → List String
  | .array items => argumentReferencesOfItems parameters items
  | .object [(_, _), (_, .object entries)] => referencesOfEntries parameters entries
  | value => (reference? parameters value).toList

/-- The variables of the JSON of the items of a list. -/
def argumentReferencesOfItems (parameters : List String) : List JsonValue → List String
  | [] => []
  | item :: items =>
    argumentReferences parameters item ++ argumentReferencesOfItems parameters items

end

section

variable (parameters : List String)

theorem referencesOfItems_eq_flatMap (items : List JsonValue) :
    referencesOfItems parameters items = items.flatMap (references parameters) :=
  eq_flatMap_of_cons rfl fun _ _ => rfl

theorem referencesOfEntries_eq_flatMap (entries : List (String × JsonValue)) :
    referencesOfEntries parameters entries =
      entries.flatMap fun entry => entry.2.references parameters :=
  eq_flatMap_of_cons rfl fun _ _ => rfl

theorem argumentReferencesOfItems_eq_flatMap (items : List JsonValue) :
    argumentReferencesOfItems parameters items = items.flatMap (argumentReferences parameters) :=
  eq_flatMap_of_cons rfl fun _ _ => rfl

end

theorem reference?_ofReference (parameters : List String) (name : String) :
    (ofReference parameters name).reference? parameters = some name := by
  unfold ofReference
  split
  next isParameter => simp_all [ofSubstitution, reference?, text?]
  next isParameter => simp_all [ofVariable, reference?, text?]

theorem references_ofReference (parameters : List String) (name : String) :
    (ofReference parameters name).references parameters = [name] := by
  have found := reference?_ofReference parameters name
  unfold ofReference at found ⊢
  split at found
  next isParameter =>
    rw [if_pos isParameter]
    unfold ofSubstitution at found ⊢
    rw [references, found]
  next isParameter =>
    rw [if_neg isParameter]
    unfold ofVariable at found ⊢
    rw [references, found]

variable {json : JsonValue}

theorem eq_string_of_text? {text : String} (isText : json.text? = some text) :
    json = .string text := by
  cases json with
  | string other =>
    cases isText
    rfl
  | _ => cases isText

/-- Only a variable reads as one. -/
theorem eq_ofReference_of_reference? {parameters : List String} {name : String}
    (found : json.reference? parameters = some name) : json = ofReference parameters name := by
  unfold reference? at found
  split at found
  next key value =>
    split at found
    next isKey =>
      obtain ⟨isText, isParameter⟩ := Option.filter_eq_some_iff.mp found
      rw [isKey, eq_string_of_text? isText, ofReference, if_pos isParameter, ofSubstitution]
    next => cases found
  next kindKey kind key value =>
    split at found
    next areKeys =>
      obtain ⟨isKindKey, isKind, isKey⟩ := areKeys
      obtain ⟨isText, isNoParameter⟩ := Option.filter_eq_some_iff.mp found
      rw [isKindKey, isKey, eq_string_of_text? isKind, eq_string_of_text? isText, ofReference,
        if_neg (by simpa using isNoParameter), ofVariable]
    next => cases found
  next => cases found

end JsonValue

namespace Value

variable {parameters : List String}

theorem text?_literalJson (value : Value) : (value.literalJson parameters).text? = value.text? := by
  cases value with
  | «variable» name position =>
    unfold literalJson JsonValue.ofReference
    split <;> rfl
  | _ => rfl

theorem reference?_literalJson (fields : List (Named Value)) (position : Position) :
    ((object fields position).literalJson parameters).reference? parameters =
      (object fields position).disguise? parameters := by
  rw [literalJson, literalFieldsJson_eq_map]
  rcases fields with _ | ⟨field, _ | ⟨other, _ | ⟨third, fields⟩⟩⟩
  · rfl
  · simp [JsonValue.reference?, disguise?, text?_literalJson]
  · simp [JsonValue.reference?, disguise?, text?_literalJson]
  · rfl

variable {value : Value} {fields : List (Named Value)} {text : String}

/-- The variables of a value without disguises can be read from its JSON. -/
theorem references_literalJson (plain : ∀ part ∈ value.parts, part.disguise? parameters = none) :
    (value.literalJson parameters).references parameters = value.variableNames := by
  induction value using Value.induction with
  | ofVariable name position => exact JsonValue.references_ofReference parameters name
  | int | float | string | boolean | null | enum => rfl
  | list values position ih =>
    rw [parts, partsOfList_eq_flatMap, List.forall_mem_cons, List.forall_mem_flatMap] at plain
    rw [literalJson, literalsJson_eq_map, JsonValue.references,
      JsonValue.referencesOfItems_eq_flatMap, List.flatMap_map, variableNames,
      namesOfList_eq_flatMap]
    apply List.flatMap_congr
    intro value member
    exact ih value member (plain.2 value member)
  | object fields position ih =>
    rw [parts, partsOfFields_eq_flatMap, List.forall_mem_cons, List.forall_mem_flatMap] at plain
    obtain ⟨noDisguise, plain⟩ := plain
    rw [← reference?_literalJson] at noDisguise
    rw [literalJson] at noDisguise ⊢
    rw [JsonValue.references, noDisguise, literalFieldsJson_eq_map,
      JsonValue.referencesOfEntries_eq_flatMap, List.flatMap_map, variableNames,
      namesOfFields_eq_flatMap]
    apply List.flatMap_congr
    intro field member
    exact ih field member (plain field member)

/-- The variables of a clear argument can be read from its JSON. -/
theorem argumentReferences_argumentJson (clear : value.IsClear parameters) :
    (value.argumentJson parameters).argumentReferences parameters = value.variableNames := by
  induction value using Value.induction with
  | ofVariable name position =>
    have found := JsonValue.reference?_ofReference parameters name
    rw [argumentJson, variableNames]
    unfold JsonValue.ofReference JsonValue.ofSubstitution JsonValue.ofVariable at found ⊢
    split at found
    next isParameter =>
      rw [if_pos isParameter]
      simp [JsonValue.argumentReferences, found]
    next isParameter =>
      rw [if_neg isParameter]
      simp [JsonValue.argumentReferences, found]
  | int | float | string | boolean | null | enum => rfl
  | list values position ih =>
    rw [IsClear, embedded, embeddedInList_eq_flatMap, List.forall_mem_flatMap] at clear
    rw [argumentJson, argumentsJson_eq_map, JsonValue.argumentReferences,
      JsonValue.argumentReferencesOfItems_eq_flatMap, List.flatMap_map, variableNames,
      namesOfList_eq_flatMap]
    apply List.flatMap_congr
    intro value member
    exact ih value member (clear value member)
  | object fields position =>
    rw [IsClear, embedded, partsOfFields_eq_flatMap, List.forall_mem_flatMap] at clear
    rw [argumentJson, literalJson, JsonValue.argumentReferences, literalFieldsJson_eq_map,
      JsonValue.referencesOfEntries_eq_flatMap, List.flatMap_map, variableNames,
      namesOfFields_eq_flatMap]
    · apply List.flatMap_congr
      intro field member
      exact references_literalJson (clear field member)
    all_goals simp

/-! ## Taking disguises off -/

theorem text?_revealed (value : Value) : (value.revealed parameters).text? = value.text? := by
  cases value with
  | object fields position =>
    rw [revealed]
    split <;> rfl
  | _ => rfl

/-- Whether an object is a disguise does not depend on the objects inside it. -/
theorem disguise?_revealedFields (fields : List (Named Value)) (position : Position) :
    (object (revealedFields parameters fields) position).disguise? parameters =
      (object fields position).disguise? parameters := by
  rw [revealedFields_eq_map]
  match fields with
  | [] => rfl
  | [field] => simp [disguise?, text?_revealed]
  | [kind, field] => simp [disguise?, text?_revealed]
  | _ :: _ :: _ :: _ => rfl

theorem literalFieldsJson_revealedFields (same : ∀ field ∈ fields,
      (field.value.revealed parameters).literalJson parameters =
        field.value.literalJson parameters) :
    literalFieldsJson parameters (revealedFields parameters fields) =
      literalFieldsJson parameters fields := by
  rw [literalFieldsJson_eq_map, literalFieldsJson_eq_map, revealedFields_eq_map, List.map_map]
  apply List.map_congr_left
  intro field member
  simp [same field member]

/-- A disguise is written like the variable that it looks like. -/
theorem literalJson_revealed (value : Value) :
    (value.revealed parameters).literalJson parameters = value.literalJson parameters := by
  induction value using Value.induction with
  | ofVariable | int | float | string | boolean | null | enum => rfl
  | list values position ih =>
    rw [revealed, literalJson, literalJson, literalsJson_eq_map, literalsJson_eq_map,
      revealedAll_eq_map, List.map_map]
    congr 1
    exact List.map_congr_left ih
  | object fields position ih =>
    rw [revealed]
    split
    next name looks =>
      rw [← reference?_literalJson] at looks
      rw [JsonValue.eq_ofReference_of_reference? looks, literalJson]
    next => rw [literalJson, literalJson, literalFieldsJson_revealedFields ih]

theorem argumentJson_revealedArgument (value : Value) :
    (value.revealedArgument parameters).argumentJson parameters =
      value.argumentJson parameters := by
  induction value using Value.induction with
  | ofVariable | int | float | string | boolean | null | enum => rfl
  | list values position ih =>
    rw [revealedArgument, argumentJson, argumentJson, argumentsJson_eq_map,
      argumentsJson_eq_map, revealedArguments_eq_map, List.map_map]
    congr 1
    exact List.map_congr_left ih
  | object fields position =>
    have same : literalFieldsJson parameters (revealedFields parameters fields) =
        literalFieldsJson parameters fields :=
      literalFieldsJson_revealedFields fun field _ => literalJson_revealed field.value
    simp [revealedArgument, argumentJson, literalJson, same]

/-- A value without its disguises has none. -/
theorem disguise?_of_mem_parts_revealed (value : Value) :
    ∀ part ∈ (value.revealed parameters).parts, part.disguise? parameters = none := by
  induction value using Value.induction with
  | ofVariable | int | float | string | boolean | null | enum => simp [revealed, parts, disguise?]
  | list values position ih =>
    rw [revealed, parts, partsOfList_eq_flatMap, revealedAll_eq_map, List.flatMap_map,
      List.forall_mem_cons, List.forall_mem_flatMap]
    exact ⟨rfl, ih⟩
  | object fields position ih =>
    rw [revealed]
    split
    next name looks => simp [parts, disguise?]
    next plain =>
      rw [parts, partsOfFields_eq_flatMap, List.forall_mem_cons, disguise?_revealedFields, plain,
        revealedFields_eq_map, List.flatMap_map, List.forall_mem_flatMap]
      exact ⟨rfl, ih⟩

theorem isClear_revealedArgument (value : Value) :
    (value.revealedArgument parameters).IsClear parameters := by
  induction value using Value.induction with
  | ofVariable | int | float | string | boolean | null | enum =>
    simp [IsClear, revealedArgument, embedded]
  | list values position ih =>
    rw [IsClear, revealedArgument, embedded, embeddedInList_eq_flatMap, revealedArguments_eq_map,
      List.flatMap_map, List.forall_mem_flatMap]
    exact ih
  | object fields position =>
    rw [IsClear, revealedArgument, embedded, partsOfFields_eq_flatMap, revealedFields_eq_map,
      List.flatMap_map, List.forall_mem_flatMap]
    exact fun field _ => disguise?_of_mem_parts_revealed field.value

theorem writable_revealed (writable : value.Writable) : (value.revealed parameters).Writable := by
  induction value using Value.induction with
  | ofVariable | int | float | string | boolean | null | enum => exact writable
  | list values position ih =>
    rw [revealed, writable_list, revealedAll_eq_map, List.forall_mem_map]
    intro value member
    exact ih value member (writable_list.mp writable value member)
  | object fields position ih =>
    rw [revealed]
    split
    next => simp [Writable, parts, NumberFits]
    next =>
      rw [writable_object, revealedFields_eq_map, List.forall_mem_map]
      intro field member
      exact ih field member (writable_object.mp writable field member)

theorem writable_revealedArgument (writable : value.Writable) :
    (value.revealedArgument parameters).Writable := by
  induction value using Value.induction with
  | ofVariable | int | float | string | boolean | null | enum => exact writable
  | list values position ih =>
    rw [revealedArgument, writable_list, revealedArguments_eq_map, List.forall_mem_map]
    intro value member
    exact ih value member (writable_list.mp writable value member)
  | object fields position =>
    rw [revealedArgument, writable_object, revealedFields_eq_map, List.forall_mem_map]
    intro field member
    exact writable_revealed (writable_object.mp writable field member)

/-! ## Counting disguises -/

/-- Whether a value is a disguise. -/
def isDisguise (parameters : List String) (value : Value) : Bool :=
  (value.disguise? parameters).isSome

/-- Lengths and counts add up over the items of a list. -/
theorem length_flatMap_eq_add_countP {α β γ : Type} {items : List α} {after before : α → List β}
    {inside : α → List γ} {test : γ → Bool}
    (each : ∀ item ∈ items,
      (after item).length = (before item).length + (inside item).countP test) :
    (items.flatMap after).length =
      (items.flatMap before).length + (items.flatMap inside).countP test := by
  induction items with
  | nil => rfl
  | cons item items ih =>
    have ofItem := each item List.mem_cons_self
    have ofItems := ih (List.forall_mem_cons.mp each).2
    simp only [List.flatMap_cons, List.length_append, List.countP_append]
    omega

/-- A text has nothing inside. -/
theorem inside_of_text? (parameters : List String) (isText : value.text? = some text) :
    value.variableNames = [] ∧ value.parts.countP (isDisguise parameters) = 0 := by
  cases value with
  | string | enum => exact ⟨rfl, rfl⟩
  | _ => cases isText

/-- A disguise holds texts only. -/
theorem inside_of_disguise? {position : Position} {name : String}
    (looks : (object fields position).disguise? parameters = some name) :
    namesOfFields fields = [] ∧ (partsOfFields fields).countP (isDisguise parameters) = 0 := by
  match fields with
  | [] => cases looks
  | [field] =>
    rw [disguise?] at looks
    split at looks
    next =>
      obtain ⟨isText, _⟩ := Option.filter_eq_some_iff.mp looks
      simpa [namesOfFields, partsOfFields] using inside_of_text? parameters isText
    next => cases looks
  | [kind, field] =>
    rw [disguise?] at looks
    split at looks
    next areKeys =>
      obtain ⟨isText, _⟩ := Option.filter_eq_some_iff.mp looks
      obtain ⟨noNames, noDisguises⟩ := inside_of_text? parameters isText
      obtain ⟨noKindNames, noKindDisguises⟩ := inside_of_text? parameters areKeys.2.1
      simp [namesOfFields, partsOfFields, noNames, noDisguises, noKindNames, noKindDisguises]
    next => cases looks
  | _ :: _ :: _ :: _ => cases looks

/-- Every disguise that is taken off gives one variable. -/
theorem length_variableNames_revealed (value : Value) :
    (value.revealed parameters).variableNames.length =
      value.variableNames.length + value.parts.countP (isDisguise parameters) := by
  induction value using Value.induction with
  | ofVariable | int | float | string | boolean | null | enum => rfl
  | list values position ih =>
    have notDisguise : ¬ isDisguise parameters (.list values position) = true := by
      simp [isDisguise, disguise?]
    rw [revealed, variableNames, variableNames, namesOfList_eq_flatMap, namesOfList_eq_flatMap,
      revealedAll_eq_map, List.flatMap_map, parts, partsOfList_eq_flatMap,
      List.countP_cons_of_neg notDisguise]
    exact length_flatMap_eq_add_countP ih
  | object fields position ih =>
    rw [revealed]
    split
    next name looks =>
      have isDisguised : isDisguise parameters (.object fields position) = true := by
        rw [isDisguise, looks, Option.isSome_some]
      obtain ⟨noNames, noDisguises⟩ := inside_of_disguise? looks
      rw [variableNames, variableNames, noNames, parts, List.countP_cons_of_pos isDisguised,
        noDisguises]
      rfl
    next plain =>
      have notDisguise : ¬ isDisguise parameters (.object fields position) = true := by
        simp [isDisguise, plain]
      rw [variableNames, variableNames, namesOfFields_eq_flatMap, namesOfFields_eq_flatMap,
        revealedFields_eq_map, List.flatMap_map, parts, partsOfFields_eq_flatMap,
        List.countP_cons_of_neg notDisguise]
      exact length_flatMap_eq_add_countP ih

theorem length_variableNames_revealedArgument (value : Value) :
    (value.revealedArgument parameters).variableNames.length =
      value.variableNames.length + value.embedded.countP (isDisguise parameters) := by
  induction value using Value.induction with
  | ofVariable | int | float | string | boolean | null | enum => rfl
  | list values position ih =>
    rw [revealedArgument, variableNames, variableNames, namesOfList_eq_flatMap,
      namesOfList_eq_flatMap, revealedArguments_eq_map, List.flatMap_map, embedded,
      embeddedInList_eq_flatMap]
    exact length_flatMap_eq_add_countP ih
  | object fields position =>
    rw [revealedArgument, variableNames, variableNames, namesOfFields_eq_flatMap,
      namesOfFields_eq_flatMap, revealedFields_eq_map, List.flatMap_map, embedded,
      partsOfFields_eq_flatMap]
    apply length_flatMap_eq_add_countP
    intro field _
    exact length_variableNames_revealed field.value

/-! ## Arguments with the same text -/

theorem serializes_revealedArgument (serializes : value.Serializes parameters text) :
    (value.revealedArgument parameters).Serializes parameters text := by
  rw [serializes_iff, argumentJson_revealedArgument]
  obtain ⟨writable, shallow, isText⟩ := serializes_iff.mp serializes
  exact ⟨writable_revealedArgument writable, shallow, isText⟩

theorem argumentJson_eq_of_serializes {other : Value}
    (serializes : value.Serializes parameters text)
    (otherSerializes : other.Serializes parameters text) :
    other.argumentJson parameters = value.argumentJson parameters := by
  obtain ⟨writable, _, isText⟩ := serializes_iff.mp serializes
  obtain ⟨otherWritable, _, isOtherText⟩ := serializes_iff.mp otherSerializes
  apply JsonValue.compact_inj (wellFormed_argumentJson otherWritable)
    (wellFormed_argumentJson writable)
  rw [← isText, isOtherText]

/-- The text of an argument tells which variables it has exactly if the argument is clear:
then all clear arguments with that text have the same variables in the same order, and
otherwise one of them has others. -/
theorem isClear_iff_variableNames_eq {value : Value} {text : String}
    (serializes : value.Serializes parameters text) :
    value.IsClear parameters ↔ ∀ other : Value, other.IsClear parameters →
      other.Serializes parameters text → other.variableNames = value.variableNames := by
  constructor
  · intro clear other otherClear otherSerializes
    rw [← argumentReferences_argumentJson clear, ← argumentReferences_argumentJson otherClear,
      argumentJson_eq_of_serializes serializes otherSerializes]
  · intro same part inside
    have sameNames := same _ (isClear_revealedArgument value)
      (serializes_revealedArgument serializes)
    have none : value.embedded.countP (isDisguise parameters) = 0 := by
      have counted := congrArg List.length sameNames
      rw [length_variableNames_revealedArgument] at counted
      omega
    rw [List.countP_eq_zero] at none
    simpa [isDisguise] using none part inside

end Value

namespace Sample

/-- An object with one field. -/
def nested (value : Value) : Value :=
  .object [⟨"a", value, .unknown⟩] .unknown

/-- A variable inside an object. -/
def nestedVariable : Value := nested (.variable "x" .unknown)

/-- A disguise inside an object. -/
def nestedDisguise : Value :=
  nested (.object [⟨"kind", .string "CallVariable" false .unknown, .unknown⟩,
    ⟨"callVariableName", .string "x" false .unknown, .unknown⟩] .unknown)

/-- The text of both. -/
def referenceText : String :=
  "\x7b\"kind\":\"CallValue\",\"callValue\":\x7b\"a\":" ++
    "\x7b\"kind\":\"CallVariable\",\"callVariableName\":\"x\"\x7d\x7d\x7d"

end Sample

namespace Value

/-- Whatever is clear and has the text of a variable inside an object has that variable. -/
theorem nestedVariable_isClear :
    Sample.nestedVariable.Serializes [] Sample.referenceText ∧
      (Sample.nestedVariable.IsClear [] ↔ ∀ other : Value, other.IsClear [] →
        other.Serializes [] Sample.referenceText →
          other.variableNames = Sample.nestedVariable.variableNames) := by
  have serializes : Sample.nestedVariable.Serializes [] Sample.referenceText :=
    ⟨_, _, rfl, rfl, by decide +kernel⟩
  exact ⟨serializes, isClear_iff_variableNames_eq serializes⟩

/-- A constant without variables and an object with a variable have the same text. -/
theorem nestedDisguise_serializes :
    Sample.nestedDisguise.Serializes [] Sample.referenceText ∧
      Sample.nestedVariable.Serializes [] Sample.referenceText ∧
        Sample.nestedDisguise.variableNames = [] ∧
          Sample.nestedVariable.variableNames = ["x"] := by
  refine ⟨⟨_, _, rfl, rfl, ?_⟩, ⟨_, _, rfl, rfl, ?_⟩, rfl, rfl⟩
  · decide +kernel
  · decide +kernel

end Value

end QueryTree
