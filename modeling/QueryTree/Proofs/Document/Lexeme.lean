import QueryTree.Proofs.Document.Canonical
import QueryTree.Proofs.Document.WellFormed
import QueryTree.Proofs.Language.Lexeme

/-!
# The lexemes of canonical text

The canonical text of a well formed definition consists of the lexemes that its
grammar asks for.  Its strings are the string values of the definition, so that
the text breaks off exactly if one of them needs a foreign escape.
-/

namespace QueryTree

open QueryTree.Lexer

/-! ## Lexemes -/

namespace Value

mutual

/-- The lexemes of a value. -/
def lexemes : Value → List Lexeme
  | .variable name _ => [.mark .dollar, .word name]
  | .int raw _ => [⟨.int, raw⟩]
  | .float raw _ => [⟨.float, raw⟩]
  | .string text _ _ => [⟨.string, text⟩]
  | .boolean value _ => [.word (if value then "true" else "false")]
  | .null _ => [.word "null"]
  | .enum name _ => [.word name]
  | .list values _ => Lexeme.enclosed .bracketLeft .bracketRight (lexemesOfList values)
  | .object fields _ => Lexeme.enclosed .braceLeft .braceRight (lexemesOfFields fields)

/-- The lexemes of the values of a list. -/
def lexemesOfList : List Value → List Lexeme
  | [] => []
  | value :: values => lexemes value ++ lexemesOfList values

/-- The lexemes of the fields of an object. -/
def lexemesOfFields : List (Named Value) → List Lexeme
  | [] => []
  | ⟨name, value, _⟩ :: fields =>
    .word name :: .mark .colon :: (lexemes value ++ lexemesOfFields fields)

end

end Value

/-- The lexemes of an argument or of a field of an object. -/
def Argument.lexemes (argument : Argument) : List Lexeme :=
  .word argument.name :: .mark .colon :: argument.value.lexemes

namespace Value

theorem lexemesOfList_eq_flatMap (values : List Value) :
    lexemesOfList values = values.flatMap lexemes :=
  eq_flatMap_of_cons rfl fun _ _ => rfl

theorem lexemesOfFields_eq_flatMap (fields : List (Named Value)) :
    lexemesOfFields fields = fields.flatMap Argument.lexemes :=
  eq_flatMap_of_cons rfl fun _ _ => rfl

end Value

/-- The lexemes of arguments with their brackets. -/
def Argument.lexemesAll (arguments : List Argument) : List Lexeme :=
  Lexeme.group .parenLeft .parenRight lexemes arguments

/-- The lexemes of a directive. -/
def Directive.lexemes (directive : Directive) : List Lexeme :=
  .mark .atSign :: .word directive.name :: Argument.lexemesAll directive.arguments

namespace TypeRef

/-- The lexemes of the mark of a type that excludes null. -/
def bang (nonNull : Bool) : List Lexeme := if nonNull then [.mark .bang] else []

/-- The lexemes of a type. -/
def lexemes : TypeRef → List Lexeme
  | .named name nonNull _ => .word name :: bang nonNull
  | .list element nonNull _ =>
    Lexeme.enclosed .bracketLeft .bracketRight element.lexemes ++ bang nonNull

end TypeRef

namespace Selection

/-- The lexemes of an alias with its colon. -/
def aliasLexemes : Option String → List Lexeme
  | some other => [.word other, .mark .colon]
  | none => []

/-- The lexemes of a type condition. -/
def conditionLexemes : Option String → List Lexeme
  | some condition => [.word "on", .word condition]
  | none => []

mutual

/-- The lexemes of a selection. -/
def lexemes : Selection → List Lexeme
  | .field head selections =>
    aliasLexemes head.alias? ++ .word head.name :: (Argument.lexemesAll head.arguments ++
      (head.directives.flatMap Directive.lexemes ++
        if selections.isEmpty then []
        else Lexeme.enclosed .braceLeft .braceRight (lexemesAll selections)))
  | .spread head => .mark .spread :: .word head.name :: head.directives.flatMap Directive.lexemes
  | .inline head selections =>
    .mark .spread :: (conditionLexemes head.condition ++
      (head.directives.flatMap Directive.lexemes ++
        Lexeme.enclosed .braceLeft .braceRight (lexemesAll selections)))

/-- The lexemes of several selections. -/
def lexemesAll : List Selection → List Lexeme
  | [] => []
  | selection :: selections => lexemes selection ++ lexemesAll selections

end

theorem lexemesAll_eq_flatMap (selections : List Selection) :
    lexemesAll selections = selections.flatMap lexemes :=
  eq_flatMap_of_cons rfl fun _ _ => rfl

end Selection

namespace VariableDefinition

/-- The lexemes of a default value. -/
def defaultLexemes : Option Value → List Lexeme
  | some value => .mark .equals :: value.lexemes
  | none => []

/-- The lexemes of the declaration of a variable. -/
def lexemes (declared : VariableDefinition) : List Lexeme :=
  .mark .dollar :: .word declared.name :: .mark .colon ::
    (declared.type.lexemes ++ defaultLexemes declared.default)

end VariableDefinition

namespace Definition

/-- The lexemes of a definition between its keyword and its body. -/
def headLexemes (definition : Definition) : List Lexeme :=
  (if definition.name = "" then [] else [.word definition.name]) ++
    if definition.kind = .fragment then [.word "on", .word definition.condition] else []

/-- The lexemes of a definition after its head. -/
def bodyLexemes (definition : Definition) : List Lexeme :=
  Lexeme.group .parenLeft .parenRight VariableDefinition.lexemes definition.variableDefinitions ++
    (definition.directives.flatMap Directive.lexemes ++
      Lexeme.enclosed .braceLeft .braceRight (definition.selections.flatMap Selection.lexemes))

/-- The lexemes of a definition. -/
def lexemes (definition : Definition) : List Lexeme :=
  .word definition.kind.text :: (definition.headLexemes ++ definition.bodyLexemes)

end Definition

/-! ## Canonical text has these lexemes -/

theorem lexes_separated {α : Type} {text : α → List Char} {lexemes : α → List Lexeme}
    (items : List α) (each : ∀ item ∈ items, Lexes isJoining (text item) (lexemes item)) :
    Lexes isJoining ([',', ' '].intercalate (items.map text)) (items.flatMap lexemes) :=
  .intercalate (.blank_cons (by decide) (.blank (by decide))) (by simp)
    (Text.ends_cons _ (by decide)) items each

namespace Value

theorem lexes_field {field : Named Value} (named : IsName field.name)
    (lexes : Lexes isJoining field.value.canonical.toList field.value.lexemes) :
    Lexes isJoining (fieldCharacters field) (Argument.lexemes field) :=
  (Lexes.word named).trail (.mark (by decide) (.blank_cons (by decide) lexes))

/-- The canonical text of a value has its lexemes. -/
theorem lexes_canonical {value : Value} (formed : value.WellFormed) :
    Lexes isJoining value.canonical.toList value.lexemes := by
  induction value using Value.induction with
  | ofVariable name position =>
    rw [canonical, lexemes, String.toList_append]
    exact .mark_cons (by decide) (.word formed)
  | int raw position => exact .spelling (@Spelling.number raw false formed)
  | float raw position => exact .spelling (@Spelling.number raw true formed)
  | string text block position => exact .spelling (.string text)
  | boolean value position =>
    rw [canonical, lexemes]
    cases value <;> exact .word (by decide)
  | null position =>
    rw [canonical, lexemes]
    exact .word (by decide)
  | enum name position => exact .word formed.1
  | list values position ih =>
    have each := allWellFormed_iff.mp formed
    have written : (canonical (.list values position)).toList =
        '[' :: ((canonicalList values).toList ++ [']']) := by simp [canonical]
    rw [written, canonicalList_toList, lexemes, lexemesOfList_eq_flatMap]
    exact (Lexes.enclosed (by decide) (by decide)
      (lexes_separated values fun value member => ih value member (each value member))).weaken
        fun _ _ => rfl
  | object fields position ih =>
    have each := fieldsWellFormed_iff.mp formed
    have written : (canonical (.object fields position)).toList =
        '\x7b' :: ((canonicalFields fields).toList ++ ['\x7d']) := by simp [canonical]
    rw [written, canonicalFields_toList, lexemes, lexemesOfFields_eq_flatMap]
    exact (Lexes.enclosed (by decide) (by decide) (lexes_separated fields fun field member =>
      lexes_field (each field member).1 (ih field member (each field member).2))).weaken
        fun _ _ => rfl

end Value

theorem Argument.trails_canonicalAll {arguments : List Argument}
    (formed : Value.FieldsWellFormed arguments) :
    Trails isJoining (canonicalAll arguments).toList (lexemesAll arguments) := by
  cases arguments with
  | nil => exact .nil
  | cons argument arguments =>
    have each := Value.fieldsWellFormed_iff.mp formed
    have lexes := lexes_separated (argument :: arguments) fun field member =>
      Value.lexes_field (each field member).1 (Value.lexes_canonical (each field member).2)
    rw [canonicalAll_cons]
    exact ⟨(Lexes.enclosed (by decide) (by decide) lexes).weaken fun _ _ => rfl,
      fun _ _ => Text.ends_cons _ (by decide)⟩

theorem Directive.trails_canonicalAll {directives : List Directive}
    (formed : ∀ directive ∈ directives, directive.WellFormed) :
    Trails isJoining (canonicalAll directives).toList (directives.flatMap Directive.lexemes) := by
  induction directives with
  | nil => exact .nil
  | cons directive directives ih =>
    obtain ⟨named, arguments⟩ := formed directive List.mem_cons_self
    have others := ih (List.forall_mem_cons.mp formed).2
    rw [canonicalAll_cons, List.flatMap_cons, lexemes, List.cons_append, List.cons_append]
    exact .blank (.mark_cons (by decide) ((Lexes.word named).trail
      ((Argument.trails_canonicalAll arguments).append others)))

namespace TypeRef

theorem trails_mark (nonNull : Bool) : Trails isJoining (mark nonNull) (bang nonNull) := by
  cases nonNull with
  | true => exact .mark (by decide) .nil
  | false => exact .nil

theorem lexes_text {type : TypeRef} (formed : type.WellFormed) :
    Lexes isJoining type.text.toList type.lexemes := by
  induction type with
  | named name nonNull position =>
    rw [text_named]
    exact (Lexes.word formed).trail (trails_mark nonNull)
  | list element nonNull position ih =>
    have written : '[' :: (element.text.toList ++ ']' :: mark nonNull) =
        '[' :: (element.text.toList ++ [']']) ++ mark nonNull := by simp
    rw [text_list, written]
    exact (Lexes.enclosed (by decide) (by decide) (ih formed)).cons (trails_mark nonNull).toLexes

end TypeRef

namespace Selection

theorem trails_block {test : Char → Bool} {selections : List Selection}
    (each : ∀ selection ∈ selections,
      Lexes isJoining selection.canonical.toList selection.lexemes) :
    Trails test (blockCharacters selections)
      (Lexeme.enclosed .braceLeft .braceRight (lexemesAll selections)) := by
  have lexes := Lexes.intercalate (.blank (by decide)) (by simp)
    (Text.ends_cons [] (by decide : isJoining ' ' = false)) selections each
  rw [← lexemesAll_eq_flatMap] at lexes
  exact .blank ((Lexes.enclosed (by decide) (by decide) lexes).weaken fun _ _ => rfl)

theorem trails_condition {condition : Option String}
    (named : ∀ found, condition = some found → IsName found) :
    Trails isJoining (conditionCharacters condition) (conditionLexemes condition) := by
  cases condition with
  | none => exact .nil
  | some condition =>
    have isOn : IsName "on" := by decide
    exact .blank ((Lexes.word isOn).trail (.blank (.word (named condition rfl))))

/-- The canonical text of a selection has its lexemes. -/
theorem lexes_canonical {selection : Selection} (formed : selection.WellFormed) :
    Lexes isJoining selection.canonical.toList selection.lexemes := by
  induction selection using Selection.induction with
  | field head selections ih =>
    obtain ⟨aliasNamed, named, arguments, directives, below⟩ := formed
    have each := fun selection member =>
      ih selection member (allWellFormed_iff.mp below selection member)
    have optional : Trails isJoining (if selections.isEmpty then [] else blockCharacters selections)
        (if selections.isEmpty then []
          else Lexeme.enclosed .braceLeft .braceRight (lexemesAll selections)) := by
      split
      · exact .nil
      · exact trails_block each
    have key := (Lexes.word named).trail ((Argument.trails_canonicalAll arguments).append
      ((Directive.trails_canonicalAll directives).append optional))
    rw [canonical_field, lexemes]
    cases isAlias : head.alias? with
    | none => exact key
    | some other =>
      have colon : Lexes anything [':', ' '] [.mark .colon] :=
        .mark_cons (by decide) (.blank (by decide))
      exact ((Lexes.word (aliasNamed other isAlias)).chain colon
        fun rest _ => Text.ends_cons _ (by decide)).cons key
  | spread head =>
    rw [canonical_spread, lexemes]
    exact (Lexes.spelling .spread).cons
      ((Lexes.word formed.1).trail (Directive.trails_canonicalAll formed.2))
  | inline head selections ih =>
    obtain ⟨named, directives, below⟩ := formed
    have each := fun selection member =>
      ih selection member (allWellFormed_iff.mp below selection member)
    rw [canonical_inline, lexemes]
    exact (Lexes.spelling .spread).cons ((trails_condition named).append
      ((Directive.trails_canonicalAll directives).append (trails_block each))).toLexes

end Selection

theorem VariableDefinition.lexes_canonical {declared : VariableDefinition}
    (formed : declared.WellFormed) :
    Lexes isJoining declared.canonical.toList declared.lexemes := by
  have default : Trails isJoining (defaultCharacters declared.default)
      (defaultLexemes declared.default) := by
    cases found : declared.default with
    | none => exact .nil
    | some value => exact .blank (.mark_cons (by decide)
        (.blank_cons (by decide) (Value.lexes_canonical (formed.default value found))))
  rw [canonical_toList]
  exact .mark_cons (by decide) ((Lexes.word formed.name).trail
    (.mark (by decide) (.blank_cons (by decide) ((TypeRef.lexes_text formed.type).trail default))))

namespace Definition

variable {definition : Definition}

theorem trails_body (formed : definition.WellFormed) :
    Trails anything definition.bodyCharacters definition.bodyLexemes := by
  have declarations : Trails isJoining (declarationCharacters definition.variableDefinitions)
      (Lexeme.group .parenLeft .parenRight VariableDefinition.lexemes
        definition.variableDefinitions) := by
    unfold declarationCharacters Lexeme.group
    split
    · exact .nil
    · have lexes := lexes_separated definition.variableDefinitions fun declared member =>
        VariableDefinition.lexes_canonical (formed.declarations declared member)
      exact ⟨(Lexes.enclosed (by decide) (by decide) lexes).weaken fun _ _ => rfl,
        fun _ _ => Text.ends_cons _ (by decide)⟩
  have block : Trails anything (Selection.blockCharacters definition.selections) _ :=
    Selection.trails_block fun selection member => Selection.lexes_canonical
      (Selection.allWellFormed_iff.mp formed.selections selection member)
  rw [Selection.lexemesAll_eq_flatMap] at block
  exact declarations.append ((Directive.trails_canonicalAll formed.directives).append block)

theorem trails_head (formed : definition.HeadWellFormed) :
    Trails isJoining definition.headCharacters definition.headLexemes := by
  have name (named : definition.name = "" ∨ IsName definition.name) :
      Trails isJoining (if definition.name = "" then [] else ' ' :: definition.name.toList)
        (if definition.name = "" then [] else [.word definition.name]) := by
    split
    · exact .nil
    next some => exact .blank (.word (named.resolve_left some))
  unfold HeadWellFormed at formed
  unfold headCharacters headLexemes
  cases kind : definition.kind with
  | other code =>
    rw [kind] at formed
    exact formed.elim
  | fragment =>
    rw [kind] at formed
    have isOn : IsName "on" := by decide
    exact (name (.inr formed.1)).append
      (.blank ((Lexes.word isOn).trail (.blank (.word formed.2.1))))
  | query | mutation | subscription =>
    rw [kind] at formed
    exact (name formed.1).append .nil

/-- The canonical text of a definition has its lexemes. -/
theorem lexes_canonical (formed : definition.WellFormed) :
    Lexes anything definition.canonical.toList definition.lexemes := by
  have keyword : IsName definition.kind.text := by
    have head := formed.head
    unfold HeadWellFormed at head
    cases kind : definition.kind with
    | other code =>
      rw [kind] at head
      exact head.elim
    | query | mutation | subscription | fragment => decide
  rw [canonical_toList]
  exact (Lexes.word keyword).trail ((trails_head formed.head).append (trails_body formed))

end Definition

end QueryTree
