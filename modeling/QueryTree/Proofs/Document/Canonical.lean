import QueryTree.Document.Canonical
import QueryTree.Proofs.Document.Definition
import QueryTree.Proofs.Text.Separated

/-!
# The characters of canonical text

Canonical text as a list of characters, part by part: what stands between brackets, with a
separator between its items, and what is left out.
-/

namespace QueryTree

/-! ## Values -/

namespace Value

theorem canonicalList_toList (values : List Value) :
    (canonicalList values).toList =
      [',', ' '].intercalate (values.map fun value => value.canonical.toList) :=
  Text.toList_eq_intercalate canonicalList canonical ", " rfl (fun _ => rfl) (fun _ _ _ => rfl)
    values

/-- The canonical text of a field of an object or of an argument. -/
def fieldCharacters (field : Named Value) : List Char :=
  field.name.toList ++ ':' :: ' ' :: field.value.canonical.toList

theorem canonicalFields_toList (fields : List (Named Value)) :
    (canonicalFields fields).toList = [',', ' '].intercalate (fields.map fieldCharacters) := by
  have isText : fieldCharacters =
      fun field => (field.name ++ ": " ++ field.value.canonical).toList := by
    funext field
    simp [fieldCharacters]
  rw [isText]
  exact Text.toList_eq_intercalate canonicalFields _ ", " rfl (fun _ => rfl) (fun _ _ _ => rfl)
    fields

end Value

theorem Argument.canonicalAll_cons (argument : Argument) (arguments : List Argument) :
    (canonicalAll (argument :: arguments)).toList =
      '(' :: ([',', ' '].intercalate ((argument :: arguments).map Value.fieldCharacters) ++
        [')']) := by
  rw [← Value.canonicalFields_toList]
  simp [canonicalAll]

theorem Directive.canonicalAll_cons (directive : Directive) (directives : List Directive) :
    (canonicalAll (directive :: directives)).toList =
      ' ' :: '@' :: (directive.name.toList ++ ((Argument.canonicalAll directive.arguments).toList ++
        (canonicalAll directives).toList)) := by
  simp [canonicalAll]

/-! ## Selections -/

namespace Selection

theorem canonicalAll_toList (selections : List Selection) :
    (canonicalAll selections).toList =
      [' '].intercalate (selections.map fun selection => selection.canonical.toList) :=
  Text.toList_eq_intercalate canonicalAll canonical " " rfl (fun _ => rfl) (fun _ _ _ => rfl)
    selections

/-- The selections below a selection, in braces. -/
def blockCharacters (selections : List Selection) : List Char :=
  ' ' :: '\x7b' :: ([' '].intercalate (selections.map fun selection =>
    selection.canonical.toList) ++ ['\x7d'])

/-- The characters of an alias with its colon. -/
def aliasCharacters : Option String → List Char
  | some other => other.toList ++ [':', ' ']
  | none => []

/-- The characters of the type condition of an inline fragment. -/
def conditionCharacters : Option String → List Char
  | some condition => ' ' :: 'o' :: 'n' :: ' ' :: condition.toList
  | none => []

theorem canonical_field (head : Field) (selections : List Selection) :
    (canonical (.field head selections)).toList =
      aliasCharacters head.alias? ++ (head.name.toList ++
        ((Argument.canonicalAll head.arguments).toList ++
          ((Directive.canonicalAll head.directives).toList ++
            if selections.isEmpty then [] else blockCharacters selections))) := by
  rw [canonical]
  cases head.alias? <;> cases selections <;>
    simp [aliasCharacters, blockCharacters, canonicalAll_toList]

theorem canonical_spread (head : Spread) :
    (canonical (.spread head)).toList = '.' :: '.' :: '.' ::
      (head.name.toList ++ (Directive.canonicalAll head.directives).toList) := by
  simp [canonical]

theorem canonical_inline (head : InlineFragment) (selections : List Selection) :
    (canonical (.inline head selections)).toList =
      '.' :: '.' :: '.' :: (conditionCharacters head.condition ++
        ((Directive.canonicalAll head.directives).toList ++ blockCharacters selections)) := by
  rw [canonical]
  cases head.condition <;> simp [conditionCharacters, blockCharacters, canonicalAll_toList]

end Selection

/-! ## Types and variables -/

namespace TypeRef

/-- The mark of a type that excludes null. -/
def mark (nonNull : Bool) : List Char := if nonNull then ['!'] else []

theorem text_named (name : String) (nonNull : Bool) (position : Position) :
    (TypeRef.named name nonNull position).text.toList = name.toList ++ mark nonNull := by
  cases nonNull <;> simp [text, mark]

theorem text_list (element : TypeRef) (nonNull : Bool) (position : Position) :
    (TypeRef.list element nonNull position).text.toList =
      '[' :: (element.text.toList ++ ']' :: mark nonNull) := by
  cases nonNull <;> simp [text, mark]

end TypeRef

namespace VariableDefinition

/-- The characters of a default value. -/
def defaultCharacters : Option Value → List Char
  | some value => ' ' :: '=' :: ' ' :: value.canonical.toList
  | none => []

theorem canonical_toList (declared : VariableDefinition) :
    declared.canonical.toList = '$' :: (declared.name.toList ++ ':' :: ' ' ::
      (declared.type.text.toList ++ defaultCharacters declared.default)) := by
  rw [canonical]
  cases declared.default <;> simp [defaultCharacters]

theorem canonicalAll_toList (declarations : List VariableDefinition) :
    (canonicalAll declarations).toList =
      [',', ' '].intercalate (declarations.map fun declared => declared.canonical.toList) :=
  Text.toList_eq_intercalate canonicalAll canonical ", " rfl (fun _ => rfl) (fun _ _ _ => rfl)
    declarations

end VariableDefinition

/-! ## Definitions -/

namespace Definition

/-- The characters of declared variables, in brackets. -/
def declarationCharacters (declarations : List VariableDefinition) : List Char :=
  if declarations.isEmpty then []
  else '(' :: ([',', ' '].intercalate (declarations.map fun declared =>
    declared.canonical.toList) ++ [')'])

/-- The characters of a definition after its head. -/
def bodyCharacters (definition : Definition) : List Char :=
  declarationCharacters definition.variableDefinitions ++
    ((Directive.canonicalAll definition.directives).toList ++
      Selection.blockCharacters definition.selections)

/-- The characters of a definition between its keyword and its body. -/
def headCharacters (definition : Definition) : List Char :=
  (if definition.name = "" then [] else ' ' :: definition.name.toList) ++
    if definition.kind = .fragment then ' ' :: 'o' :: 'n' :: ' ' :: definition.condition.toList
    else []

theorem canonical_toList (definition : Definition) :
    definition.canonical.toList = definition.kind.text.toList ++
      (definition.headCharacters ++ definition.bodyCharacters) := by
  have declared : (if definition.variableDefinitions.isEmpty then ""
      else "(" ++ VariableDefinition.canonicalAll definition.variableDefinitions ++ ")").toList =
        declarationCharacters definition.variableDefinitions := by
    unfold declarationCharacters
    split
    · rfl
    · simp [VariableDefinition.canonicalAll_toList]
  have named : (if definition.name = "" then "" else " " ++ definition.name).toList =
      if definition.name = "" then [] else ' ' :: definition.name.toList := by
    split
    · rfl
    · simp
  have conditioned : (if definition.kind = .fragment then " on " ++ definition.condition
      else "").toList = if definition.kind = .fragment
        then ' ' :: 'o' :: 'n' :: ' ' :: definition.condition.toList else [] := by
    split
    · simp
    · rfl
  simp only [canonical, String.toList_append, declared, named, conditioned, headCharacters,
    bodyCharacters, Selection.blockCharacters, Selection.canonicalAll_toList, List.append_assoc,
    String.reduceToList, List.cons_append, List.nil_append]

end Definition

end QueryTree
