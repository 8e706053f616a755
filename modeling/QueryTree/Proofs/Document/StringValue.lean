import Mathlib.Data.List.Basic
import QueryTree.Proofs.Document.Lexeme

/-!
# String values

The texts of all strings in a definition, at any depth of its arguments,
directives, default values and selections.  They are the strings among the lexemes
of its canonical text, in the same order.
-/

namespace QueryTree

namespace Value

mutual

/-- The texts of the strings in a value. -/
def strings : Value → List String
  | .string text _ _ => [text]
  | .list values _ => stringsOfList values
  | .object fields _ => stringsOfFields fields
  | _ => []

/-- The texts of the strings in the values of a list. -/
def stringsOfList : List Value → List String
  | [] => []
  | value :: values => strings value ++ stringsOfList values

/-- The texts of the strings in the fields of an object. -/
def stringsOfFields : List (Named Value) → List String
  | [] => []
  | ⟨_, value, _⟩ :: fields => strings value ++ stringsOfFields fields

end

theorem stringsOfList_eq_flatMap (values : List Value) :
    stringsOfList values = values.flatMap strings :=
  eq_flatMap_of_cons rfl fun _ _ => rfl

theorem stringsOfFields_eq_flatMap (fields : List (Named Value)) :
    stringsOfFields fields = fields.flatMap fun field => field.value.strings :=
  eq_flatMap_of_cons rfl fun _ _ => rfl

end Value

/-- The texts of the strings in arguments. -/
def Argument.strings (arguments : List Argument) : List String :=
  arguments.flatMap fun argument => argument.value.strings

/-- The texts of the strings in directives. -/
def Directive.strings (directives : List Directive) : List String :=
  directives.flatMap fun directive => Argument.strings directive.arguments

namespace Selection

mutual

/-- The texts of the strings in a selection. -/
def strings : Selection → List String
  | .field head selections =>
    Argument.strings head.arguments ++ (Directive.strings head.directives ++
      stringsOfAll selections)
  | .spread head => Directive.strings head.directives
  | .inline head selections => Directive.strings head.directives ++ stringsOfAll selections

/-- The texts of the strings in several selections. -/
def stringsOfAll : List Selection → List String
  | [] => []
  | selection :: selections => strings selection ++ stringsOfAll selections

end

theorem stringsOfAll_eq_flatMap (selections : List Selection) :
    stringsOfAll selections = selections.flatMap strings :=
  eq_flatMap_of_cons rfl fun _ _ => rfl

end Selection

/-- The texts of the strings in the default value of a variable. -/
def VariableDefinition.strings (declared : VariableDefinition) : List String :=
  declared.default.elim [] Value.strings

/-- The texts of the strings in a definition. -/
def Definition.strings (definition : Definition) : List String :=
  definition.variableDefinitions.flatMap VariableDefinition.strings ++
    (Directive.strings definition.directives ++ definition.selections.flatMap Selection.strings)

/-- Whether some string of a definition is written with an escape that is foreign to
the query language. -/
def Definition.isForeign (definition : Definition) : Bool :=
  definition.strings.any fun text => text.toList.any Text.isForeign

/-! ## Strings among lexemes -/

namespace Lexeme

/-- The text of a lexeme if it is a string. -/
def string? (lexeme : Lexeme) : Option String :=
  if lexeme.kind = .string then some lexeme.text else none

/-- The strings among lexemes. -/
def strings (lexemes : List Lexeme) : List String := lexemes.filterMap string?

theorem any_strings (lexemes : List Lexeme) :
    ((strings lexemes).any fun text => text.toList.any Text.isForeign) =
      lexemes.any isForeign := by
  rw [strings, List.any_filterMap]
  congr 1
  funext lexeme
  unfold isForeign string?
  by_cases isString : lexeme.kind = .string <;> simp [isString]

@[simp] theorem strings_nil : strings [] = [] := rfl

@[simp] theorem strings_word (name : String) (lexemes : List Lexeme) :
    strings (.word name :: lexemes) = strings lexemes := rfl

@[simp] theorem strings_mark {kind : TokenKind} (other : kind ≠ .string) (lexemes : List Lexeme) :
    strings (.mark kind :: lexemes) = strings lexemes := by
  have none : string? (.mark kind) = none := if_neg other
  rw [strings, List.filterMap_cons_none none, strings]

@[simp] theorem strings_append (lefts rights : List Lexeme) :
    strings (lefts ++ rights) = strings lefts ++ strings rights :=
  List.filterMap_append

variable {α : Type} {close opening : TokenKind}

@[simp] theorem strings_flatMap (items : List α) (lexemes : α → List Lexeme) :
    strings (items.flatMap lexemes) = items.flatMap fun item => strings (lexemes item) := by
  induction items with
  | nil => rfl
  | cons item items ih => rw [List.flatMap_cons, strings_append, ih, List.flatMap_cons]

@[simp] theorem strings_enclosed (opens : opening ≠ .string) (closes : close ≠ .string)
    (content : List Lexeme) : strings (enclosed opening close content) = strings content := by
  rw [enclosed, strings_mark opens, strings_append, strings_mark closes, strings_nil,
    List.append_nil]

@[simp] theorem strings_group (opens : opening ≠ .string) (closes : close ≠ .string)
    (lexemes : α → List Lexeme) (items : List α) :
    strings (group opening close lexemes items) =
      items.flatMap fun item => strings (lexemes item) := by
  unfold group
  split
  next empty => simp [List.isEmpty_iff.mp empty]
  next => rw [strings_enclosed opens closes, strings_flatMap]

end Lexeme

open Lexeme

namespace Value

theorem strings_lexemes (value : Value) : Lexeme.strings value.lexemes = value.strings := by
  induction value using Value.induction with
  | list values position ih =>
    simp only [lexemes, strings, lexemesOfList_eq_flatMap, stringsOfList_eq_flatMap, ne_eq,
      reduceCtorEq, not_false_eq_true, strings_enclosed, strings_flatMap]
    exact List.flatMap_congr ih
  | object fields position ih =>
    simp only [lexemes, strings, lexemesOfFields_eq_flatMap, stringsOfFields_eq_flatMap, ne_eq,
      reduceCtorEq, not_false_eq_true, strings_enclosed, strings_flatMap]
    exact List.flatMap_congr ih
  | ofVariable | int | float | string | boolean | null | enum => rfl

end Value

theorem Argument.strings_lexemesAll (arguments : List Argument) :
    Lexeme.strings (Argument.lexemesAll arguments) = Argument.strings arguments := by
  simp only [lexemesAll, ne_eq, reduceCtorEq, not_false_eq_true, strings_group]
  exact List.flatMap_congr fun argument _ => argument.value.strings_lexemes

theorem Directive.strings_lexemes (directives : List Directive) :
    Lexeme.strings (directives.flatMap Directive.lexemes) = Directive.strings directives := by
  rw [strings_flatMap]
  exact List.flatMap_congr fun directive _ => Argument.strings_lexemesAll directive.arguments

theorem TypeRef.strings_lexemes (type : TypeRef) : Lexeme.strings type.lexemes = [] := by
  induction type with
  | named name nonNull position => cases nonNull <;> rfl
  | list element nonNull position ih => cases nonNull <;> simp [lexemes, bang, ih]

namespace Selection

theorem strings_lexemes (selection : Selection) :
    Lexeme.strings selection.lexemes = selection.strings := by
  induction selection using Selection.induction with
  | field head selections ih =>
    have block : Lexeme.strings (if selections.isEmpty then []
        else Lexeme.enclosed .braceLeft .braceRight (lexemesAll selections)) =
          stringsOfAll selections := by
      rw [lexemesAll_eq_flatMap, stringsOfAll_eq_flatMap, ← Lexeme.group,
        strings_group (by decide) (by decide)]
      exact List.flatMap_congr ih
    have key : Lexeme.strings (aliasLexemes head.alias?) = [] := by cases head.alias? <;> rfl
    rw [lexemes, strings_append, key, strings_word, strings_append, strings_append, block,
      Argument.strings_lexemesAll, Directive.strings_lexemes, strings, List.nil_append]
  | spread head => exact Directive.strings_lexemes head.directives
  | inline head selections ih =>
    have block : Lexeme.strings (lexemesAll selections) = stringsOfAll selections := by
      rw [lexemesAll_eq_flatMap, stringsOfAll_eq_flatMap, strings_flatMap]
      exact List.flatMap_congr ih
    have key : Lexeme.strings (conditionLexemes head.condition) = [] := by
      cases head.condition <;> rfl
    simp [lexemes, strings, key, block, Directive.strings_lexemes, - strings_flatMap]

end Selection

theorem VariableDefinition.strings_lexemes (declared : VariableDefinition) :
    Lexeme.strings declared.lexemes = declared.strings := by
  unfold lexemes strings
  cases declared.default with
  | none => simp [TypeRef.strings_lexemes, defaultLexemes]
  | some value => simp [TypeRef.strings_lexemes, defaultLexemes, Value.strings_lexemes]

/-- The strings of a definition are those among its lexemes. -/
theorem Definition.strings_lexemes (definition : Definition) :
    Lexeme.strings definition.lexemes = definition.strings := by
  have head : Lexeme.strings definition.headLexemes = [] := by
    unfold headLexemes
    split <;> split <;> rfl
  have declarations : (definition.variableDefinitions.flatMap fun declared =>
      Lexeme.strings declared.lexemes) =
        definition.variableDefinitions.flatMap VariableDefinition.strings :=
    List.flatMap_congr fun declared _ => declared.strings_lexemes
  have selections : Lexeme.strings (definition.selections.flatMap Selection.lexemes) =
      definition.selections.flatMap Selection.strings := by
    rw [strings_flatMap]
    exact List.flatMap_congr fun selection _ => selection.strings_lexemes
  simp [lexemes, bodyLexemes, strings, head, declarations, selections, Directive.strings_lexemes,
    - strings_flatMap]

/-- A definition has a foreign escape exactly if one of its lexemes has. -/
theorem Definition.isForeign_eq_any (definition : Definition) :
    definition.isForeign = definition.lexemes.any Lexeme.isForeign := by
  rw [isForeign, ← definition.strings_lexemes, Lexeme.any_strings]

end QueryTree
