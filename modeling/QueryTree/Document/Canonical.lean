import QueryTree.Document.Definition
import QueryTree.Text.Quoted

/-!
# Canonical text

Every definition has one canonical text on a single line. Definitions that differ only in layout,
comments or the style of their strings have the same one.
-/

namespace QueryTree

namespace Value

mutual

def canonical : Value → String
  | .variable name _ => "$" ++ name
  | .int raw _ => raw
  | .float raw _ => raw
  | .string text _ _ => Text.quoted text
  | .boolean value _ => if value then "true" else "false"
  | .null _ => "null"
  | .enum name _ => name
  | .list values _ => "[" ++ canonicalList values ++ "]"
  | .object fields _ => "\x7b" ++ canonicalFields fields ++ "\x7d"

/-- The values of a list, separated by commas. -/
def canonicalList : List Value → String
  | [] => ""
  | [value] => canonical value
  | value :: values => canonical value ++ ", " ++ canonicalList values

/-- The fields of an object, separated by commas. -/
def canonicalFields : List (Named Value) → String
  | [] => ""
  | [⟨name, value, _⟩] => name ++ ": " ++ canonical value
  | ⟨name, value, _⟩ :: fields =>
    name ++ ": " ++ canonical value ++ ", " ++ canonicalFields fields

end

end Value

/-- The canonical text of arguments, with their brackets; nothing if there are none. -/
def Argument.canonicalAll (arguments : List Argument) : String :=
  if arguments.isEmpty then "" else "(" ++ Value.canonicalFields arguments ++ ")"

/-- The canonical text of directives, each after a blank. -/
def Directive.canonicalAll : List Directive → String
  | [] => ""
  | directive :: directives =>
    " @" ++ directive.name ++ Argument.canonicalAll directive.arguments ++
      canonicalAll directives

namespace Selection

mutual

def canonical : Selection → String
  | .field head selections =>
    (match head.alias? with
      | some other => other ++ ": "
      | none => "") ++
      head.name ++ Argument.canonicalAll head.arguments ++
      Directive.canonicalAll head.directives ++
      (if selections.isEmpty then "" else " \x7b" ++ canonicalAll selections ++ "\x7d")
  | .spread head => "..." ++ head.name ++ Directive.canonicalAll head.directives
  | .inline head selections =>
    "..." ++
      (match head.condition with
        | some condition => " on " ++ condition
        | none => "") ++
      Directive.canonicalAll head.directives ++ " \x7b" ++ canonicalAll selections ++ "\x7d"

/-- The canonical text of several selections, separated by blanks. -/
def canonicalAll : List Selection → String
  | [] => ""
  | [selection] => canonical selection
  | selection :: selections => canonical selection ++ " " ++ canonicalAll selections

end

end Selection

namespace VariableDefinition

def canonical (declared : VariableDefinition) : String :=
  "$" ++ declared.name ++ ": " ++ declared.type.text ++
    (match declared.default with
      | some value => " = " ++ value.canonical
      | none => "")

/-- The canonical text of several declarations, separated by commas. -/
def canonicalAll : List VariableDefinition → String
  | [] => ""
  | [declared] => declared.canonical
  | declared :: others => declared.canonical ++ ", " ++ canonicalAll others

end VariableDefinition

def Definition.canonical (definition : Definition) : String :=
  definition.kind.text ++
    (if definition.name = "" then "" else " " ++ definition.name) ++
    (if definition.kind = .fragment then " on " ++ definition.condition else "") ++
    (if definition.variableDefinitions.isEmpty then ""
      else "(" ++ VariableDefinition.canonicalAll definition.variableDefinitions ++ ")") ++
    Directive.canonicalAll definition.directives ++
    " \x7b" ++ Selection.canonicalAll definition.selections ++ "\x7d"

end QueryTree
