import QueryTree.Schema.Check
import QueryTree.Text.Quoted

/-!
# Schemas as text

A schema is written with its root types first, then its directives and its types, both sorted by
name and without those that belong to every schema. Lines are indented by tabs. An argument with a
description stands on lines of its own, one level deeper.
-/

namespace QueryTree

/-- A text that is being written, word by word. -/
structure Sheet where
  text : String
  level : Nat
  /-- Whether a line begins. -/
  atLineStart : Bool
  /-- Whether a blank comes before what is written next. -/
  needsBlank : Bool
  deriving Repr

namespace Sheet

def start : Sheet := ⟨"", 0, false, false⟩

/-- Write text, after the indentation of a new line or a blank that is due. -/
def put (sheet : Sheet) (text : String) : Sheet :=
  let before :=
    if sheet.atLineStart then String.ofList (List.replicate sheet.level '\t')
    else if sheet.needsBlank then " "
    else ""
  { sheet with text := sheet.text ++ before ++ text, atLineStart := false, needsBlank := false }

def blank (sheet : Sheet) : Sheet := { sheet with needsBlank := true }

def close (sheet : Sheet) : Sheet := { sheet with needsBlank := false }

/-- Write a word, with a blank after it. -/
def word (sheet : Sheet) (text : String) : Sheet := (sheet.put text).blank

def newLine (sheet : Sheet) : Sheet :=
  { sheet with text := sheet.text.push '\n', atLineStart := true, needsBlank := false }

def deeper (sheet : Sheet) (write : Sheet → Sheet) : Sheet :=
  let inner := write { sheet with level := sheet.level + 1 }
  { inner with level := sheet.level }

def each {α : Type} (sheet : Sheet) (items : List α) (write : Sheet → α → Sheet) : Sheet :=
  items.foldl write sheet

/-- Write something if a condition holds. -/
def when (sheet : Sheet) (condition : Bool) (write : Sheet → Sheet) : Sheet :=
  if condition then write sheet else sheet

end Sheet

namespace Value

mutual

/-- A value as it is written in a formatted schema. -/
def schemaText : Value → String
  | .variable name _ => "$" ++ name
  | .int raw _ => raw
  | .float raw _ => raw
  | .string text _ _ => Text.quoted text
  | .boolean value _ => if value then "true" else "false"
  | .null _ => "null"
  | .enum name _ => name
  | .list values _ => "[" ++ ",".intercalate (schemaTexts values) ++ "]"
  | .object fields _ => "\x7b" ++ ",".intercalate (schemaFields fields) ++ "\x7d"

/-- Values as they are written in a formatted schema. -/
def schemaTexts : List Value → List String
  | [] => []
  | value :: values => schemaText value :: schemaTexts values

/-- The fields of an object as they are written in a formatted schema. -/
def schemaFields : List (Named Value) → List String
  | [] => []
  | ⟨name, value, _⟩ :: fields => (name ++ ":" ++ schemaText value) :: schemaFields fields

end

end Value

namespace Sheet

/-- Write a description between triple quotes, line by line. -/
def description (sheet : Sheet) (text : String) : Sheet :=
  if text = "" then sheet
  else
    let sheet := (sheet.put "\"\"\"").newLine
    let sheet := sheet.each (text.splitOn "\n") fun sheet line => (sheet.put line).newLine
    (sheet.put "\"\"\"").newLine

/-- Write a name with the colon after it. -/
def label (sheet : Sheet) (name : String) : Sheet :=
  (((sheet.word name).close).put ":").blank

/-- Write items with commas between those of them that ask for one. -/
def separated {α : Type} (write : Sheet → α → Sheet) (comma : α → Bool) : Sheet → List α → Sheet
  | sheet, [] => sheet
  | sheet, [item] => write sheet item
  | sheet, item :: items =>
    let sheet := write sheet item
    separated write comma (sheet.when (comma item) fun sheet => sheet.close.word ",") items

def argument (sheet : Sheet) (argument : Argument) : Sheet :=
  (sheet.label argument.name).put argument.value.schemaText

def directive (sheet : Sheet) (directive : Directive) : Sheet :=
  let sheet := (sheet.put "@").word directive.name
  if directive.arguments.isEmpty then sheet
  else
    ((separated argument (fun _ => true) (sheet.close.put "(") directive.arguments).put ")").blank

def directives (sheet : Sheet) (list : List Directive) : Sheet := sheet.each list directive

/-- Write a type with its default. No blank is due after a default. -/
def typed (sheet : Sheet) (type : TypeRef) (default : Option Value) : Sheet :=
  let sheet := sheet.word type.text
  match default with
  | some value => (sheet.word "=").put value.schemaText
  | none => sheet

def parameter (sheet : Sheet) (declared : ArgumentDeclaration) : Sheet :=
  let write (sheet : Sheet) : Sheet :=
    ((sheet.label declared.name).typed declared.type declared.default).blank.directives
      declared.directives
  if declared.description = "" then write sheet
  else (sheet.newLine.deeper fun sheet => write (sheet.description declared.description)).newLine

/-- Write parameters between parentheses, if there are any. No comma follows one that ends its
line. -/
def parameters (sheet : Sheet) (list : List ArgumentDeclaration) : Sheet :=
  if list.isEmpty then sheet
  else
    let sheet :=
      separated parameter (fun declared => declared.description = "") (sheet.put "(") list
    (sheet.close.put ")").blank

/-- Write lines between braces, if there are any. -/
def block {α : Type} (sheet : Sheet) (items : List α) (write : Sheet → α → Sheet) : Sheet :=
  if items.isEmpty then sheet
  else ((sheet.put "\x7b").newLine.deeper fun sheet => sheet.each items write).put "\x7d"

/-- Write a field, unless it belongs to introspection. -/
def field (sheet : Sheet) (declared : FieldDeclaration) : Sheet :=
  if declared.name.startsWith "__" then sheet
  else
    let sheet := (sheet.description declared.description).word declared.name
    let sheet := ((sheet.close.parameters declared.arguments).close.put ":").blank
    ((sheet.typed declared.type declared.default).directives declared.directives).newLine

def enumValue (sheet : Sheet) (declared : EnumValueDeclaration) : Sheet :=
  (((sheet.description declared.description).word declared.name).directives
    declared.directives).newLine

def type (sheet : Sheet) (declared : TypeDeclaration) : Sheet :=
  if declared.builtIn then sheet
  else
    let sheet := sheet.description declared.description
    let sheet := (sheet.word declared.kind.keyword).word declared.name
    let sheet := sheet.when (!declared.interfaces.isEmpty) fun sheet =>
      (sheet.word "implements").word (" & ".intercalate declared.interfaces)
    let sheet := sheet.directives declared.directives
    let sheet := sheet.when (!declared.members.isEmpty) fun sheet =>
      (sheet.word "=").word (" | ".intercalate declared.members)
    ((sheet.block declared.fields field).block declared.values enumValue).newLine

def directiveDeclaration (sheet : Sheet) (declared : DirectiveDeclaration) : Sheet :=
  if declared.builtIn then sheet
  else
    let sheet := sheet.description declared.description
    let sheet := ((sheet.word "directive").put "@").word declared.name
    let sheet := sheet.when (!declared.arguments.isEmpty) fun sheet =>
      sheet.close.parameters declared.arguments
    let sheet := sheet.when declared.repeatable fun sheet => sheet.word "repeatable"
    let sheet := sheet.when (!declared.locations.isEmpty) fun sheet =>
      (sheet.word "on").word (" | ".intercalate (declared.locations.map (·.text)))
    sheet.newLine

end Sheet

namespace Schema

/-- The root types whose names do not tell their operation. -/
def namedRoots (schema : Schema) : List (String × String) :=
  [("query", schema.query, "Query"), ("mutation", schema.mutation, "Mutation"),
    ("subscription", schema.subscription, "Subscription")].filterMap
    fun (operation, type, usual) =>
      (type.filter (· ≠ usual)).map (operation, ·)

def format (schema : Schema) : String :=
  let roots := schema.namedRoots
  let sheet := Sheet.start.when (!roots.isEmpty) fun sheet =>
    ((sheet.word "schema").block roots fun sheet (operation, type) =>
      ((sheet.label operation).word type).newLine).newLine
  let sheet := sheet.each (sortByName (·.name) schema.directives) Sheet.directiveDeclaration
  (sheet.each (sortByName (·.name) schema.types) Sheet.type).text

end Schema

end QueryTree
