import QueryTree.Normal.Table

/-!
# Normal forms

Normalizing a definition takes its formal arguments out of `@argumentDefinitions`, drops every
`@connection` and replaces each fragment spread by a reference to a slot. A spread carries no
directive, one `@arguments` with bindings for the fragment, or one `@relay` that may only say
whether the fragment is masked.
-/

namespace QueryTree

/-- A normalized definition with what was taken out of it. -/
structure NormalForm where
  definition : Definition
  /-- The slots in order of first appearance. -/
  slots : List Slot
  /-- The referenced variables in order of first appearance. -/
  variableNames : List String
  argumentDefinitions : List Argument
  deriving Repr

def NormalForm.slot? (form : NormalForm) (name : String) : Option Slot :=
  form.slots.find? (·.name = name)

/-- The directive that declares the formal arguments of a definition. -/
def argumentDefinitionsName : String := "argumentDefinitions"

/-- The directive that binds the arguments of a fragment. -/
def argumentsName : String := "arguments"

/-- The directive that only concerns the client's store. -/
def connectionName : String := "connection"

/-- The directive that configures the compiler. -/
def relayName : String := "relay"

/-- How a spread refers to its fragment. -/
inductive SpreadMode where
  /-- By name, with the fragment masked or not. -/
  | plain (masked : Bool)
  | bound (arguments : List Argument)
  deriving Repr

namespace Spread

/-- The mask that the arguments of `@relay` ask for; the last one counts. -/
def mask (spread : Spread) (masked : Bool) : List Argument → Except Diagnostic Bool
  | [] => .ok masked
  | argument :: arguments =>
    if argument.name = "mask" then
      match argument.value with
      | .boolean value _ => mask spread value arguments
      | _ => .error (.atPosition (.invalidRelayArgument "mask" "a boolean literal")
          argument.position)
    else .error (.atPosition (.invalidMaskArgument spread.name argument.name) argument.position)

/-- How a spread refers to its fragment, by its directives. -/
def mode (spread : Spread) : Except Diagnostic SpreadMode :=
  match spread.directives with
  | [] => .ok (.plain true)
  | [directive] =>
    if directive.name = argumentsName then .ok (.bound directive.arguments)
    else if directive.name = relayName then
      (spread.mask true directive.arguments).map .plain
    else
      .error (.atPosition (.unsupportedSpreadDirective directive.name spread.name)
        directive.position)
  | _ :: second :: _ =>
    .error (.atPosition (.conflictingSpreadDirectives spread.name) second.position)

/-- The name of the slot for the `index`-th spread of a fragment with arguments. -/
def boundName (fragment : String) (index : Nat) : String :=
  fragment ++ "_args" ++ toString index

end Spread

namespace Normal

def keptDirectives (directives : List Directive) : List Directive :=
  directives.filter (·.name ≠ connectionName)

def addDirectives (tables : Tables) (directives : List Directive) : Tables :=
  directives.foldl (fun tables directive => tables.addArguments directive.arguments) tables

/-- The slot of a spread, and the tables with it. -/
def addSpread (spread : Spread) (tables : Tables) : Except Diagnostic (Slot × Tables) := do
  match ← spread.mode with
  | .plain masked =>
    let slot := ⟨spread.name, spread.name, none, masked, spread.position⟩
    return (slot, tables.addSlot slot)
  | .bound arguments =>
    let tables := (tables.addArguments arguments).increment spread.name
    let name := Spread.boundName spread.name (tables.count spread.name)
    let slot := ⟨name, spread.name, some arguments, true, spread.position⟩
    return (slot, tables.addSlot slot)

mutual

def selection (tables : Tables) : Selection → Except Diagnostic (Selection × Tables)
  | .field field inner => do
    let directives := keptDirectives field.directives
    let tables := addDirectives (tables.addArguments field.arguments) directives
    let (inner, tables) ← selections tables inner
    return (.field { field with directives } inner, tables)
  | .inline fragment inner => do
    let directives := keptDirectives fragment.directives
    let (inner, tables) ← selections (addDirectives tables directives) inner
    return (.inline { fragment with directives } inner, tables)
  | .spread spread => do
    let (slot, tables) ← addSpread spread tables
    return (.spread ⟨slot.name, [], spread.position⟩, tables)

/-- Normalize selections from left to right. -/
def selections (tables : Tables) : List Selection → Except Diagnostic (List Selection × Tables)
  | [] => return ([], tables)
  | first :: rest => do
    let (first, tables) ← selection tables first
    let (rest, tables) ← selections tables rest
    return (first :: rest, tables)

end

def keptOnDefinition (directives : List Directive) : List Directive :=
  (keptDirectives directives).filter (·.name ≠ argumentDefinitionsName)

end Normal

def Definition.normalize (definition : Definition) : Except Diagnostic NormalForm := do
  let declarations := definition.directives.filter (·.name = argumentDefinitionsName)
  match declarations with
  | _ :: second :: _ =>
    throw (.atPosition (.duplicateArgumentDefinitions definition.name) second.position)
  | _ =>
    let directives := Normal.keptOnDefinition definition.directives
    let (selections, tables) ←
      Normal.selections (Normal.addDirectives .empty directives) definition.selections
    return {
      definition := { definition with directives, selections }
      slots := tables.slots
      variableNames := tables.variableNames
      argumentDefinitions := declarations.flatMap (·.arguments) }

end QueryTree
