import QueryTree.Build.Value
import QueryTree.Node.Json
import QueryTree.Normal.Form
import QueryTree.Scope.Binding

/-!
# Slot initializers

What a slot of a tree is filled with when the tree is executed. The name of a fragment tells the
module it belongs to and the property under which it is found there. A masked fragment is looked up
in its module; the content of an unmasked one is read in place.
-/

namespace QueryTree

/-- The place of a fragment: a module and one of its properties. -/
structure FragmentPlace where
  module : String
  property : String
  deriving DecidableEq, Repr

namespace FragmentPlace

/-- The property of fragments that are named after their module alone. -/
def defaultProperty : String := "data"

def isLetter (char : Char) : Bool := char.isAlpha

/-- Whether a character may stand in the name of a module. -/
def isModuleChar (char : Char) : Bool := char.isAlphanum

/-- Whether a character may stand in the name of a property. -/
def isPropertyChar (char : Char) : Bool := char = '_' || char.isAlphanum

/-- Whether characters begin with a letter. -/
def startsWithLetter : List Char → Bool
  | [] => false
  | char :: _ => isLetter char

/-- The place that a fragment name spells: a module, or a module and a property other than the
default one, separated by an underscore. -/
def ofChars? (chars : List Char) : Option FragmentPlace :=
  let module := chars.takeWhile isModuleChar
  if startsWithLetter module then
    match chars.dropWhile isModuleChar with
    | [] => some ⟨String.ofList module, defaultProperty⟩
    | '_' :: property =>
      if startsWithLetter property && property.all isPropertyChar &&
          String.ofList property ≠ defaultProperty then
        some ⟨String.ofList module, String.ofList property⟩
      else none
    | _ => none
  else none

def ofName? (name : String) : Option FragmentPlace := ofChars? name.toList

/-- The place of a fragment, or the problem with its name. -/
def ofName (name : String) : Except Diagnostic FragmentPlace :=
  match ofName? name with
  | some place => .ok place
  | none => .error (.unplaced (.invalidFragmentName name))

end FragmentPlace

/-- How the fragment for a slot is reached. -/
inductive FragmentAccess where
  /-- It is looked up in its module, which may be the component itself rather than its container,
  with values for its arguments. -/
  | lookup (checkContainer : Bool) (arguments : Option ArgumentValue)
  /-- Its content is read, from a name bound in place or from its module. -/
  | content (localProperty : Bool)
  deriving Repr

/-- What a slot is filled with. -/
structure Initializer where
  slot : String
  place : FragmentPlace
  access : FragmentAccess
  deriving Repr

namespace Initializer

def kind (initializer : Initializer) : String :=
  match initializer.access with
  | .lookup _ _ => "FragmentLookup"
  | .content _ => "FragmentContent"

def json (initializer : Initializer) : Written JsonValue := do
  let access ← match initializer.access with
    | .lookup checkContainer arguments => do
      let arguments ← (arguments.getD .absent).json
      pure [("checkContainer", .bool checkContainer), ("arguments", arguments)]
    | .content localProperty => pure [("localProperty", .bool localProperty)]
  return .object
    ([("kind", .string initializer.kind), ("slot", .string initializer.slot),
      ("module", .string initializer.place.module),
      ("property", .string initializer.place.property)] ++ access)

end Initializer

namespace Slot

def access (slot : Slot) (scope : Scope) (place : FragmentPlace) (parameters : List String) :
    Except Diagnostic FragmentAccess :=
  if slot.masked then do
    let arguments ← match slot.arguments with
      | none => pure none
      | some fields => some <$> (Value.object fields .unknown).argument parameters
    return .lookup (scope.binding? place.module == some .local) arguments
  else .ok (.content (scope.binding? place.property).isSome)

/-- The initializer of a slot. Its module or its property has to be bound. -/
def resolve (slot : Slot) (scope : Scope) (parameters : List String) :
    Except Diagnostic Initializer :=
  match FragmentPlace.ofName? slot.fragment with
  | none => .error (.atPosition (.invalidFragmentName slot.fragment) slot.position)
  | some place =>
    if (scope.binding? place.module).isNone && (scope.binding? place.property).isNone then
      .error (.atPosition
        (.unresolvedFragmentReference place.module place.property slot.fragment) slot.position)
    else return ⟨slot.name, place, ← slot.access scope place parameters⟩

end Slot

/-- The initializers of slots, in their order. -/
def resolveSlots (slots : List Slot) (scope : Scope) (parameters : List String) :
    Except Diagnostic (List Initializer) :=
  slots.mapM (·.resolve scope parameters)

end QueryTree
