import QueryTree.Diagnostic.Failure
import QueryTree.Document.Definition

/-!
# Slots and the tables of a normal form

In a normal form every fragment spread refers to a slot, a named placeholder that is filled outside
of the tree. While a definition is normalized three tables grow: the slots and the variables in
order of first appearance, and for each fragment the number of its spreads with arguments.
-/

namespace QueryTree

/-- A placeholder for a fragment. -/
structure Slot where
  /-- The name of the fragment, or one derived from it for a spread with arguments. -/
  name : String
  fragment : String
  /-- The bindings of a spread with arguments. -/
  arguments : Option (List Argument)
  /-- Whether the content of the fragment is hidden from the definition that spreads it. -/
  masked : Bool
  position : Position
  deriving Repr

/-- What has been collected so far. -/
structure Tables where
  slots : List Slot
  variableNames : List String
  /-- For each fragment, how many of its spreads carried arguments. -/
  counts : List (String × Nat)
  deriving Repr

namespace Tables

/-- Nothing has been collected. -/
def empty : Tables := ⟨[], [], []⟩

/-- Note a variable unless it is known. -/
def addVariable (tables : Tables) (name : String) : Tables :=
  if name ∈ tables.variableNames then tables
  else { tables with variableNames := tables.variableNames ++ [name] }

def addArguments (tables : Tables) (arguments : List Argument) : Tables :=
  (Value.namesOfFields arguments).foldl addVariable tables

/-- Note a slot. If its name is known, the slot stays as it is and only takes over the mask. -/
def addSlot (tables : Tables) (slot : Slot) : Tables :=
  if tables.slots.any (·.name = slot.name) then
    { tables with slots := tables.slots.map fun known =>
        if known.name = slot.name then { known with masked := slot.masked } else known }
  else { tables with slots := tables.slots ++ [slot] }

/-- How many spreads of a fragment carried arguments. -/
def count (tables : Tables) (fragment : String) : Nat :=
  (tables.counts.lookup fragment).getD 0

/-- Count a further spread of a fragment with arguments. -/
def increment (tables : Tables) (fragment : String) : Tables :=
  { tables with counts := (fragment, tables.count fragment + 1) :: tables.counts }

end Tables

end QueryTree
