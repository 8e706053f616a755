import QueryTree.Json.Path

/-!
# Embedded documents

The form in which generated source code holds a compiled definition: the tree as JSON text, and
what fills its slots.
-/

namespace QueryTree

/-- What fills a slot, as generated code holds it. -/
structure EmbeddedSlot where
  slot : String
  kind : String
  module : String
  property : String
  deriving DecidableEq, Repr

/-- A compiled definition, as generated code holds it. -/
structure EmbeddedDocument where
  node : String
  slots : List EmbeddedSlot
  deriving Repr

namespace EmbeddedDocument

def get (document : EmbeddedDocument) (path : String) : JsonPiece :=
  JsonText.get document.node path

def kind (document : EmbeddedDocument) : String := (document.get "kind").text

def slot? (document : EmbeddedDocument) (name : String) : Option EmbeddedSlot :=
  document.slots.find? (·.slot = name)

end EmbeddedDocument

end QueryTree
