import QueryTree.Diagnostic.Failure
import QueryTree.Document.Grammar

/-!
# Definitions of a source

The entry points that turn the text of a source into definitions.
-/

namespace QueryTree

/-- All definitions of a source, in source order. `source` names it in positions. -/
def Definition.parseAll (source text : String) : Except Diagnostic (List Definition) :=
  match Document.parse source text with
  | .ok document => .ok document.definitions
  | .error error => .error (.ofSyntaxError error)

/-- The definition of a source that has to hold exactly one. -/
def Definition.parse (text : String) : Except Diagnostic Definition := do
  match ← parseAll "" text with
  | [definition] => return definition
  | definitions => throw (.unplaced (.definitionCount definitions.length))

end QueryTree
