import Mathlib.Data.List.Forall2
import QueryTree.Build.Root
import QueryTree.Proofs.Build.Requisite

/-!
# The nodes of a tree and what was written for them

A tree is walked together with the definition that it was made from.  The fields
below a node come in the order in which they were selected, and so do the
fragments and references; what is left over at the end of either was generated,
and nothing was written below it.
-/

namespace QueryTree

namespace Selection

/-- What is selected below a selection. -/
def inner : Selection → List Selection
  | .field _ selections => selections
  | .spread _ => []
  | .inline _ selections => selections

/-- The fragments and spreads of a selection set, leaving its fields aside. -/
def fragments (selections : List Selection) : List Selection :=
  selections.filter (·.field?.isNone)

end Selection

/-- A node of a tree with what was written for it and the nodes below it. -/
structure Site where
  kind : NodeKind
  /-- The name of its type. -/
  type : String
  written : List Selection
  children : List Child

namespace Child

/-- The name of a field. -/
def fieldName? : Child → Option String
  | .field head _ _ => some head.name
  | _ => none

/-- The names of the fields among nodes. -/
def fieldNames (children : List Child) : List String := children.filterMap fieldName?

mutual

/-- The nodes of a tree, given what was written below its root. -/
def sites (written : List Selection) : Child → List Site
  | .field head _ children =>
    ⟨.field, head.type, written, children⟩ ::
      sitesOf ((Selection.fields written).map (·.selections))
        ((Selection.fragments written).map Selection.inner) children
  | .fragment head _ children =>
    ⟨.fragment, head.type, written, children⟩ ::
      sitesOf ((Selection.fields written).map (·.selections))
        ((Selection.fragments written).map Selection.inner) children
  | .reference _ => []

/-- The nodes of trees, given what was written below each of the selected fields
and of the fragments. -/
def sitesOf (fields fragments : List (List Selection)) : List Child → List Site
  | [] => []
  | child :: children =>
    if child.fieldName?.isSome then
      sites (fields.headD []) child ++ sitesOf fields.tail fragments children
    else sites (fragments.headD []) child ++ sitesOf fields fragments.tail children

end

end Child

namespace Site

/-- The names of the fields that were selected. -/
def selected (site : Site) : List String := (Selection.fields site.written).map (·.field.name)

/-- The names of the fields of a node. -/
def fieldNames (site : Site) : List String := Child.fieldNames site.children

/-- A node and all nodes below it. -/
def sites (site : Site) : List Site :=
  site :: Child.sitesOf ((Selection.fields site.written).map (·.selections))
    ((Selection.fragments site.written).map Selection.inner) site.children

end Site

/-- What is selected on the root type of an operation. -/
def Definition.rootSelections (definition : Definition) : List Selection :=
  ((Selection.fields definition.selections).head?.map (·.selections)).getD []

/-- What becomes a tree: the selections of a fragment, and of an operation those of
its root field. -/
def Definition.printed (definition : Definition) : List Selection :=
  if definition.kind = .fragment then definition.selections else definition.rootSelections

/-- The selection array of a tree. -/
def Root.children : Root → Children
  | .query _ children => children
  | .mutation _ children => children
  | .subscription _ children => children
  | .fragment _ children => children
  | .createFragment _ children _ => children

/-- The root of the tree of a definition. -/
def Root.site (definition : Definition) : Root → Site
  | .query head children => ⟨.query, head.type, definition.rootSelections, children.items⟩
  | .mutation head children =>
    ⟨.mutation, head.responseType, definition.rootSelections, children.items⟩
  | .subscription head children =>
    ⟨.subscription, head.responseType, definition.rootSelections, children.items⟩
  | .fragment head children => ⟨.fragment, head.type, definition.selections, children.items⟩
  | .createFragment head children _ =>
    ⟨.fragment, head.type, definition.selections, children.items⟩

/-- All nodes of the tree of a definition. -/
def Root.sites (definition : Definition) (root : Root) : List Site := (root.site definition).sites

/-! ## Supplied nodes -/

/-- Whether a node is a fragment on nodes. -/
def Child.IsOnNode (child : Child) : Prop :=
  ∃ head shape children, child = .fragment head shape children ∧ head.type = nodeInterface

/-- Whether a node of a type has all that is demanded of it, and nothing beyond
that apart from what was written. -/
structure Site.Supplied (schema : Schema) (type : SchemaType) (generated : List String)
    (site : Site) : Prop where
  isType : schema.type? site.type = some type
  /-- The selected fields come first. -/
  names : site.fieldNames = site.selected ++ generated
  complete : ∀ name, Demanded schema site.kind type site.fieldNames name → name ∈ site.fieldNames
  minimal : ∀ name ∈ generated, Demanded schema site.kind type site.fieldNames name
  /-- No generated field is selected or generated a second time. -/
  once : generated.Nodup ∧ ∀ name ∈ generated, name ∉ site.selected
  onNode : DemandsNode schema type → ∃ head shape children,
    Child.fragment head shape children ∈ site.children ∧ head.type = nodeInterface ∧
      schema.names.id ∈ Child.fieldNames children
  /-- A fragment is generated only if one on nodes is demanded. -/
  minimalOnNode : ∀ child ∈ (site.children.filter (·.fieldName?.isNone)).drop
    (Selection.fragments site.written).length, DemandsNode schema type ∧ child.IsOnNode

/-- Whether a node has what is demanded of it by its type. -/
def Site.IsSupplied (schema : Schema) (site : Site) : Prop :=
  ∃ type generated, site.Supplied schema type generated

end QueryTree
