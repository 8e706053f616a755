import QueryTree.Document.Definition
import QueryTree.Proofs.Language.Value

/-!
# Definitions without their positions

What remains of a definition if all positions and the style of its strings are
left out.  Induction on a selection assumes the property of everything that is
selected below it.
-/

namespace QueryTree

namespace Selection

/-- Induction on a selection, with the property assumed of the selections below a
field or an inline fragment. -/
@[elab_as_elim]
theorem induction {motive : Selection → Prop}
    (field : ∀ head selections, (∀ selection ∈ selections, motive selection) →
      motive (.field head selections))
    (spread : ∀ head, motive (.spread head))
    (inline : ∀ head selections, (∀ selection ∈ selections, motive selection) →
      motive (.inline head selections))
    (selection : Selection) : motive selection := by
  refine @Selection.rec motive (fun selections => ∀ selection ∈ selections, motive selection)
    field spread inline ?_ ?_ selection
  · exact List.forall_mem_nil _
  · intro first rest ofFirst ofRest
    exact List.forall_mem_cons.mpr ⟨ofFirst, ofRest⟩

/-- Induction on selections beside each other, with the property assumed of those below
the first one and of those after it. -/
@[elab_as_elim]
theorem inductionAll {motive : List Selection → Prop} (nil : motive [])
    (field : ∀ head inner rest, motive inner → motive rest → motive (.field head inner :: rest))
    (spread : ∀ head rest, motive rest → motive (.spread head :: rest))
    (inline : ∀ head inner rest, motive inner → motive rest → motive (.inline head inner :: rest))
    (selections : List Selection) : motive selections :=
  @Selection.rec_1 (fun selection => ∀ rest, motive rest → motive (selection :: rest)) motive
    (fun head inner below rest => field head inner rest below) spread
    (fun head inner below rest => inline head inner rest below) nil
    (fun _ rest first after => first rest after) selections

end Selection

/-- A field without its positions. -/
def Field.stripped (field : Field) : Field where
  alias? := field.alias?
  name := field.name
  arguments := field.arguments.map Argument.stripped
  directives := field.directives.map Directive.stripped
  position := .unknown

/-- A spread without its positions. -/
def Spread.stripped (spread : Spread) : Spread :=
  ⟨spread.name, spread.directives.map Directive.stripped, .unknown⟩

/-- An inline fragment without its positions. -/
def InlineFragment.stripped (fragment : InlineFragment) : InlineFragment :=
  ⟨fragment.condition, fragment.directives.map Directive.stripped, .unknown⟩

namespace Selection

mutual

/-- A selection without its positions. -/
def stripped : Selection → Selection
  | .field head selections => .field head.stripped (strippedAll selections)
  | .spread head => .spread head.stripped
  | .inline head selections => .inline head.stripped (strippedAll selections)

/-- Selections without their positions. -/
def strippedAll : List Selection → List Selection
  | [] => []
  | selection :: selections => stripped selection :: strippedAll selections

end

theorem strippedAll_eq_map (selections : List Selection) :
    strippedAll selections = selections.map stripped :=
  eq_map_of_cons rfl fun _ _ => rfl

end Selection

/-- The declaration of a variable without its positions. -/
def VariableDefinition.stripped (declared : VariableDefinition) : VariableDefinition where
  name := declared.name
  type := declared.type.stripped
  default := declared.default.map Value.stripped
  position := .unknown

/-- A definition without its positions and without the style of its strings. -/
def Definition.stripped (definition : Definition) : Definition where
  kind := definition.kind
  name := definition.name
  condition := definition.condition
  variableDefinitions := definition.variableDefinitions.map VariableDefinition.stripped
  directives := definition.directives.map Directive.stripped
  selections := definition.selections.map Selection.stripped
  position := .unknown

end QueryTree
