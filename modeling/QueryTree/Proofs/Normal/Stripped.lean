import QueryTree.Proofs.Build.Value

/-!
# Normal forms without positions

Normalizing a definition commutes with stripping it of its positions: the normal
form of the stripped definition is the stripped normal form.
-/

namespace QueryTree

/-- A slot without its positions. -/
def Slot.stripped (slot : Slot) : Slot where
  name := slot.name
  fragment := slot.fragment
  arguments := slot.arguments.map (List.map Argument.stripped)
  masked := slot.masked
  position := .unknown

/-- A normal form without its positions. -/
def NormalForm.stripped (form : NormalForm) : NormalForm where
  definition := form.definition.stripped
  slots := form.slots.map Slot.stripped
  variableNames := form.variableNames
  argumentDefinitions := form.argumentDefinitions.map Argument.stripped

/-! ## Tables -/

namespace Tables

/-- Tables without positions. -/
def stripped (tables : Tables) : Tables :=
  { tables with slots := tables.slots.map Slot.stripped }

variable (tables : Tables)

theorem addVariable_stripped (name : String) :
    (tables.addVariable name).stripped = tables.stripped.addVariable name := by
  unfold addVariable
  split <;> simp_all [stripped]

theorem addArguments_stripped (arguments : List Argument) :
    (tables.addArguments arguments).stripped =
      tables.stripped.addArguments (arguments.map Argument.stripped) := by
  rw [addArguments, addArguments, Value.namesOfFields_stripped]
  generalize Value.namesOfFields arguments = names
  induction names generalizing tables with
  | nil => rfl
  | cons name names ih => rw [List.foldl_cons, List.foldl_cons, ih, addVariable_stripped]

theorem addSlot_stripped (slot : Slot) :
    (tables.addSlot slot).stripped = tables.stripped.addSlot slot.stripped := by
  have known : (tables.stripped.slots.any fun known => known.name = slot.stripped.name) =
      tables.slots.any fun known => known.name = slot.name := by
    rw [stripped, List.any_map]
    rfl
  rw [addSlot, addSlot, known]
  split
  · simp only [stripped, List.map_map, Tables.mk.injEq, and_true]
    apply List.map_congr_left
    intro other _
    by_cases same : other.name = slot.name
    · simp [same, Slot.stripped]
    · simp [same, Slot.stripped]
  · simp [stripped]

theorem increment_stripped (fragment : String) :
    (tables.increment fragment).stripped = tables.stripped.increment fragment := rfl

end Tables

/-! ## Spreads -/

/-- A mode without positions. -/
def SpreadMode.stripped : SpreadMode → SpreadMode
  | .plain masked => .plain masked
  | .bound arguments => .bound (arguments.map Argument.stripped)

namespace Spread

theorem mask_stripped (spread : Spread) (masked : Bool) (arguments : List Argument) :
    Agree Eq (spread.mask masked arguments)
      (spread.stripped.mask masked (arguments.map Argument.stripped)) := by
  induction arguments generalizing masked with
  | nil => exact .ok rfl
  | cons argument arguments ih =>
    rw [List.map_cons, mask, mask]
    refine .ite (fun _ => ?_) fun _ => .error _ _
    unfold Argument.stripped
    cases argument.value
    case boolean value position => exact ih value
    all_goals exact .error _ _

theorem mode_stripped (spread : Spread) :
    Agree (fun left right => right = left.stripped) spread.mode spread.stripped.mode := by
  unfold mode
  rw [show spread.stripped.directives = spread.directives.map Directive.stripped from rfl]
  cases spread.directives with
  | nil => exact .ok rfl
  | cons directive directives =>
    cases directives with
    | nil =>
      refine .ite (fun _ => .ok rfl) fun _ => .ite (fun _ => ?_) fun _ => .error _ _
      refine (mask_stripped spread true directive.arguments).map fun left right equal => ?_
      rw [equal]
      rfl
    | cons second directives => exact .error _ _

end Spread

namespace Normal

theorem keptDirectives_stripped (directives : List Directive) :
    keptDirectives (directives.map Directive.stripped) =
      (keptDirectives directives).map Directive.stripped :=
  Directive.filter_stripped (fun name => name ≠ connectionName) directives

theorem addDirectives_stripped (tables : Tables) (directives : List Directive) :
    (addDirectives tables directives).stripped =
      addDirectives tables.stripped (directives.map Directive.stripped) := by
  unfold addDirectives
  induction directives generalizing tables with
  | nil => rfl
  | cons directive directives ih =>
    rw [List.map_cons, List.foldl_cons, List.foldl_cons, ih, Tables.addArguments_stripped]
    rfl

theorem addSpread_stripped (spread : Spread) (tables : Tables) :
    Agree (fun left right => right = (left.1.stripped, left.2.stripped))
      (addSpread spread tables) (addSpread spread.stripped tables.stripped) := by
  refine spread.mode_stripped.bind fun mode _ equal => ?_
  subst equal
  cases mode with
  | plain masked =>
    refine .pure ?_
    rw [Tables.addSlot_stripped]
    rfl
  | bound arguments =>
    have begun : (tables.stripped.addArguments (arguments.map Argument.stripped)).increment
        spread.stripped.name = ((tables.addArguments arguments).increment spread.name).stripped := by
      rw [Tables.increment_stripped, Tables.addArguments_stripped]
      rfl
    simp only [SpreadMode.stripped, begun]
    refine .pure ?_
    rw [Tables.addSlot_stripped]
    rfl

/-! ## Selections -/

/-- What normalizing selections has to do with stripped ones. -/
abbrev StrippedPair (strip : α → α) (left right : α × Tables) : Prop :=
  right = (strip left.1, left.2.stripped)

theorem selections_stripped {inner : List Selection}
    (each : ∀ selection ∈ inner, ∀ tables : Tables,
      Agree (StrippedPair Selection.stripped) (Normal.selection tables selection)
        (Normal.selection tables.stripped selection.stripped)) (tables : Tables) :
    Agree (StrippedPair (List.map Selection.stripped)) (selections tables inner)
      (selections tables.stripped (inner.map Selection.stripped)) := by
  induction inner generalizing tables with
  | nil =>
    simp only [List.map_nil, selections]
    exact .pure rfl
  | cons first rest ih =>
    simp only [List.map_cons, selections]
    refine (each first List.mem_cons_self tables).bind fun ⟨newFirst, next⟩ _ equal => ?_
    subst equal
    refine (ih (List.forall_mem_cons.mp each).2 next).bind fun ⟨newRest, last⟩ _ equal => ?_
    subst equal
    exact .pure rfl

theorem selection_stripped (selection : Selection) (tables : Tables) :
    Agree (StrippedPair Selection.stripped) (Normal.selection tables selection)
      (Normal.selection tables.stripped selection.stripped) := by
  induction selection using Selection.induction generalizing tables with
  | field head inner ih =>
    simp only [Selection.stripped, Normal.selection, Selection.strippedAll_eq_map]
    have begun : addDirectives (tables.stripped.addArguments head.stripped.arguments)
        (keptDirectives head.stripped.directives) =
          (addDirectives (tables.addArguments head.arguments)
            (keptDirectives head.directives)).stripped := by
      rw [addDirectives_stripped, Tables.addArguments_stripped, ← keptDirectives_stripped]
      rfl
    rw [begun]
    refine (selections_stripped ih _).bind fun ⟨inner, last⟩ _ equal => ?_
    subst equal
    refine .pure ?_
    simp only [StrippedPair, Selection.stripped, Selection.strippedAll_eq_map, Field.stripped,
      keptDirectives_stripped]
  | spread head =>
    simp only [Selection.stripped, Normal.selection]
    refine (addSpread_stripped head tables).bind fun ⟨slot, last⟩ _ equal => ?_
    subst equal
    exact .pure rfl
  | inline head inner ih =>
    simp only [Selection.stripped, Normal.selection, Selection.strippedAll_eq_map]
    have begun : addDirectives tables.stripped (keptDirectives head.stripped.directives) =
        (addDirectives tables (keptDirectives head.directives)).stripped := by
      rw [addDirectives_stripped, ← keptDirectives_stripped]
      rfl
    rw [begun]
    refine (selections_stripped ih _).bind fun ⟨inner, last⟩ _ equal => ?_
    subst equal
    refine .pure ?_
    simp only [StrippedPair, Selection.stripped, Selection.strippedAll_eq_map,
      InlineFragment.stripped, keptDirectives_stripped]

theorem keptOnDefinition_stripped (directives : List Directive) :
    keptOnDefinition (directives.map Directive.stripped) =
      (keptOnDefinition directives).map Directive.stripped := by
  rw [keptOnDefinition, keptDirectives_stripped]
  exact Directive.filter_stripped (fun name => name ≠ argumentDefinitionsName) _

end Normal

/-- The normal form of a definition without positions is that of the definition,
without positions. -/
theorem Definition.normalize_stripped (definition : Definition) :
    Agree (fun left right => right = left.stripped) definition.normalize
      definition.stripped.normalize := by
  have declarations : (definition.stripped.directives.filter fun directive =>
      directive.name = argumentDefinitionsName) =
        (definition.directives.filter fun directive =>
          directive.name = argumentDefinitionsName).map Directive.stripped :=
    Directive.filter_stripped (fun name => name = argumentDefinitionsName) definition.directives
  have kept : Normal.keptOnDefinition definition.stripped.directives =
      (Normal.keptOnDefinition definition.directives).map Directive.stripped :=
    Normal.keptOnDefinition_stripped definition.directives
  have begun : Normal.addDirectives .empty
      ((Normal.keptOnDefinition definition.directives).map Directive.stripped) =
        (Normal.addDirectives .empty
          (Normal.keptOnDefinition definition.directives)).stripped := by
    rw [Normal.addDirectives_stripped]
    rfl
  simp only [normalize, declarations, kept, begun]
  generalize (definition.directives.filter fun directive =>
    directive.name = argumentDefinitionsName) = declared
  rcases declared with _ | ⟨first, _ | ⟨second, others⟩⟩
  case cons.cons => exact .error _ _
  -- Both ways to have at most one declaration go on alike.
  all_goals
    apply (Normal.selections_stripped
      (fun selection _ tables => Normal.selection_stripped selection tables) _).bind
    intro result _ equal
    subst equal
    refine .pure ?_
    simp only [NormalForm.stripped, Definition.stripped, Tables.stripped, List.flatMap_map,
      List.map_flatMap, NormalForm.mk.injEq, true_and]
    rfl

end QueryTree
