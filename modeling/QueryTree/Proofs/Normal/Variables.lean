import QueryTree.Proofs.Document.Values
import QueryTree.Proofs.Normal.Distinct

/-!
# The variables of a normal form

While a definition is normalized the variables of its values are noted, each when
it first appears.  The values that are kept in the normal form, and those that its
slots bind, are all among them.
-/

namespace QueryTree

/-- Of two lists together, more is in longer ones. -/
theorem append_subset_append {α : Type} {fewer more others all : List α} (left : fewer ⊆ more)
    (right : others ⊆ all) : fewer ++ others ⊆ more ++ all :=
  List.append_subset.mpr
    ⟨List.subset_append_of_subset_left _ left, List.subset_append_of_subset_right _ right⟩

/-! ## Noted values -/

namespace Spread

/-- The values that a spread binds. -/
def boundValues (spread : Spread) : List Value := (spread.bindings?.getD []).map (·.value)

theorem boundValues_subset (spread : Spread) :
    spread.boundValues ⊆ Directive.valuesOf spread.directives := by
  intro value member
  unfold boundValues bindings? at member
  cases found : Directive.find? argumentsName spread.directives with
  | none =>
    rw [found] at member
    cases member
  | some directive =>
    rw [found] at member
    obtain ⟨argument, isArgument, rfl⟩ := List.mem_map.mp member
    exact Directive.mem_valuesOf (List.mem_of_find?_eq_some found) isArgument

end Spread

namespace Selection

mutual

/-- The values in a selection whose variables are noted, in their order. -/
def noted : Selection → List Value
  | .field head selections =>
    head.arguments.map (·.value) ++
      Directive.valuesOf (Normal.keptDirectives head.directives) ++ notedOf selections
  | .spread head => head.boundValues
  | .inline head selections =>
    Directive.valuesOf (Normal.keptDirectives head.directives) ++ notedOf selections

/-- The values in selections whose variables are noted, in their order. -/
def notedOf : List Selection → List Value
  | [] => []
  | selection :: selections => noted selection ++ notedOf selections

end

end Selection

/-- The values in a definition whose variables are noted, in their order. -/
def Definition.noted (definition : Definition) : List Value :=
  Directive.valuesOf (Normal.keptOnDefinition definition.directives) ++
    Selection.notedOf definition.selections

/-! ## The table of variables -/

namespace Tables

/-- Note a variable unless it is known. -/
def note (known : List String) (name : String) : List String :=
  if name ∈ known then known else known ++ [name]

theorem mem_foldl_note {known names : List String} {name : String} :
    name ∈ names.foldl note known ↔ name ∈ known ∨ name ∈ names := by
  induction names generalizing known with
  | nil => simp
  | cons first names ih =>
    rw [List.foldl_cons, ih, note, List.mem_cons]
    by_cases isKnown : first ∈ known
    · rw [if_pos isKnown]
      constructor
      · exact Or.imp_right .inr
      · rintro (inKnown | rfl | inNames)
        · exact .inl inKnown
        · exact .inl isKnown
        · exact .inr inNames
    · rw [if_neg isKnown, List.mem_append, List.mem_singleton, or_assoc]

theorem nodup_foldl_note {known : List String} (distinct : known.Nodup) (names : List String) :
    (names.foldl note known).Nodup := by
  induction names generalizing known with
  | nil => exact distinct
  | cons first names ih =>
    apply ih
    unfold note
    split
    · exact distinct
    next unknown =>
      rw [← List.concat_eq_append]
      exact (List.nodup_concat _ _).mpr ⟨unknown, distinct⟩

/-- The variables that are known after those of values were noted. -/
def noteAll (known : List String) (values : List Value) : List String :=
  (values.flatMap Value.variableNames).foldl note known

theorem noteAll_append (known : List String) (lefts rights : List Value) :
    noteAll known (lefts ++ rights) = noteAll (noteAll known lefts) rights := by
  unfold noteAll
  rw [List.flatMap_append, List.foldl_append]

theorem variableNames_addArguments (tables : Tables) (arguments : List Argument) :
    (tables.addArguments arguments).variableNames =
      noteAll tables.variableNames (arguments.map (·.value)) := by
  unfold addArguments noteAll
  rw [Value.namesOfFields_eq_flatMap, List.flatMap_map]
  generalize (arguments.flatMap fun argument => argument.value.variableNames) = names
  induction names generalizing tables with
  | nil => rfl
  | cons name names ih =>
    rw [List.foldl_cons, List.foldl_cons, ih]
    unfold addVariable note
    split <;> rfl

theorem variableNames_addDirectives (tables : Tables) (directives : List Directive) :
    (Normal.addDirectives tables directives).variableNames =
      noteAll tables.variableNames (Directive.valuesOf directives) := by
  unfold Normal.addDirectives
  induction directives generalizing tables with
  | nil => rfl
  | cons directive directives ih =>
    rw [List.foldl_cons, ih, variableNames_addArguments, ← noteAll_append]
    rfl

theorem variableNames_addSlot (tables : Tables) (slot : Slot) :
    (tables.addSlot slot).variableNames = tables.variableNames := by
  unfold addSlot
  split <;> rfl

theorem variableNames_addSpread {tables next : Tables} {spread : Spread} {slot : Slot}
    (added : Normal.addSpread spread tables = .ok (slot, next)) :
    next.variableNames = noteAll tables.variableNames spread.boundValues := by
  unfold Normal.addSpread at added
  obtain ⟨mode, accepted, added⟩ := exists_of_bind_eq_ok added
  have bindings := Spread.bindings?_of_mode accepted
  unfold Spread.boundValues
  rw [bindings]
  cases mode with
  | plain masked =>
    cases added
    rw [variableNames_addSlot]
    rfl
  | bound arguments =>
    cases added
    rw [variableNames_addSlot]
    exact variableNames_addArguments tables arguments

end Tables

/-! ## Normalizing selections -/

namespace Normal

variable {tables next : Tables} {inner normal : List Selection}

/-- The variables of the values to note become known, one value after another. -/
theorem Normalizes.variableNames (run : Normalizes tables inner normal next) :
    next.variableNames = Tables.noteAll tables.variableNames (Selection.notedOf inner) := by
  induction run with
  | nil tables => rfl
  | field below after ofBelow ofAfter =>
    rw [ofAfter, ofBelow, Tables.variableNames_addDirectives, Tables.variableNames_addArguments]
    simp only [Selection.notedOf, Selection.noted, Tables.noteAll_append]
  | spread added after ofAfter =>
    rw [ofAfter, Tables.variableNames_addSpread added]
    simp only [Selection.notedOf, Selection.noted, Tables.noteAll_append]
  | inline below after ofBelow ofAfter =>
    rw [ofAfter, ofBelow, Tables.variableNames_addDirectives]
    simp only [Selection.notedOf, Selection.noted, Tables.noteAll_append]

/-- Every value that is kept was noted. -/
theorem Normalizes.values_subset (run : Normalizes tables inner normal next) :
    Selection.valuesOf normal ⊆ Selection.notedOf inner := by
  induction run with
  | nil tables => exact List.Subset.refl _
  | field below after ofBelow ofAfter | inline below after ofBelow ofAfter =>
    rw [Selection.valuesOf, Selection.notedOf, Selection.values, Selection.noted]
    exact append_subset_append (append_subset_append (List.Subset.refl _) ofBelow) ofAfter
  | spread added after ofAfter => exact List.subset_append_of_subset_right _ ofAfter

end Normal

/-! ## What was noted -/

namespace Selection

variable (selections : List Selection)

theorem notedOf_eq_flatMap : notedOf selections = selections.flatMap noted :=
  eq_flatMap_of_cons rfl fun _ _ => rfl

theorem spreads_eq_flatMap : spreads selections = selections.flatMap spreadsOf :=
  eq_flatMap_of_cons rfl fun _ _ => rfl

/-- Of selections, more is collected if more is collected of each. -/
theorem flatMap_subset {fewer more : Selection → List Value} {selections : List Selection}
    (each : ∀ selection ∈ selections, fewer selection ⊆ more selection) :
    selections.flatMap fewer ⊆ selections.flatMap more := by
  intro value member
  obtain ⟨selection, isSelection, inSelection⟩ := List.mem_flatMap.mp member
  exact List.mem_flatMap.mpr ⟨selection, isSelection, each selection isSelection inSelection⟩

/-- What the spreads in a selection bind is noted. -/
theorem boundValues_subset_noted (selection : Selection) :
    (spreadsOf selection).flatMap Spread.boundValues ⊆ noted selection := by
  induction selection using Selection.induction with
  | field head selections ih | inline head selections ih =>
    rw [spreadsOf, noted, spreads_eq_flatMap, List.flatMap_assoc, notedOf_eq_flatMap]
    exact List.subset_append_of_subset_right _ (flatMap_subset ih)
  | spread head =>
    rw [spreadsOf, noted, List.flatMap_singleton]
    exact List.Subset.refl _

theorem boundValues_subset_notedOf :
    (spreads selections).flatMap Spread.boundValues ⊆ notedOf selections := by
  rw [spreads_eq_flatMap, List.flatMap_assoc, notedOf_eq_flatMap]
  exact flatMap_subset fun selection _ => boundValues_subset_noted selection

/-- Only values that were written are noted. -/
theorem noted_subset_values (selection : Selection) : noted selection ⊆ values selection := by
  have kept : ∀ directives, Directive.valuesOf (Normal.keptDirectives directives) ⊆
      Directive.valuesOf directives :=
    fun directives => Directive.valuesOf_subset List.filter_sublist.subset
  induction selection using Selection.induction with
  | field head selections ih =>
    rw [noted, values, Field.values, notedOf_eq_flatMap, valuesOf_eq_flatMap]
    exact append_subset_append (append_subset_append (List.Subset.refl _) (kept _))
      (flatMap_subset ih)
  | spread head =>
    rw [noted, values]
    exact head.boundValues_subset
  | inline head selections ih =>
    rw [noted, values, notedOf_eq_flatMap, valuesOf_eq_flatMap]
    exact append_subset_append (kept _) (flatMap_subset ih)

end Selection

namespace Definition

variable {definition : Definition} {form : NormalForm}

theorem noted_subset (definition : Definition) : definition.noted ⊆ definition.values := by
  have kept : Normal.keptOnDefinition definition.directives ⊆ definition.directives :=
    List.Subset.trans List.filter_sublist.subset List.filter_sublist.subset
  unfold noted values
  rw [Selection.notedOf_eq_flatMap, Selection.valuesOf_eq_flatMap]
  exact append_subset_append (Directive.valuesOf_subset kept)
    (Selection.flatMap_subset fun selection _ => Selection.noted_subset_values selection)

variable (normal : definition.normalize = .ok form)

include normal

/-- The variables of a normal form are those that were noted, in order of first
appearance, and its values are among the noted ones. -/
theorem notes_of_normalize :
    form.variableNames = Tables.noteAll [] definition.noted ∧
      form.definition.values ⊆ definition.noted := by
  obtain ⟨selections, tables, run, same, _, names, _⟩ := exists_of_normalize normal
  constructor
  · rw [names, run.variableNames, Tables.variableNames_addDirectives, noted, Tables.noteAll_append]
    rfl
  · rw [same]
    exact append_subset_append (List.Subset.refl _) run.values_subset

/-- A slot of a normal form is found by its name. -/
theorem slot?_of_mem {slot : Slot} (member : slot ∈ form.slots) :
    form.slot? slot.name = some slot := by
  unfold NormalForm.slot?
  cases found : form.slots.find? (·.name = slot.name) with
  | none =>
    have unnamed := List.find?_eq_none.mp found slot member
    simp at unnamed
  | some other =>
    have named : other.name = slot.name := by
      simpa using List.find?_some found
    rw [List.inj_on_of_nodup_map (nodup_slots normal) (List.mem_of_find?_eq_some found) member
      named]

/-- What a slot of a normal form binds was noted. -/
theorem boundValues_of_slot {slot : Slot} (member : slot ∈ form.slots) {arguments : List Argument}
    (bound : slot.arguments = some arguments) : arguments.map (·.value) ⊆ definition.noted := by
  obtain ⟨_, contents⟩ := slots_of_normalize normal
  have content := contents slot.name
  rw [slot?_of_mem normal member, Option.map_some] at content
  obtain ⟨spread, isEntry, isContent⟩ := Option.map_eq_some_iff.mp content.symm
  have inSpreads : spread ∈ Selection.spreads definition.selections := by
    obtain ⟨front, back, split, -⟩ := List.lookup_eq_some_iff.mp isEntry
    rw [← Spread.entries_spreads [] (Selection.spreads definition.selections), split]
    simp
  have binds : spread.boundValues = arguments.map (·.value) := by
    have same : spread.bindings? = slot.arguments := congrArg Prod.snd isContent
    rw [Spread.boundValues, same, bound, Option.getD_some]
  intro value inArguments
  rw [← binds] at inArguments
  apply List.mem_append_right
  apply Selection.boundValues_subset_notedOf
  exact List.mem_flatMap.mpr ⟨spread, inSpreads, inArguments⟩

end Definition

end QueryTree
