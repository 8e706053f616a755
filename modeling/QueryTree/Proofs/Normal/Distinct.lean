import Mathlib.Data.List.Nodup
import QueryTree.Proofs.Normal.Slots

/-!
# Slot names are distinct

A slot is noted once: no two slots of a normal form have the same name, and their names
are those of the spreads in the normalized selections.
-/

namespace QueryTree

namespace Tables

/-- The names of the slots so far. -/
def slotNames (tables : Tables) : List String := tables.slots.map (·.name)

theorem slotNames_addSlot (tables : Tables) (slot : Slot) :
    (tables.addSlot slot).slotNames =
      if slot.name ∈ tables.slotNames then tables.slotNames
      else tables.slotNames ++ [slot.name] := by
  have known : tables.slots.any (·.name = slot.name) = true ↔ slot.name ∈ tables.slotNames := by
    simp [slotNames]
  unfold addSlot
  by_cases member : slot.name ∈ tables.slotNames
  · rw [if_pos (known.mpr member), if_pos member, slotNames, slotNames, List.map_map]
    refine List.map_congr_left fun known _ => ?_
    simp only [Function.comp_apply]
    split <;> rfl
  · rw [if_neg (mt known.mp member), if_neg member, slotNames, slotNames, List.map_append]
    rfl

/-- All that a spread leaves in the tables is its slot, apart from variables and
counts. -/
theorem slots_addSpread {tables next : Tables} {spread : Spread} {slot : Slot}
    (added : Normal.addSpread spread tables = .ok (slot, next)) :
    next.slots = (tables.addSlot slot).slots := by
  have congr {left right : Tables} (same : left.slots = right.slots) :
      (left.addSlot slot).slots = (right.addSlot slot).slots := by
    unfold addSlot
    rw [same]
    split <;> rfl
  obtain ⟨mode, _, added⟩ := exists_of_bind_eq_ok added
  cases mode with
  | plain masked =>
    cases added
    rfl
  | bound arguments =>
    cases added
    exact congr (addArguments_slots_counts tables arguments).1

theorem tracks_nodup : Tracks fun tables _ _ => tables.slotNames.Nodup where
  arguments arguments distinct := by
    rw [slotNames, (addArguments_slots_counts _ arguments).1]
    exact distinct
  spread {tables next _ _ _ slot} distinct added := by
    have names : next.slotNames = (tables.addSlot slot).slotNames := by
      rw [slotNames, slots_addSpread added, slotNames]
    rw [names, slotNames_addSlot]
    split
    next => exact distinct
    next unknown =>
      rw [← List.concat_eq_append]
      exact (List.nodup_concat _ _).mpr ⟨unknown, distinct⟩

end Tables

namespace Definition

variable {definition : Definition} {form : NormalForm} (normal : definition.normalize = .ok form)

include normal

/-- No two slots of a normal form have the same name. -/
theorem nodup_slots : (form.slots.map (·.name)).Nodup := by
  obtain ⟨tables, distinct, slots⟩ := tracked_of_normalize Tables.tracks_nodup List.nodup_nil normal
  rw [slots]
  exact distinct

/-- The slots of a normal form are those that its selections refer to. -/
theorem mem_slots (name : String) :
    name ∈ form.slots.map (·.name) ↔
      name ∈ (Selection.spreads form.definition.selections).map (·.name) := by
  obtain ⟨names, contents⟩ := slots_of_normalize normal
  have found : (form.slot? name).isSome =
      ((Spread.entries [] (Selection.spreads definition.selections)).lookup name).isSome := by
    rw [← Option.isSome_map, contents, Option.isSome_map]
  calc name ∈ form.slots.map (·.name)
      ↔ (form.slot? name).isSome = true := by simp [NormalForm.slot?]
    _ ↔ ∃ entry ∈ Spread.entries [] (Selection.spreads definition.selections),
          (name == entry.1) = true := by rw [found, List.lookup_isSome_iff]
    _ ↔ name ∈ (Selection.spreads form.definition.selections).map (·.name) := by
        simp only [names, List.mem_map, beq_iff_eq, eq_comm (a := name)]

theorem kind_normalize : form.definition.kind = definition.kind := by
  obtain ⟨_, _, _, same, _⟩ := exists_of_normalize normal
  rw [same]

/-- Directives that are not dropped are found as before. -/
theorem find?_normalize {name : String}
    (kept : name ≠ connectionName ∧ name ≠ argumentDefinitionsName) :
    Directive.find? name form.definition.directives =
      Directive.find? name definition.directives := by
  obtain ⟨_, _, _, same, _⟩ := exists_of_normalize normal
  rw [same]
  unfold Directive.find? Normal.keptOnDefinition Normal.keptDirectives
  rw [List.find?_filter, List.find?_filter]
  congr 1
  funext directive
  by_cases named : directive.name = name
  · simp [named, kept]
  · simp [named]

end Definition

end QueryTree
