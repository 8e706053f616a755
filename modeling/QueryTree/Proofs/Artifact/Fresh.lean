import Mathlib.Data.Nat.Init
import QueryTree.Proofs.Artifact.Identifiers

/-!
# Local variables of constructors

The variable for a slot is named after the slot.  If the name is taken, numbers are tried
from two on.  There are fewer names that are taken than numbers, so that the search comes to
an end, and it ends with the least number that is free.  No two slots have the same
variable, and no variable is named like a constant.
-/

namespace QueryTree.Embedding

/-! ## Searching for a name -/

/-- The search for a name that is not taken tries one choice after the other, here from one
choice up to the last. -/
inductive Search (base : String) (taken : List String) : Nat → Nat → Prop where
  | found {index : Nat} (isFree : candidate base index ∉ taken) : Search base taken index index
  | next {index last : Nat} (isTaken : candidate base index ∈ taken)
      (rest : Search base taken (index + 1) last) : Search base taken index last

/-- Whether a name is the first one that is free: the base itself or, if that is taken, the
base with the least number from two on. -/
def IsFirstFree (base : String) (taken : List String) (name : String) : Prop :=
  name ∉ taken ∧
    (name = base ∨ base ∈ taken ∧ ∃ number, 2 ≤ number ∧ name = base ++ toString number ∧
      ∀ smaller, 2 ≤ smaller → smaller < number → base ++ toString smaller ∈ taken)

variable {base name : String} {taken : List String} {index last : Nat}

theorem candidate_zero : candidate base 0 = base := rfl

theorem candidate_succ : candidate base (index + 1) = base ++ toString (index + 2) := rfl

theorem candidate_ne_base : candidate base (index + 1) ≠ base := by
  intro same
  rw [candidate_succ, Nat.toString_eq_repr] at same
  simp at same

/-- All choices for a name are different. -/
theorem candidate_injective (base : String) : Function.Injective (candidate base) := by
  intro left right same
  cases left with
  | zero =>
    cases right with
    | zero => rfl
    | succ right => exact absurd same.symm candidate_ne_base
  | succ left =>
    cases right with
    | zero => exact absurd same candidate_ne_base
    | succ right =>
      rw [candidate_succ, candidate_succ, String.append_right_inj] at same
      have digits := congrArg (fun text => Nat.ofDigitChars 10 text.toList 0) same
      simp only [Nat.toString_eq_repr, Nat.toList_repr,
        Nat.ofDigitChars_toDigits (b := 10) (by decide) (by decide)] at digits
      omega

/-- More choices than there are names that are taken cannot all be taken. -/
theorem exists_free (base : String) (taken : List String) :
    ∃ index ≤ taken.length, candidate base index ∉ taken := by
  by_contra none
  have distinct : ((List.range (taken.length + 1)).map (candidate base)).Nodup :=
    List.nodup_range.map (candidate_injective base)
  have isTaken : (List.range (taken.length + 1)).map (candidate base) ⊆ taken := by
    intro name member
    obtain ⟨index, inRange, rfl⟩ := List.mem_map.mp member
    by_contra isFree
    exact none ⟨index, Nat.le_of_lt_succ (List.mem_range.mp inRange), isFree⟩
  have few := distinct.length_le_of_subset isTaken
  rw [List.length_map, List.length_range] at few
  omega

/-- The name that is chosen is free, and all choices before it are taken. -/
theorem freshName_eq (base : String) (taken : List String) :
    ∃ last ≤ taken.length, freshName base taken = candidate base last ∧
      candidate base last ∉ taken ∧ ∀ index < last, candidate base index ∈ taken := by
  have found : ((List.range (taken.length + 1)).find?
      fun index => !taken.contains (candidate base index)).isSome = true := by
    obtain ⟨index, within, isFree⟩ := exists_free base taken
    rw [List.find?_isSome]
    exact ⟨index, List.mem_range.mpr (Nat.lt_succ_of_le within), by simpa using isFree⟩
  obtain ⟨last, isLast⟩ := Option.isSome_iff_exists.mp found
  obtain ⟨isFree, within, before⟩ := List.find?_range_eq_some.mp isLast
  refine ⟨last, Nat.le_of_lt_succ (List.mem_range.mp within), ?_, by simpa using isFree, ?_⟩
  · rw [freshName, List.find?_map]
    change (((List.range (taken.length + 1)).find?
      fun index => !taken.contains (candidate base index)).map (candidate base)).getD base = _
    rw [isLast]
    rfl
  · intro index isBefore
    simpa using before index isBefore

/-- The search ends at the first choice that is free. -/
theorem search_of_first (isFree : candidate base last ∉ taken) (within : index ≤ last)
    (before : ∀ other, index ≤ other → other < last → candidate base other ∈ taken) :
    Search base taken index last := by
  induction within using Nat.decreasingInduction with
  | self => exact .found isFree
  | of_succ index isBefore ih =>
    apply Search.next (before index (Nat.le_refl index) isBefore)
    apply ih
    intro other behind
    exact before other (Nat.le_of_succ_le behind)

theorem isFirstFree_of_first (isFree : candidate base last ∉ taken)
    (before : ∀ other < last, candidate base other ∈ taken) :
    IsFirstFree base taken (candidate base last) := by
  refine ⟨isFree, ?_⟩
  cases last with
  | zero => exact .inl rfl
  | succ last =>
    refine .inr ⟨before 0 (Nat.succ_pos last), last + 2, by omega, rfl, ?_⟩
    intro smaller fromTwo isSmaller
    have isTaken := before (smaller - 1) (by omega)
    obtain ⟨other, rfl⟩ : ∃ other, smaller = other + 2 := ⟨smaller - 2, by omega⟩
    exact isTaken

/-! ## Variables for slots -/

/-- Whether the search for the variable of a slot comes to an end, after as many choices as
are taken at most, and gives a name: the first one that is free. -/
structure IsSlotVariable (slot : String) (taken : List String) (name : String) : Prop where
  ends : ∃ last ≤ taken.length, Search (Text.lowerCamel slot ++ "Slot") taken 0 last ∧
    name = candidate (Text.lowerCamel slot ++ "Slot") last
  first : IsFirstFree (Text.lowerCamel slot ++ "Slot") taken name

theorem isSlotVariable_slotVariable (slot : String) (taken : List String) :
    IsSlotVariable slot taken (slotVariable slot taken) := by
  obtain ⟨last, within, chosen, isFree, before⟩ :=
    freshName_eq (Text.lowerCamel slot ++ "Slot") taken
  rw [slotVariable, chosen]
  constructor
  · exact ⟨last, within, search_of_first isFree (Nat.zero_le last) fun other _ => before other, rfl⟩
  · exact isFirstFree_of_first isFree before

variable {slot : String} {slots : List String}

theorem length_slotVariables (taken slots : List String) :
    (slotVariables taken slots).length = slots.length := by
  induction slots generalizing taken with
  | nil => rfl
  | cons slot slots ih => simp [slotVariables, ih]

/-- For each slot, the variables of those before it are taken, too. -/
theorem getElem?_slotVariables (isSlot : slots[index]? = some slot) :
    (slotVariables taken slots)[index]? =
      some (slotVariable slot (((slotVariables taken slots).take index).reverse ++ taken)) := by
  induction slots generalizing taken index with
  | nil => simp at isSlot
  | cons first slots ih =>
    cases index with
    | zero =>
      obtain rfl : first = slot := by simpa using isSlot
      rfl
    | succ index =>
      rw [List.getElem?_cons_succ] at isSlot
      simp [slotVariables, ih isSlot]

theorem slotVariables_notMem (taken slots : List String) :
    ∀ name ∈ slotVariables taken slots, name ∉ taken := by
  induction slots generalizing taken with
  | nil => simp [slotVariables]
  | cons slot slots ih =>
    intro name member
    rw [slotVariables, List.mem_cons] at member
    rcases member with rfl | isOther
    · exact (isSlotVariable_slotVariable slot taken).first.1
    · intro isTaken
      exact ih _ name isOther (List.mem_cons_of_mem _ isTaken)

theorem nodup_slotVariables (taken slots : List String) : (slotVariables taken slots).Nodup := by
  induction slots generalizing taken with
  | nil => simp [slotVariables]
  | cons slot slots ih =>
    rw [slotVariables, List.nodup_cons]
    constructor
    · intro again
      exact slotVariables_notMem _ slots _ again List.mem_cons_self
    · exact ih _

/-- The variable of a slot ends in a letter `t` or in a digit. -/
theorem candidate_ne_append {front other suffix : String} {final : Char}
    (ends : suffix.toList.getLast? = some final) (notLetter : final ≠ 't')
    (notDigit : final.isDigit = false) :
    candidate (front ++ "Slot") index ≠ other ++ suffix := by
  intro same
  have finals := congrArg (fun text => text.toList.getLast?) same
  rw [String.toList_append, List.getLast?_append, ends, Option.some_or] at finals
  cases index with
  | zero =>
    rw [candidate_zero, String.toList_append, List.getLast?_append] at finals
    exact notLetter (Option.some.inj finals).symm
  | succ index =>
    rw [candidate_succ, String.toList_append, List.getLast?_append, Nat.toString_eq_repr,
      Nat.toList_repr, List.getLast?_eq_some_getLast Nat.toDigits_ne_nil, Option.some_or] at finals
    have digit : final.isDigit = true := by
      rw [← Option.some.inj finals]
      exact Nat.isDigit_of_mem_toDigits (by decide) (by decide) (List.getLast_mem _)
    rw [notDigit] at digit
    cases digit

/-- A variable is one of the choices for its slot. -/
theorem exists_of_mem_slotVariables (member : name ∈ slotVariables taken slots) :
    ∃ slot index, name = candidate (Text.lowerCamel slot ++ "Slot") index := by
  induction slots generalizing taken with
  | nil => cases member
  | cons slot slots ih =>
    rcases List.mem_cons.mp member with rfl | isOther
    · obtain ⟨last, _, _, chosen⟩ := (isSlotVariable_slotVariable slot taken).ends
      exact ⟨slot, last, chosen⟩
    · exact ih isOther

theorem slotVariables_ne_append {other suffix : String} {final : Char}
    (ends : suffix.toList.getLast? = some final) (notLetter : final ≠ 't')
    (notDigit : final.isDigit = false) (taken slots : List String) :
    other ++ suffix ∉ slotVariables taken slots := by
  intro member
  obtain ⟨slot, index, chosen⟩ := exists_of_mem_slotVariables member
  exact candidate_ne_append ends notLetter notDigit chosen.symm

/-- Slots have variables one by one: for each of them the search ends, with the first name
that is neither taken nor the variable of a slot before it.  All of them are different, and
none is a constant of any definition. -/
theorem slotVariables_fresh (taken slots : List String) :
    (slotVariables taken slots).length = slots.length ∧
    (∀ index slot, slots[index]? = some slot →
      (slotVariables taken slots)[index]? =
          some (slotVariable slot (((slotVariables taken slots).take index).reverse ++ taken)) ∧
        IsSlotVariable slot (((slotVariables taken slots).take index).reverse ++ taken)
          (slotVariable slot (((slotVariables taken slots).take index).reverse ++ taken))) ∧
    (slotVariables taken slots).Nodup ∧
    (∀ name ∈ slotVariables taken slots, name ∉ taken) ∧
    ∀ definition, nodeConstant definition ∉ slotVariables taken slots ∧
      argumentsConstant definition ∉ slotVariables taken slots := by
  refine ⟨length_slotVariables taken slots, ?_, nodup_slotVariables taken slots,
    slotVariables_notMem taken slots, ?_⟩
  · intro index slot isSlot
    exact ⟨getElem?_slotVariables isSlot, isSlotVariable_slotVariable slot _⟩
  · intro definition
    have nodeEnds : "Node".toList.getLast? = some 'e' := rfl
    have argumentsEnds : "ArgumentDefinitions".toList.getLast? = some 's' := rfl
    constructor
    · exact slotVariables_ne_append nodeEnds (by decide) rfl taken slots
    · exact slotVariables_ne_append argumentsEnds (by decide) rfl taken slots

example : slotVariables [] ["Profile_user", "ProfileUser", "profileUser_slot2", "profileUser"] =
    ["profileUserSlot", "profileUserSlot2", "profileUserSlot2Slot", "profileUserSlot3"] := by
  decide +kernel

end QueryTree.Embedding
