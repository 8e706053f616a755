import QueryTree.Compile.Cache
import QueryTree.Proofs.Compile.Stripped
import QueryTree.Proofs.Document.CanonicalStripped

/-!
# The text of a key determines the artifact

Requests with the same key text ask for the same artifact: the text tells the
definition up to its positions, whether it is validated, and how each fragment is
bound.
-/

namespace QueryTree

namespace Cache

variable {others rest : List Char} {left right : Scope}

theorem boolText_append_inj {left right : Bool}
    (equal : (boolText left).toList ++ rest = (boolText right).toList ++ others) :
    left = right ∧ rest = others := by
  cases left <;> cases right <;> simp_all [boolText]

theorem Binding.text_append_inj {left right : Binding}
    (equal : left.text.toList ++ rest = right.text.toList ++ others) :
    left = right ∧ rest = others := by
  cases left <;> cases right <;> simp_all [Binding.text]

/-- How a name is bound can be read from the text of its binding. -/
theorem bindingText_append_inj {name : String}
    (equal : (bindingText left name).toList ++ rest = (bindingText right name).toList ++ others) :
    left.binding? name = right.binding? name ∧ rest = others := by
  simp only [bindingText, String.toList_append, List.append_assoc, List.append_cancel_left_eq]
    at equal
  obtain ⟨sameBound, afterBound⟩ := boolText_append_inj equal
  obtain ⟨sameBinding, same⟩ := Binding.text_append_inj (List.append_cancel_left afterBound)
  refine ⟨?_, same⟩
  cases leftFound : left.binding? name with
  | none =>
    cases rightFound : right.binding? name with
    | none => rfl
    | some => simp [leftFound, rightFound] at sameBound
  | some =>
    cases rightFound : right.binding? name with
    | none => simp [leftFound, rightFound] at sameBound
    | some => simpa [leftFound, rightFound] using sameBinding

/-- How the fragment of a slot is bound can be read from the text of the slot. -/
theorem slotText_append_inj {slot other : Slot} (sameFragment : slot.fragment = other.fragment)
    (equal : (slotText left slot).toList ++ rest = (slotText right other).toList ++ others) :
    left.Alike right slot.fragment ∧ rest = others := by
  unfold slotText at equal
  rw [← sameFragment] at equal
  cases found : FragmentPlace.ofName? slot.fragment with
  | none =>
    rw [found] at equal
    refine ⟨fun place other => ?_, equal⟩
    rw [found] at other
    cases other
  | some place =>
    rw [found] at equal
    simp only [String.toList_append, List.append_assoc] at equal
    obtain ⟨sameModule, afterModule⟩ := bindingText_append_inj equal
    obtain ⟨sameProperty, same⟩ := bindingText_append_inj afterModule
    refine ⟨fun other isPlace => ?_, same⟩
    cases found.symm.trans isPlace
    exact ⟨sameModule, sameProperty⟩

theorem slotTexts_inj {slots others : List Slot}
    (sameSlots : slots.map Slot.stripped = others.map Slot.stripped)
    (equal : (String.join (slots.map (slotText left))).toList =
      (String.join (others.map (slotText right))).toList) :
    ∀ slot ∈ slots, left.Alike right slot.fragment := by
  induction slots generalizing others with
  | nil =>
    intro slot member
    cases member
  | cons first slots ih =>
    cases others with
    | nil => cases sameSlots
    | cons other others =>
      simp only [List.map_cons, List.cons.injEq] at sameSlots
      simp only [List.map_cons, String.join_cons, String.toList_append] at equal
      obtain ⟨alike, afterFirst⟩ := slotText_append_inj (congrArg Slot.fragment sameSlots.1) equal
      intro slot member
      rcases List.mem_cons.mp member with rfl | member
      · exact alike
      · exact ih sameSlots.2 afterFirst slot member

/-- Requests with the same key text have the same artifact. -/
theorem compileNormal_eq_of_keyText_eq (compiler : Compiler) {left right : Definition}
    {leftForm rightForm : NormalForm} {leftScope rightScope : Scope}
    {leftValidation rightValidation : Bool} {artifact : Artifact}
    (leftRead : left.IsRead) (rightRead : right.IsRead)
    (leftNormal : left.normalize = .ok leftForm) (rightNormal : right.normalize = .ok rightForm)
    (sameText : keyText left leftForm leftScope leftValidation =
      keyText right rightForm rightScope rightValidation)
    (compiled : compiler.compileNormal left leftForm leftScope leftValidation = .ok artifact) :
    compiler.compileNormal right rightForm rightScope rightValidation = .ok artifact := by
  have characters := congrArg String.toList sameText
  simp only [keyText, String.toList_append, List.append_assoc] at characters
  obtain ⟨sameDefinition, afterDefinition⟩ := leftRead.canonical_append_inj rightRead characters
  obtain ⟨sameValidation, sameSlotTexts⟩ :=
    boolText_append_inj (List.append_cancel_left afterDefinition)
  subst sameValidation
  have sameForm : leftForm.stripped = rightForm.stripped := by
    have leftStripped := left.normalize_stripped
    have rightStripped := right.normalize_stripped
    rw [leftNormal] at leftStripped
    rw [rightNormal, ← sameDefinition] at rightStripped
    revert leftStripped rightStripped
    generalize left.stripped.normalize = result
    rintro (leftEqual | _) (rightEqual | _)
    rw [← leftEqual, ← rightEqual]
  have alike := slotTexts_inj (congrArg NormalForm.slots sameForm) sameSlotTexts
  rw [compiler.compileNormal_congr left leftValidation alike] at compiled
  have leftAgrees := compiler.compileNormal_stripped left leftForm rightScope leftValidation
  have rightAgrees := compiler.compileNormal_stripped right rightForm rightScope leftValidation
  rw [sameDefinition, sameForm] at leftAgrees
  exact (leftAgrees.trans rightAgrees.symm).eq_ok compiled

end Cache

end QueryTree
