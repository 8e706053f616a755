import Mathlib.Data.List.Nodup
import QueryTree.Proofs.Document.Reads

/-!
# Definitions in the order of a source

Operations and fragments are kept apart while a source is read and put together
again by their positions.  Definitions that begin one after the other, such as those on
lines of their own, come back in the order in which they were read.
-/

namespace QueryTree

namespace Position

/-- Whether a position does not stand after another one. -/
def notAfter (left right : Position) : Bool := !right.precedes left

theorem notAfter_iff (left right : Position) : left.notAfter right = true ↔
    left.line < right.line ∨ left.line = right.line ∧ left.column ≤ right.column := by
  unfold notAfter precedes
  split
  next same => simp [same]
  next differs =>
    simp only [Bool.not_eq_true', decide_eq_false_iff_not]
    omega

theorem notAfter_trans (left middle right : Position) (first : left.notAfter middle = true)
    (second : middle.notAfter right = true) : left.notAfter right = true := by
  rw [notAfter_iff] at *
  omega

theorem notAfter_total (left right : Position) :
    (left.notAfter right || right.notAfter left) = true := by
  rw [Bool.or_eq_true, notAfter_iff, notAfter_iff]
  omega

theorem precedes_iff (left right : Position) : left.precedes right = true ↔
    left.line < right.line ∨ left.line = right.line ∧ left.column < right.column := by
  unfold precedes
  split
  next same => simp [same]
  next differs =>
    rw [decide_eq_true_eq]
    omega

/-- The line and the column of a position. -/
def place (position : Position) : Int × Int := (position.line, position.column)

variable {left right : Position}

theorem place_eq_of_notAfter (first : left.notAfter right = true)
    (second : right.notAfter left = true) : left.place = right.place := by
  rw [notAfter_iff] at *
  exact Prod.ext (by dsimp only [place]; omega) (by dsimp only [place]; omega)

theorem place_ne_of_precedes (before : left.precedes right = true) : left.place ≠ right.place := by
  intro same
  rw [place, place, Prod.mk.injEq] at same
  rw [precedes_iff] at before
  omega

theorem notAfter_of_precedes (before : left.precedes right = true) :
    left.notAfter right = true := by
  rw [notAfter_iff]
  rw [precedes_iff] at before
  omega

end Position

variable {definitions : List Definition}

/-- Definitions that begin one after the other are sorted as they were read. -/
theorem Document.definitions_ofDefinitions_of_precedes
    (ordered : definitions.Pairwise fun left right =>
      left.position.precedes right.position = true) :
    (Document.ofDefinitions definitions).definitions = definitions := by
  have distinct : (definitions.map fun definition => definition.position.place).Nodup :=
    List.pairwise_map.mpr (ordered.imp Position.place_ne_of_precedes)
  have sorted := List.pairwise_mergeSort
    (fun a b c => Position.notAfter_trans a.position b.position c.position)
    (fun a b => Position.notAfter_total a.position b.position)
    ((Document.ofDefinitions definitions).operations ++
      (Document.ofDefinitions definitions).fragments)
  have same : (Document.ofDefinitions definitions).definitions.Perm definitions :=
    (List.mergeSort_perm _ _).trans (List.filter_append_perm _ definitions)
  refine same.eq_of_pairwise (fun left right isLeft isRight before after => ?_) sorted
    (ordered.imp Position.notAfter_of_precedes)
  exact List.inj_on_of_nodup_map distinct (same.subset isLeft) isRight
    (Position.place_eq_of_notAfter before after)

/-- Definitions on lines of their own are sorted as they were read. -/
theorem Document.definitions_ofDefinitions
    (lines : definitions.Pairwise fun left right => left.position.line < right.position.line) :
    (Document.ofDefinitions definitions).definitions = definitions :=
  definitions_ofDefinitions_of_precedes
    (lines.imp fun before => (Position.precedes_iff _ _).mpr (.inl before))

end QueryTree
