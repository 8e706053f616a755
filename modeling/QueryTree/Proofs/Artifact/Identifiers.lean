import Mathlib.Data.List.Nodup
import Mathlib.Data.List.Pairwise
import QueryTree.Artifact.Embedding
import QueryTree.Proofs.Diagnostic.Success
import QueryTree.Proofs.Text.CamelCase

/-!
# Identifiers of embedded artifacts

Three identifiers are derived from the name of an artifact.  Among artifacts with
different constructors they are all different, except that the constants of a name
that begins with an underscore are capitalized like constructors.
-/

namespace QueryTree.Embedding

open Text (IsLettered)

/-- The identifiers that are declared for a definition. -/
def identifiers (definition : String) : List String :=
  [nodeConstant definition, argumentsConstant definition, constructorName definition]

/-- Whether a constant of one definition is the constructor of another: the constants
begin with a capital if the name begins with an underscore. -/
def Clash (definition other : String) : Prop :=
  definition.toList.head? = some '_' ∧
    (constructorName other = constructorName definition ++ "Node" ∨
      constructorName other = constructorName definition ++ "ArgumentDefinitions")

instance (definition other : String) : Decidable (Clash definition other) :=
  inferInstanceAs (Decidable (_ ∧ _))

/-! ## Two definitions -/

variable {definition other : String}

theorem nodeConstant_ne_argumentsConstant : nodeConstant definition ≠ argumentsConstant other := by
  intro same
  have texts := congrArg (fun text => text.toList.getLast?) same
  simp [nodeConstant, argumentsConstant, String.toList_append] at texts

theorem not_clash_self : ¬ Clash definition definition := by
  rintro ⟨_, same | same⟩
  · have lengths := congrArg String.length same
    simp at lengths
  · have lengths := congrArg String.length same
    simp at lengths

/-- A clash is an identifier in common. -/
theorem exists_of_clash (lettered : IsLettered definition) (clash : Clash definition other) :
    ∃ identifier ∈ identifiers definition, identifier ∈ identifiers other := by
  obtain ⟨begins, same⟩ := clash
  have capital : Text.lowerCamel definition = constructorName definition :=
    lettered.lowerCamel_of_underscore begins
  rcases same with same | same
  · refine ⟨nodeConstant definition, by simp [identifiers], ?_⟩
    simp [identifiers, nodeConstant, capital, same]
  · refine ⟨argumentsConstant definition, by simp [identifiers], ?_⟩
    simp [identifiers, argumentsConstant, capital, same]

section

variable (lettered : IsLettered definition) (otherLettered : IsLettered other)

include lettered otherLettered

/-- The constructors tell definitions with a common constant apart. -/
theorem constructorName_eq_of_append {suffix : String}
    (same : Text.lowerCamel definition ++ suffix = Text.lowerCamel other ++ suffix) :
    constructorName definition = constructorName other := by
  have texts := congrArg String.toList same
  rw [String.toList_append, String.toList_append] at texts
  have lower := String.toList_inj.mp (List.append_cancel_right texts)
  exact lettered.upperCamel_eq_of_lowerCamel_eq otherLettered lower

/-- A constant is a constructor only if it is capitalized like one. -/
theorem constructorName_of_append {suffix : String}
    (same : Text.lowerCamel definition ++ suffix = constructorName other) :
    definition.toList.head? = some '_' ∧
      constructorName other = constructorName definition ++ suffix := by
  have begins := lettered.underscore_of_append otherLettered same
  refine ⟨begins, ?_⟩
  rw [← same, lettered.lowerCamel_of_underscore begins]
  rfl

theorem clash_of_nodeConstant (same : nodeConstant definition = constructorName other) :
    Clash definition other :=
  (constructorName_of_append lettered otherLettered same).imp_right .inl

theorem clash_of_argumentsConstant (same : argumentsConstant definition = constructorName other) :
    Clash definition other :=
  (constructorName_of_append lettered otherLettered same).imp_right .inr

/-- Definitions with different constructors have an identifier in common only if they
clash. -/
theorem clash_of_common {identifier : String}
    (apart : constructorName definition ≠ constructorName other)
    (ofFirst : identifier ∈ identifiers definition) (ofOther : identifier ∈ identifiers other) :
    Clash definition other ∨ Clash other definition := by
  simp only [identifiers, List.mem_cons, List.not_mem_nil, or_false] at ofFirst ofOther
  rcases ofFirst with rfl | rfl | rfl
  · rcases ofOther with same | same | same
    · exact absurd (constructorName_eq_of_append lettered otherLettered same) apart
    · exact absurd same nodeConstant_ne_argumentsConstant
    · exact .inl (clash_of_nodeConstant lettered otherLettered same)
  · rcases ofOther with same | same | same
    · exact absurd same.symm nodeConstant_ne_argumentsConstant
    · exact absurd (constructorName_eq_of_append lettered otherLettered same) apart
    · exact .inl (clash_of_argumentsConstant lettered otherLettered same)
  · rcases ofOther with same | same | same
    · exact .inr (clash_of_nodeConstant otherLettered lettered same.symm)
    · exact .inr (clash_of_argumentsConstant otherLettered lettered same.symm)
    · exact absurd same apart

end

/-- The identifiers of one definition are different. -/
theorem nodup_identifiers (lettered : IsLettered definition) : (identifiers definition).Nodup := by
  have nodeApart : nodeConstant definition ≠ constructorName definition := by
    intro same
    exact not_clash_self (clash_of_nodeConstant lettered lettered same)
  have argumentsApart : argumentsConstant definition ≠ constructorName definition := by
    intro same
    exact not_clash_self (clash_of_argumentsConstant lettered lettered same)
  simp [identifiers, nodeConstant_ne_argumentsConstant, nodeApart, argumentsApart]

/-! ## Many definitions -/

variable {artifacts : List Artifact} {failure : Failure} {package : String}

/-- If all constructors are different, all identifiers are exactly if no two artifacts
clash. -/
theorem nodup_flatMap_identifiers_iff (lettered : ∀ artifact ∈ artifacts, IsLettered artifact.name)
    (distinct : (artifacts.map fun artifact => constructorName artifact.name).Nodup) :
    (artifacts.flatMap fun artifact => identifiers artifact.name).Nodup ↔
      ∀ artifact ∈ artifacts, ∀ other ∈ artifacts, ¬ Clash artifact.name other.name := by
  rw [List.nodup_flatMap]
  constructor
  · rintro ⟨_, disjoint⟩ artifact member other otherMember clash
    have apart : artifact ≠ other := by
      rintro rfl
      exact not_clash_self clash
    have symmetric : Std.Symm (Function.onFun List.Disjoint
        fun artifact : Artifact => identifiers artifact.name) :=
      ⟨fun _ _ separate _ ofOther ofFirst => separate ofFirst ofOther⟩
    have separate := disjoint.forall member otherMember apart
    obtain ⟨identifier, ofFirst, ofOther⟩ := exists_of_clash (lettered artifact member) clash
    exact separate ofFirst ofOther
  · intro noClash
    refine ⟨fun artifact member => nodup_identifiers (lettered artifact member), ?_⟩
    refine (List.pairwise_map.mp distinct).imp_of_mem ?_
    intro artifact other member otherMember apart identifier ofFirst ofOther
    rcases clash_of_common (lettered artifact member) (lettered other otherMember) apart ofFirst
      ofOther with clash | clash
    · exact noClash artifact member other otherMember clash
    · exact noClash other otherMember artifact member clash

/-! ## Files -/

/-- The report on two definitions with the same constructor. -/
def duplicate (first second : String) : Failure :=
  .ofMessage ("codegen: definitions " ++ first ++ " and " ++ second ++ " both generate " ++
    constructorName second)

/-- Whether a failure reports two of the artifacts, the one behind the other, whose
constructors are the same. -/
def ReportsDuplicate (artifacts : List Artifact) (failure : Failure) : Prop :=
  ∃ first second, [first, second].Sublist artifacts ∧
    constructorName first.name = constructorName second.name ∧
      failure = duplicate first.name second.name

/-- The definitions whose constructors are taken once some artifacts were written. -/
def takenBy (artifacts : List Artifact) : List (String × String) :=
  artifacts.map fun artifact => (constructorName artifact.name, artifact.name)

theorem lookup_takenBy {name previous : String}
    (found : (takenBy artifacts).lookup name = some previous) :
    ∃ artifact ∈ artifacts, artifact.name = previous ∧ constructorName artifact.name = name := by
  induction artifacts with
  | nil => cases found
  | cons artifact artifacts ih =>
    rw [takenBy, List.map_cons, List.lookup_cons] at found
    split at found
    next same =>
      cases found
      exact ⟨artifact, List.mem_cons_self, rfl, (beq_iff_eq.mp same).symm⟩
    next =>
      obtain ⟨other, inside, isOther⟩ := ih found
      exact ⟨other, List.mem_cons_of_mem _ inside, isOther⟩

/-- The parts of a file were written one by one, for artifacts with different
constructors. -/
theorem artifactTexts_ok {taken : List (String × String)} {parts : List String}
    (succeeded : artifactTexts taken artifacts = .ok parts) :
    List.Forall₂ (fun artifact part => artifactText artifact = .ok part) artifacts parts ∧
      (artifacts.map fun artifact => constructorName artifact.name).Nodup ∧
        ∀ artifact ∈ artifacts, taken.lookup (constructorName artifact.name) = none := by
  induction artifacts generalizing taken parts with
  | nil =>
    rw [artifactTexts] at succeeded
    cases succeeded
    exact ⟨.nil, .nil, by simp⟩
  | cons artifact artifacts ih =>
    rw [artifactTexts] at succeeded
    split at succeeded
    next => cases succeeded
    next free =>
      obtain ⟨first, isFirst, succeeded⟩ := exists_of_bind_eq_ok succeeded
      obtain ⟨others, areOthers, succeeded⟩ := exists_of_bind_eq_ok succeeded
      cases succeeded
      obtain ⟨related, distinct, unused⟩ := ih areOthers
      have apart : ∀ other ∈ artifacts,
          constructorName artifact.name ≠ constructorName other.name := by
        intro other member same
        have none := unused other member
        rw [same, List.lookup_cons_self] at none
        cases none
      refine ⟨.cons isFirst related, ?_, ?_⟩
      · rw [List.map_cons, List.nodup_cons]
        refine ⟨?_, distinct⟩
        intro member
        obtain ⟨other, inside, same⟩ := List.mem_map.mp member
        exact apart other inside same.symm
      · intro other member
        rcases List.mem_cons.mp member with rfl | inside
        · exact free
        · have none := unused other inside
          rw [List.lookup_cons] at none
          split at none
          · cases none
          · exact none

/-- No file is written because of an artifact that cannot be written, or of one whose
constructor is taken by an artifact before it. -/
theorem artifactTexts_error {written : List Artifact}
    (failed : artifactTexts (takenBy written) artifacts = .error failure) :
    (∃ artifact ∈ artifacts, artifactText artifact = .error failure) ∨
      ∃ first second, (first ∈ written ∧ second ∈ artifacts ∨ [first, second].Sublist artifacts) ∧
        constructorName first.name = constructorName second.name ∧
          failure = duplicate first.name second.name := by
  induction artifacts generalizing written with
  | nil => cases failed
  | cons artifact artifacts ih =>
    rw [artifactTexts] at failed
    split at failed
    next previous found =>
      cases failed
      obtain ⟨first, member, rfl, same⟩ := lookup_takenBy found
      exact .inr ⟨first, artifact, .inl ⟨member, List.mem_cons_self⟩, same, rfl⟩
    next =>
      rcases error_of_bind_eq_error failed with ofFirst | ⟨part, _, failed⟩
      · exact .inl ⟨artifact, List.mem_cons_self, ofFirst⟩
      · rcases error_of_bind_eq_error failed with ofOthers | ⟨parts, _, failed⟩
        · rcases ih (show artifactTexts (takenBy (artifact :: written)) artifacts = _ from
            ofOthers) with ⟨other, inside, unwritten⟩ | ⟨first, second, places, report⟩
          · exact .inl ⟨other, List.mem_cons_of_mem _ inside, unwritten⟩
          · refine .inr ⟨first, second, ?_, report⟩
            rcases places with ⟨member, inside⟩ | behind
            · rcases List.mem_cons.mp member with rfl | before
              · exact .inr (.cons_cons _ (List.singleton_sublist.mpr inside))
              · exact .inl ⟨before, List.mem_cons_of_mem _ inside⟩
            · exact .inr (.cons _ behind)
        · cases failed

theorem file_ok {text : String} (succeeded : file package artifacts = .ok text) :
    ∃ parts, artifactTexts [] artifacts = .ok parts ∧
      text = "// Code generated by cqir. DO NOT EDIT.\n\npackage " ++ package ++ "\n" ++
        (if parts.isEmpty then "" else imports) ++ String.join parts := by
  obtain ⟨parts, areParts, succeeded⟩ := exists_of_bind_eq_ok succeeded
  cases succeeded
  exact ⟨parts, areParts, rfl⟩

/-- A file is not written only if constructors are the same or an artifact cannot be
written. -/
theorem file_error (failed : file package artifacts = .error failure) :
    ReportsDuplicate artifacts failure ∨
      ∃ artifact ∈ artifacts, artifactText artifact = .error failure := by
  rcases error_of_bind_eq_error failed with failed | ⟨parts, _, failed⟩
  · rcases artifactTexts_error (show artifactTexts (takenBy []) artifacts = _ from failed) with
      unwritten | ⟨first, second, ⟨before, _⟩ | behind, report⟩
    · exact .inr unwritten
    · cases before
    · exact .inl ⟨first, second, behind, report⟩
  · cases failed

end QueryTree.Embedding
