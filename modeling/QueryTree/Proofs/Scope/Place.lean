import Mathlib.Data.List.TakeWhile
import QueryTree.Scope.Initializer

/-!
# Fragment names and places

A fragment name is a module, or a module and a property with an underscore between them.
A module has no underscores, so that a name has one place at most, and the default
property is not spelled out, so that a place has one name at most.
-/

namespace QueryTree.FragmentPlace

/-! ## Words -/

/-- The letters from `a` to `z` in either case. -/
def IsLetter (char : Char) : Prop := 'a' ≤ char ∧ char ≤ 'z' ∨ 'A' ≤ char ∧ char ≤ 'Z'

/-- The digits from `0` to `9`. -/
def IsDigit (char : Char) : Prop := '0' ≤ char ∧ char ≤ '9'

/-- Whether a text is a letter that is followed by characters of some kind. -/
def IsWord (continues : Char → Prop) (text : String) : Prop :=
  ∃ first rest, text.toList = first :: rest ∧ IsLetter first ∧ ∀ char ∈ rest, continues char

/-- Whether a text can be the name of a module. -/
def IsModule : String → Prop := IsWord fun char => IsLetter char ∨ IsDigit char

/-- Whether a text can be the name of a property. -/
def IsProperty : String → Prop := IsWord fun char => IsLetter char ∨ IsDigit char ∨ char = '_'

/-- Whether a name stands for a place. -/
def NamedBy (name : String) (place : FragmentPlace) : Prop :=
  IsModule place.module ∧
    (name = place.module ∧ place.property = "data" ∨
      name = place.module ++ "_" ++ place.property ∧ IsProperty place.property ∧
        place.property ≠ "data")

variable {char : Char} {chars : List Char}

theorem isLetter_iff : isLetter char = true ↔ IsLetter char := by
  unfold isLetter Char.isAlpha Char.isUpper Char.isLower
  simp only [IsLetter, Char.le_def, Bool.or_eq_true, Bool.and_eq_true, decide_eq_true_eq]
  exact or_comm

theorem isModuleChar_iff : isModuleChar char = true ↔ IsLetter char ∨ IsDigit char := by
  rw [← isLetter_iff]
  simp [isModuleChar, isLetter, IsDigit, Char.isAlphanum, Char.isDigit, Char.le_def]

theorem isPropertyChar_iff :
    isPropertyChar char = true ↔ IsLetter char ∨ IsDigit char ∨ char = '_' := by
  rw [← or_assoc, ← isModuleChar_iff]
  simp [isPropertyChar, isModuleChar, or_comm]

/-- A word is recognized by its first letter and by a test that all its characters pass. -/
theorem isWord_iff {continues : Char → Prop} {test : Char → Bool}
    (tests : ∀ char, test char = true ↔ continues char)
    (letters : ∀ char, IsLetter char → continues char) :
    IsWord continues (String.ofList chars) ↔
      startsWithLetter chars = true ∧ chars.all test = true := by
  rw [IsWord, String.toList_ofList]
  cases chars with
  | nil => simp [startsWithLetter]
  | cons first others =>
    simp only [startsWithLetter, List.all_cons, Bool.and_eq_true, isLetter_iff, tests,
      List.all_eq_true]
    constructor
    · rintro ⟨_, _, ⟨rfl, rfl⟩, isLetter, every⟩
      exact ⟨isLetter, letters _ isLetter, every⟩
    · rintro ⟨isLetter, _, every⟩
      exact ⟨first, others, rfl, isLetter, every⟩

theorem isModule_iff : IsModule (String.ofList chars) ↔
    startsWithLetter chars = true ∧ chars.all isModuleChar = true :=
  isWord_iff (fun _ => isModuleChar_iff) fun _ isLetter => .inl isLetter

theorem isProperty_iff : IsProperty (String.ofList chars) ↔
    startsWithLetter chars = true ∧ chars.all isPropertyChar = true :=
  isWord_iff (fun _ => isPropertyChar_iff) fun _ isLetter => .inl isLetter

/-! ## Places -/

variable {name module property : String} {place : FragmentPlace}

/-- A name without an underscore is a module. -/
theorem ofName?_module (isModule : IsModule module) :
    ofName? module = some ⟨module, "data"⟩ := by
  rw [← String.ofList_toList (s := module), isModule_iff] at isModule
  have taken : module.toList.takeWhile isModuleChar = module.toList :=
    List.takeWhile_eq_self_iff.mpr (List.all_eq_true.mp isModule.2)
  have dropped : module.toList.dropWhile isModuleChar = [] :=
    List.dropWhile_eq_nil_iff.mpr (List.all_eq_true.mp isModule.2)
  simp [ofName?, ofChars?, taken, dropped, isModule.1, defaultProperty]

/-- A name is split at its first underscore. -/
theorem ofName?_property (isModule : IsModule module) (isProperty : IsProperty property)
    (notDefault : property ≠ "data") :
    ofName? (module ++ "_" ++ property) = some ⟨module, property⟩ := by
  rw [← String.ofList_toList (s := module), isModule_iff] at isModule
  rw [← String.ofList_toList (s := property), isProperty_iff] at isProperty
  have chars : (module ++ "_" ++ property).toList = module.toList ++ '_' :: property.toList := by
    simp
  have taken : (module.toList ++ '_' :: property.toList).takeWhile isModuleChar =
      module.toList := by
    rw [List.takeWhile_append_of_pos (List.all_eq_true.mp isModule.2)]
    simp [isModuleChar]
  have dropped : (module.toList ++ '_' :: property.toList).dropWhile isModuleChar =
      '_' :: property.toList := by
    rw [List.dropWhile_append_of_pos (List.all_eq_true.mp isModule.2)]
    simp [isModuleChar]
  simp [ofName?, ofChars?, chars, taken, dropped, isModule.1, isProperty, defaultProperty,
    notDefault]

/-- The place of a name is one that the name stands for. -/
theorem namedBy_of_ofName? (found : ofName? name = some place) : NamedBy name place := by
  have split : name.toList.takeWhile isModuleChar ++ name.toList.dropWhile isModuleChar =
      name.toList := List.takeWhile_append_dropWhile
  have isModule : startsWithLetter (name.toList.takeWhile isModuleChar) = true →
      IsModule (String.ofList (name.toList.takeWhile isModuleChar)) := by
    intro starts
    exact isModule_iff.mpr ⟨starts, List.all_takeWhile⟩
  simp only [ofName?, ofChars?] at found
  split at found
  next starts =>
    split at found
    next isEmpty =>
      cases found
      refine ⟨isModule starts, .inl ⟨?_, rfl⟩⟩
      rw [isEmpty, List.append_nil] at split
      rw [split, String.ofList_toList]
    next property begins =>
      split at found
      next accepted =>
        cases found
        simp only [Bool.and_eq_true, decide_eq_true_eq] at accepted
        refine ⟨isModule starts, .inr ⟨?_, isProperty_iff.mpr accepted.1, accepted.2⟩⟩
        apply String.toList_inj.mp
        calc name.toList
          _ = name.toList.takeWhile isModuleChar ++ '_' :: property := by rw [← begins, split]
          _ = _ := by simp
      next => cases found
    next => cases found
  next => cases found

theorem ofName?_eq_some_iff : ofName? name = some place ↔ NamedBy name place := by
  constructor
  · exact namedBy_of_ofName?
  · obtain ⟨module, property⟩ := place
    rintro ⟨isModule, ⟨rfl, rfl⟩ | ⟨rfl, isProperty, notDefault⟩⟩
    · exact ofName?_module isModule
    · exact ofName?_property isModule isProperty notDefault

/-- A place has one name: the module alone stands for the default property, which no name
spells out. -/
theorem NamedBy.name_eq {other : String} (named : NamedBy name place)
    (otherNamed : NamedBy other place) : name = other := by
  obtain ⟨_, ⟨rfl, isDefault⟩ | ⟨rfl, _, notDefault⟩⟩ := named
  · obtain ⟨_, ⟨rfl, _⟩ | ⟨_, _, notDefault⟩⟩ := otherNamed
    · rfl
    · exact absurd isDefault notDefault
  · obtain ⟨_, ⟨_, isDefault⟩ | ⟨rfl, _, _⟩⟩ := otherNamed
    · exact absurd isDefault notDefault
    · rfl

/-- A fragment name has the place that it stands for, and it is refused if there is none.
It stands for one place at most, and no other name stands for that place. -/
theorem ofName_splits (name : String) :
    (∀ place, ofName name = .ok place ↔ NamedBy name place) ∧
    (∀ found, ofName name = .error found ↔
      found = .unplaced (.invalidFragmentName name) ∧ ∀ place, ¬ NamedBy name place) ∧
    (∀ place other, NamedBy name place → NamedBy name other → place = other) ∧
    ∀ other place, ofName name = .ok place → ofName other = .ok place → name = other := by
  have accepts (name : String) (place : FragmentPlace) :
      ofName name = .ok place ↔ NamedBy name place := by
    rw [← ofName?_eq_some_iff]
    unfold ofName
    cases ofName? name <;> simp
  refine ⟨accepts name, ?_, ?_, ?_⟩
  · intro found
    simp only [← ofName?_eq_some_iff]
    unfold ofName
    cases ofName? name <;> simp [eq_comm]
  · intro place other named otherNamed
    rw [← ofName?_eq_some_iff] at named otherNamed
    exact Option.some.inj (named.symm.trans otherNamed)
  · intro other place found otherFound
    exact ((accepts name place).mp found).name_eq ((accepts other place).mp otherFound)

example : ofName "Profile2_user_friends" = .ok ⟨"Profile2", "user_friends"⟩ := rfl

end QueryTree.FragmentPlace
