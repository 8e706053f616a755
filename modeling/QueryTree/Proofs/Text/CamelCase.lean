import QueryTree.Proofs.Language.WellFormed
import QueryTree.Text.CamelCase

/-!
# Names in camel case

The two camel cases of a name differ in their first letter at most.  A name that
begins with a letter begins in lower case in one of them; the underscores at the
beginning of any other name are dropped like separators, and the letter after them is
a capital in both.
-/

namespace QueryTree.Text

/-! ## Letters -/

variable {character letter : Char} {chars : List Char}

/-- What holds of the characters with a small code holds of a character that has one. -/
theorem holds_of_small (property : Char → Prop) (small : character.toNat < 128)
    (each : ∀ code < 128, property (Char.ofNat code)) : property character := by
  have holds := each character.toNat small
  rwa [Char.ofNat_toNat] at holds

theorem isAlphanum_of_isUpper (isUpper : letter.isUpper = true) : letter.isAlphanum = true := by
  change ((letter.isUpper || letter.isLower) || letter.isDigit) = true
  rw [isUpper, Bool.true_or, Bool.true_or]

theorem isAlpha_of_isLower (isLower : letter.isLower = true) : letter.isAlpha = true := by
  change (letter.isUpper || letter.isLower) = true
  rw [isLower, Bool.or_true]

theorem small_of_isAlphanum (alphanumeric : character.isAlphanum = true) :
    character.toNat < 128 := by
  change ((decide (65 ≤ character.val ∧ character.val ≤ 90) ||
    (decide (97 ≤ character.val) && decide (character.val ≤ 122))) ||
      (decide (48 ≤ character.val) && decide (character.val ≤ 57))) = true at alphanumeric
  simp only [Bool.or_eq_true, Bool.and_eq_true, decide_eq_true_eq, UInt32.le_iff_toNat_le]
    at alphanumeric
  change ((65 ≤ character.toNat ∧ character.toNat ≤ 90) ∨
    (97 ≤ character.toNat ∧ character.toNat ≤ 122)) ∨
      (48 ≤ character.toNat ∧ character.toNat ≤ 57) at alphanumeric
  omega

/-- The two cases of a letter. -/
structure Cases (letter : Char) : Prop where
  upper : letter.toUpper.isUpper = true
  lower : letter.toLower.isLower = true
  upperOfLower : letter.toLower.toUpper = letter.toUpper
  upperOfUpper : letter.toUpper.toUpper = letter.toUpper

theorem cases_of_isAlpha (isLetter : letter.isAlpha = true) : Cases letter := by
  have small : letter.toNat < 128 :=
    small_of_isAlphanum (by rw [Char.isAlphanum, isLetter, Bool.true_or])
  have facts := holds_of_small (fun letter => letter.isAlpha = true →
    letter.toUpper.isUpper = true ∧ letter.toLower.isLower = true ∧
      letter.toLower.toUpper = letter.toUpper ∧ letter.toUpper.toUpper = letter.toUpper) small
        (by decide +kernel)
  obtain ⟨upper, lower, upperOfLower, upperOfUpper⟩ := facts isLetter
  exact ⟨upper, lower, upperOfLower, upperOfUpper⟩

theorem not_isLower_of_isUpper (isUpper : letter.isUpper = true) : ¬ letter.isLower = true := by
  have small : letter.toNat < 128 := small_of_isAlphanum (isAlphanum_of_isUpper isUpper)
  refine holds_of_small (fun letter => letter.isUpper = true → ¬ letter.isLower = true) small ?_
    isUpper
  decide +kernel

/-! ## Characters of a name -/

theorem isSpace_of_isNameRest (isRest : Lexer.isNameRest character = true) :
    isSpace character = false := by
  have small : character.toNat < 128 := by
    rw [Lexer.isNameRest, Bool.or_eq_true, beq_iff_eq] at isRest
    rcases isRest with alphanumeric | rfl
    · exact small_of_isAlphanum alphanumeric
    · decide
  refine holds_of_small (fun character => Lexer.isNameRest character = true →
    isSpace character = false) small ?_ isRest
  decide +kernel

theorem dropWhile_isSpace (areRest : chars.all Lexer.isNameRest = true) :
    chars.dropWhile isSpace = chars := by
  cases chars with
  | nil => rfl
  | cons first rest =>
    rw [List.all_cons, Bool.and_eq_true] at areRest
    simp [isSpace_of_isNameRest areRest.1]

theorem trimSpace_eq_self (areRest : chars.all Lexer.isNameRest = true) :
    trimSpace chars = chars := by
  rw [trimSpace, dropWhile_isSpace areRest, dropWhile_isSpace (by rwa [List.all_reverse]),
    List.reverse_reverse]

/-- Only `ID` counts as another word. -/
theorem nameChars_of_isName {name : String} (isName : IsName name) :
    nameChars name = if name.toList = ['I', 'D'] then ['i', 'd'] else name.toList := by
  rw [nameChars, trimSpace_eq_self (isName.all)]

/-! ## Camel case -/

theorem joinParts_letter {capital : Bool} (isLetter : letter.isAlpha = true) (rest : List Char) :
    joinParts capital (letter :: rest) =
      (if capital then letter.toUpper else letter) :: joinParts false rest := by
  rw [joinParts, if_pos isLetter]

/-- Underscores before a letter make it a capital. -/
theorem joinParts_of_dropWhile {rest : List Char} (isLetter : letter.isAlpha = true)
    (dropped : chars.dropWhile (· = '_') = letter :: rest) :
    joinParts true chars = letter.toUpper :: joinParts false rest := by
  induction chars with
  | nil => cases dropped
  | cons first chars ih =>
    by_cases line : first = '_'
    · subst line
      have skipped : joinParts true ('_' :: chars) = joinParts true chars := by
        rw [joinParts]
        rfl
      rw [skipped]
      exact ih dropped
    · have stays : (first :: chars).dropWhile (· = '_') = first :: chars := by simp [line]
      rw [stays] at dropped
      cases dropped
      rw [joinParts_letter isLetter]
      rfl

theorem isAlphanum_joinParts (capital : Bool) (chars : List Char) :
    (joinParts capital chars).all Char.isAlphanum = true := by
  induction chars generalizing capital with
  | nil => rfl
  | cons char rest ih =>
    rw [joinParts]
    split
    next isLetter =>
      rw [List.all_cons, ih, Bool.and_true]
      split
      · exact isAlphanum_of_isUpper (cases_of_isAlpha isLetter).upper
      · rw [Char.isAlphanum, isLetter, Bool.true_or]
    next =>
      split
      next isDigit =>
        rw [List.all_cons, ih, Bool.and_true, Char.isAlphanum, isDigit, Bool.or_true]
      next => exact ih _

theorem isAlphanum_upperCamel (name : String) :
    (upperCamel name).toList.all Char.isAlphanum = true := by
  rw [upperCamel, String.toList_ofList]
  exact isAlphanum_joinParts _ _

theorem isAlphanum_lowerCamel (name : String) :
    (lowerCamel name).toList.all Char.isAlphanum = true := by
  unfold lowerCamel
  split
  · rfl
  · rw [String.toList_ofList]
    exact isAlphanum_joinParts _ _

/-- Whether a text is a name whose first character beside underscores is a letter. -/
def IsLettered (name : String) : Prop :=
  IsName name ∧ (name.toList.dropWhile (· = '_')).head?.any Char.isAlpha = true

instance (name : String) : Decidable (IsLettered name) :=
  inferInstanceAs (Decidable (_ ∧ _))

/-- How a name is brought into camel case. -/
inductive Camel (name : String) : Prop where
  /-- A name that begins with a letter has a form for either case. -/
  | letter {first : Char} {rest : List Char} (isLetter : first.isAlpha = true)
      (begins : name.toList.head? ≠ some '_')
      (upper : (upperCamel name).toList = first.toUpper :: rest)
      (lower : (lowerCamel name).toList = first.toLower :: rest)
  /-- Any other name has one form, which begins with a capital. -/
  | underscore {first : Char} {rest : List Char} (isLetter : first.isAlpha = true)
      (begins : name.toList.head? = some '_')
      (upper : (upperCamel name).toList = first.toUpper :: rest)
      (same : lowerCamel name = upperCamel name)

namespace IsLettered

variable {name : String} (lettered : IsLettered name)

include lettered

theorem camel : Camel name := by
  obtain ⟨isName, after⟩ := lettered
  obtain ⟨first, rest, characters, starts, _⟩ := isName.exists_cons
  have chars := nameChars_of_isName isName
  rw [Lexer.isNameStart, Bool.or_eq_true, beq_iff_eq] at starts
  rcases starts with isLetter | rfl
  · have begins : name.toList.head? ≠ some '_' := by
      rw [characters]
      rintro found
      cases found
      cases isLetter
    -- The one word that is written differently begins with a letter, too.
    obtain ⟨letter, others, isLetter, chars⟩ : ∃ letter others, letter.isAlpha = true ∧
        nameChars name = letter :: others := by
      rw [chars]
      split
      · exact ⟨'i', ['d'], rfl, rfl⟩
      · exact ⟨first, rest, isLetter, characters⟩
    apply Camel.letter isLetter begins
    · rw [upperCamel, chars, String.toList_ofList, joinParts_letter isLetter]
      rfl
    · simp only [lowerCamel, chars, String.toList_ofList]
      rw [joinParts_letter (isAlpha_of_isLower (cases_of_isAlpha isLetter).lower)]
      rfl
  · have chars : nameChars name = '_' :: rest := by
      rw [chars, characters, if_neg (by simp)]
    have same : lowerCamel name = upperCamel name := by
      simp only [lowerCamel, upperCamel, chars]
      rfl
    cases dropped : name.toList.dropWhile (· = '_') with
    | nil =>
      rw [dropped] at after
      cases after
    | cons letter others =>
      rw [dropped] at after
      have isLetter : letter.isAlpha = true := after
      rw [characters] at dropped
      have upper : (upperCamel name).toList = letter.toUpper :: joinParts false others := by
        rw [upperCamel, chars, String.toList_ofList]
        exact joinParts_of_dropWhile isLetter dropped
      exact .underscore isLetter (by rw [characters]; rfl) upper same

/-- Camel case begins with a capital. -/
theorem upperCamel_starts :
    ∃ first rest, (upperCamel name).toList = first :: rest ∧ first.isUpper = true := by
  cases lettered.camel with
  | letter isLetter _ upper => exact ⟨_, _, upper, (cases_of_isAlpha isLetter).upper⟩
  | underscore isLetter _ upper => exact ⟨_, _, upper, (cases_of_isAlpha isLetter).upper⟩

/-- A form in lower case tells the other one: its first letter becomes a capital. -/
theorem upperCamel_eq :
    (upperCamel name).toList =
      ((lowerCamel name).toList.head?.map Char.toUpper).toList ++ (lowerCamel name).toList.tail := by
  cases lettered.camel with
  | letter isLetter _ upper lower =>
    rw [upper, lower]
    simp [(cases_of_isAlpha isLetter).upperOfLower]
  | underscore isLetter _ upper same =>
    rw [same, upper]
    simp [(cases_of_isAlpha isLetter).upperOfUpper]

variable {other : String}

theorem upperCamel_eq_of_lowerCamel_eq (otherLettered : IsLettered other)
    (same : lowerCamel name = lowerCamel other) : upperCamel name = upperCamel other := by
  apply String.toList_inj.mp
  rw [lettered.upperCamel_eq, otherLettered.upperCamel_eq, same]

/-- A form in lower case begins like one with a capital only if its name begins with
an underscore. -/
theorem underscore_of_append {suffix : String} (otherLettered : IsLettered other)
    (same : lowerCamel name ++ suffix = upperCamel other) : name.toList.head? = some '_' := by
  cases lettered.camel with
  | underscore _ begins => exact begins
  | letter isLetter _ _ lower =>
    obtain ⟨first, rest, upper, isUpper⟩ := otherLettered.upperCamel_starts
    have texts := congrArg String.toList same
    rw [String.toList_append, lower, upper] at texts
    have isLower := (cases_of_isAlpha isLetter).lower
    rw [(List.cons.inj texts).1] at isLower
    exact absurd isLower (not_isLower_of_isUpper isUpper)

theorem lowerCamel_of_underscore (begins : name.toList.head? = some '_') :
    lowerCamel name = upperCamel name := by
  cases lettered.camel with
  | underscore _ _ _ same => exact same
  | letter _ other => exact absurd begins other

end IsLettered

end QueryTree.Text
