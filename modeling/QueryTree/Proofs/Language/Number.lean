import QueryTree.Language.Lexer
import QueryTree.Proofs.Text.Separated

/-!
# Numbers are read back

What the lexer took for a number is a number again, of the same kind, wherever it
is followed by something that cannot continue it.
-/

namespace QueryTree

open QueryTree.Text

namespace Lexer

/-- Whether a character marks a floating point number. -/
def isFloatMark (character : Char) : Bool :=
  character == '.' || character == 'e' || character == 'E'

/-- Whether a character may stand in a number. -/
def isNumberChar (character : Char) : Bool :=
  character.isDigit || character == '-' || character == '+' || isFloatMark character

/-! ## Taking characters -/

theorem ends_nil (test : Char → Bool) : Ends test [] := by
  intro first member
  cases member

variable {characters rest other digits done : List Char} {test : Char → Bool} {isFloat : Bool}

theorem takeChar_of_ends (ends : Ends test characters) :
    takeChar test characters = ([], characters) := by
  cases characters with
  | nil => rfl
  | cons first rest => simp [takeChar, ends first rfl]

/-- Taking one character cuts it off; what follows matters only if there was none. -/
theorem takeChar_cut (test : Char → Bool) (characters : List Char) :
    ∃ word rest, takeChar test characters = (word, rest) ∧ characters = word ++ rest ∧
      (word = [] → Ends test rest) ∧
      ∀ other, word ≠ [] ∨ Ends test other → takeChar test (word ++ other) = (word, other) := by
  cases characters with
  | nil =>
    refine ⟨[], [], rfl, rfl, fun _ => ends_nil test, fun other ends => ?_⟩
    exact takeChar_of_ends (ends.resolve_left fun other => other rfl)
  | cons first rest =>
    by_cases accepted : test first = true
    · exact ⟨[first], rest, by simp [takeChar, accepted], rfl, by simp,
        fun other _ => by simp [takeChar, accepted]⟩
    · have refused : Ends test (first :: rest) := ends_cons rest (Bool.eq_false_iff.mpr accepted)
      refine ⟨[], first :: rest, takeChar_of_ends refused, rfl, fun _ => refused,
        fun other ends => ?_⟩
      exact takeChar_of_ends (ends.resolve_left fun other => other rfl)

theorem takeChars_append {word : List Char} (all : word.all test = true) (ends : Ends test rest) :
    takeChars test (word ++ rest) = (word, rest) := by
  have every := List.all_eq_true.mp all
  rw [takeChars, List.takeWhile_append_of_pos every, List.dropWhile_append_of_pos every,
    takeWhile_of_ends ends, List.append_nil]
  cases rest with
  | nil => rfl
  | cons first rest => rw [List.dropWhile_cons_of_neg (by simp [ends first rfl])]

/-- Taking characters cuts a text into those that pass the test and the rest. -/
theorem takeChars_cut (test : Char → Bool) (characters : List Char) :
    ∃ word rest, takeChars test characters = (word, rest) ∧ characters = word ++ rest ∧
      word.all test = true ∧ Ends test rest := by
  refine ⟨_, _, rfl, (List.takeWhile_append_dropWhile ..).symm, List.all_takeWhile, ?_⟩
  intro first member
  have refused := List.head?_dropWhile_not test characters
  rw [Option.mem_def.mp member] at refused
  simpa using refused

/-! ## Parts of numbers -/

/-- Whether reading added characters to those already read, and would do so again
if the rest were replaced. -/
def Continues (done : List Char) (read : List Char → NumberScan) (characters digits : List Char)
    (isFloat : Bool) (rest : List Char) : Prop :=
  ∃ added, characters = added ++ rest ∧ digits = done ++ added ∧
    ∀ other, Follows isNumberChar rest other → read (added ++ other) = .done digits isFloat other

/-- What stops digits and marks is replaced by something that stops them, too. -/
theorem ends_of_follows (follows : Follows isNumberChar rest other) :
    (Ends Char.isDigit rest → Ends Char.isDigit other) ∧
      (Ends (· == '.') rest → Ends (· == '.') other) ∧
      (Ends (fun c => c == 'e' || c == 'E') rest → Ends (fun c => c == 'e' || c == 'E') other) ∧
      (Ends (· == '-') rest → Ends (· == '-') other) := by
  refine ⟨follows.ends ?_, follows.ends ?_, follows.ends ?_, follows.ends ?_⟩ <;>
    · intro character refused
      simp only [isNumberChar, isFloatMark, Bool.or_eq_false_iff] at refused ⊢
      simp only [refused, and_self]

/-- Digits begin with none but a digit. -/
theorem ends_of_digits (all : digits.all Char.isDigit = true) (some : digits ≠ [])
    (rest : List Char) (refuses : ∀ character, character.isDigit = true → test character = false) :
    Ends test (digits ++ rest) := by
  cases digits with
  | nil => exact (some rfl).elim
  | cons first digits =>
    rw [List.all_cons, Bool.and_eq_true] at all
    exact ends_cons _ (refuses first all.1)

theorem not_sign_of_isDigit (character : Char) (digit : character.isDigit = true) :
    (character == '-' || character == '+') = false := by
  simp only [Bool.or_eq_false_iff, beq_eq_false_iff_ne]
  constructor <;>
    · rintro rfl
      revert digit
      decide

theorem exponent_continues {before : Bool}
    (read : exponent done before characters = .done digits isFloat rest) :
    Continues done (exponent done before) characters digits isFloat rest := by
  obtain ⟨mark, afterMark, isMark, rfl, noMark, sameMark⟩ :=
    takeChar_cut (fun c => c == 'e' || c == 'E') characters
  obtain ⟨sign, afterSign, isSign, rfl, _, sameSign⟩ :=
    takeChar_cut (fun c => c == '-' || c == '+') afterMark
  obtain ⟨number, last, isNumber, rfl, all, digitsEnd⟩ := takeChars_cut Char.isDigit afterSign
  simp only [exponent, isMark, isSign, isNumber] at read
  by_cases unmarked : mark = []
  · subst unmarked
    cases read
    refine ⟨[], rfl, by simp, fun other follows => ?_⟩
    simp [exponent, takeChar_of_ends ((ends_of_follows follows).2.2.1 (noMark rfl))]
  · rw [if_neg (by simpa using unmarked)] at read
    by_cases none : number = []
    · rw [if_pos (by simpa using none)] at read
      cases read
    · rw [if_neg (by simpa using none)] at read
      cases read
      refine ⟨mark ++ (sign ++ number), by simp, by simp, fun other follows => ?_⟩
      have otherEnds := (ends_of_follows follows).1 digitsEnd
      have noSign := ends_of_digits all none other not_sign_of_isDigit
      simp only [exponent, List.append_assoc, sameMark _ (.inl unmarked), sameSign _ (.inr noSign),
        takeChars_append all otherEnds]
      simp [unmarked, none]

theorem fraction_continues (read : fraction done characters = .done digits isFloat rest) :
    Continues done (fraction done) characters digits isFloat rest := by
  obtain ⟨point, afterPoint, isPoint, rfl, noPoint, samePoint⟩ := takeChar_cut (· == '.') characters
  obtain ⟨number, afterNumber, isNumber, rfl, all, digitsEnd⟩ :=
    takeChars_cut Char.isDigit afterPoint
  simp only [fraction, isPoint, isNumber] at read
  by_cases whole : point = []
  · subst whole
    obtain ⟨added, cut, rfl, same⟩ := exponent_continues read
    refine ⟨added, cut, rfl, fun other follows => ?_⟩
    have pointEnds : Ends (· == '.') (added ++ other) := by
      apply (ends_of_follows (follows.append added)).2.1
      rw [← cut]
      exact noPoint rfl
    simp [fraction, takeChar_of_ends pointEnds, same other follows]
  · rw [if_neg (by simpa using whole)] at read
    by_cases none : number = []
    · rw [if_pos (by simpa using none)] at read
      cases read
    · rw [if_neg (by simpa using none)] at read
      obtain ⟨added, rfl, rfl, same⟩ := exponent_continues read
      refine ⟨point ++ (number ++ added), by simp, by simp, fun other follows => ?_⟩
      have others := (ends_of_follows (follows.append added)).1 digitsEnd
      simp only [fraction, List.append_assoc, samePoint _ (.inl whole), takeChars_append all others]
      simpa [whole, none] using same other follows

/-- A number is read again from its characters if what follows is replaced. -/
theorem number_continues (read : number characters = .done digits isFloat rest) :
    Continues [] number characters digits isFloat rest := by
  obtain ⟨sign, afterSign, isSign, rfl, noSign, sameSign⟩ := takeChar_cut (· == '-') characters
  obtain ⟨zero, afterZero, isZero, rfl, noZero, sameZero⟩ := takeChar_cut (· == '0') afterSign
  obtain ⟨whole, afterWhole, isWhole, rfl, all, wholeEnds⟩ := takeChars_cut Char.isDigit afterZero
  -- Neither what was read after the sign nor what replaces the rest is a sign.
  have signed {added other : List Char} (cut : zero ++ (whole ++ afterWhole) = added ++ rest)
      (follows : Follows isNumberChar rest other) :
      takeChar (· == '-') (sign ++ (added ++ other)) = (sign, added ++ other) := by
    refine sameSign _ ?_
    by_cases unsigned : sign = []
    · have before := noSign unsigned
      rw [cut] at before
      exact .inr ((ends_of_follows (follows.append added)).2.2.2 before)
    · exact .inl unsigned
  simp only [number, isSign, isZero] at read
  by_cases nonzero : zero = []
  · subst nonzero
    simp only [List.nil_append, List.isEmpty_nil, if_true, isWhole] at read signed
    by_cases none : whole = []
    · rw [if_pos (by simpa using none)] at read
      cases read
    · rw [if_neg (by simpa using none)] at read
      obtain ⟨added, rfl, rfl, same⟩ := fraction_continues read
      refine ⟨sign ++ (whole ++ added), by simp, by simp, fun other follows => ?_⟩
      have others := (ends_of_follows (follows.append added)).1 wholeEnds
      have zeroEnds : Ends (· == '0') (whole ++ (added ++ other)) := by
        refine ((follows.append added).append whole).ends (fun c refused => ?_) (noZero rfl)
        rw [beq_eq_false_iff_ne]
        rintro rfl
        cases refused
      have isSigned := signed (List.append_assoc ..).symm follows
      rw [List.append_assoc] at isSigned
      simp only [number, List.append_assoc, isSigned, takeChar_of_ends zeroEnds,
        takeChars_append all others]
      simpa [none] using same other follows
  · rw [if_neg (by simpa using nonzero)] at read
    simp only [isWhole] at read
    by_cases none : whole = []
    · subst none
      rw [List.nil_append] at signed
      obtain ⟨added, rfl, rfl, same⟩ := fraction_continues read
      refine ⟨sign ++ (zero ++ added), by simp, by simp, fun other follows => ?_⟩
      have others := (ends_of_follows (follows.append added)).1 wholeEnds
      have isSigned := signed (List.append_assoc ..).symm follows
      rw [List.append_assoc] at isSigned
      have noDigits := takeChars_append all others
      rw [List.nil_append] at noDigits
      simp only [number, List.append_assoc, isSigned, sameZero _ (.inl nonzero), noDigits]
      simpa [nonzero] using same other follows
    · rw [if_neg (by simpa using none)] at read
      cases read

/-- Whether characters are a number as a whole. -/
def isNumber (isFloat : Bool) (characters : List Char) : Bool :=
  match number characters with
  | .done digits marked rest => digits == characters && marked == isFloat && rest.isEmpty
  | .failed _ _ => false

theorem isNumber_iff :
    isNumber isFloat characters = true ↔ number characters = .done characters isFloat [] := by
  unfold isNumber
  cases number characters with
  | done digits marked rest => simp [and_assoc]
  | failed fault width => simp

/-- What was read as a number is a number as a whole. -/
theorem isNumber_of_number (read : number characters = .done digits isFloat rest) :
    isNumber isFloat digits = true := by
  obtain ⟨added, _, rfl, same⟩ := number_continues read
  have again := same [] (.inr (ends_nil _))
  rw [List.append_nil] at again
  exact isNumber_iff.mpr again

theorem number_append (whole : isNumber isFloat characters = true)
    (ends : Ends isNumberChar other) :
    number (characters ++ other) = .done characters isFloat other := by
  obtain ⟨added, _, rfl, same⟩ := number_continues (isNumber_iff.mp whole)
  exact same other (.inr ends)

end Lexer

end QueryTree
