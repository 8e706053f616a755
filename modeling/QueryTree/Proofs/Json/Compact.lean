import QueryTree.Json.Value
import QueryTree.Proofs.Text.Quoted
import QueryTree.Proofs.Text.Separated

/-!
# The text of a JSON value determines it

Strings are read back character by character, arrays and objects end at their closing
brackets, and numbers and words end where something else follows.  So values that are
written alike are the same, provided that their numbers are numbers.
-/

namespace QueryTree

/-- Whether all numbers of a value are numbers. -/
inductive JsonValue.WellFormed : JsonValue → Prop where
  | null : WellFormed .null
  | bool (value : Bool) : WellFormed (.bool value)
  | number {raw : String} (isNumber : isJsonNumber raw = true) : WellFormed (.number raw)
  | string (text : String) : WellFormed (.string text)
  | array {items : List JsonValue} (each : ∀ item ∈ items, WellFormed item) :
      WellFormed (.array items)
  | object {entries : List (String × JsonValue)} (each : ∀ entry ∈ entries, WellFormed entry.2) :
      WellFormed (.object entries)

/-! ## Numbers and words -/

namespace JsonNumber

/-- Whether a character may stand in a number or in a word. -/
def isWordChar (character : Char) : Bool :=
  character.isAlphanum || character == '-' || character == '+' || character == '.'

theorem isWordChar_of_isDigit {character : Char} (digit : character.isDigit = true) :
    isWordChar character = true := by
  simp [isWordChar, Char.isAlphanum, digit]

variable {characters rest : List Char}

theorem all_of_all_dropWhile (rest : (characters.dropWhile Char.isDigit).all isWordChar = true) :
    characters.all isWordChar = true := by
  rw [← List.takeWhile_append_dropWhile (p := Char.isDigit) (l := characters), List.all_append,
    rest, Bool.and_true, List.all_eq_true]
  intro character member
  exact isWordChar_of_isDigit (List.all_eq_true.mp List.all_takeWhile character member)

theorem all_of_afterSign (rest : (afterSign characters).all isWordChar = true) :
    characters.all isWordChar = true := by
  unfold afterSign at rest
  split at rest
  · rw [List.all_cons, rest]
    rfl
  · exact rest

theorem all_of_afterExponentSign (rest : (afterExponentSign characters).all isWordChar = true) :
    characters.all isWordChar = true := by
  unfold afterExponentSign at rest
  split at rest
  · rw [List.all_cons, rest]
    rfl
  · rw [List.all_cons, rest]
    rfl
  · exact rest

theorem all_of_afterWhole? (read : afterWhole? characters = some rest)
    (ofRest : rest.all isWordChar = true) : characters.all isWordChar = true := by
  unfold afterWhole? at read
  split at read
  · cases read
    rw [List.all_cons, ofRest]
    rfl
  next digit others _ =>
    split at read
    next isDigit =>
      cases read
      rw [List.all_cons, isWordChar_of_isDigit isDigit, all_of_all_dropWhile ofRest]
      rfl
    next => cases read
  · cases read

theorem all_of_afterFraction? (read : afterFraction? characters = some rest)
    (ofRest : rest.all isWordChar = true) : characters.all isWordChar = true := by
  unfold afterFraction? at read
  split at read
  next digit others =>
    split at read
    next isDigit =>
      cases read
      rw [List.all_cons, List.all_cons, isWordChar_of_isDigit isDigit, all_of_all_dropWhile ofRest]
      rfl
    next => cases read
  · cases read
  · cases read
    exact ofRest

theorem all_of_isExponent (isExponent : isExponent characters = true) :
    characters.all isWordChar = true := by
  unfold JsonNumber.isExponent at isExponent
  split at isExponent
  · rfl
  next mark rest =>
    simp only [Bool.and_eq_true, Bool.or_eq_true, beq_iff_eq] at isExponent
    have digits : (afterExponentSign rest).all isWordChar = true := by
      rw [List.all_eq_true]
      intro character member
      exact isWordChar_of_isDigit (List.all_eq_true.mp isExponent.2 character member)
    rw [List.all_cons, all_of_afterExponentSign digits, Bool.and_true]
    rcases isExponent.1.1 with rfl | rfl <;> rfl

/-- A number begins with a sign or a digit and has no other characters than such. -/
theorem all_of_isJsonNumber {raw : String} (isNumber : isJsonNumber raw = true) :
    raw.toList.all isWordChar = true := by
  unfold isJsonNumber at isNumber
  cases whole : afterWhole? (afterSign raw.toList) with
  | none =>
    rw [whole] at isNumber
    cases isNumber
  | some rest =>
    rw [whole] at isNumber
    cases fraction : afterFraction? rest with
    | none =>
      rw [Option.bind_some, fraction] at isNumber
      cases isNumber
    | some exponent =>
      rw [Option.bind_some, fraction] at isNumber
      exact all_of_afterSign (all_of_afterWhole? whole
        (all_of_afterFraction? fraction (all_of_isExponent isNumber)))

end JsonNumber

/-! ## Strings -/

namespace JsonValue

theorem unquotedChar?_stringChar (character : Char) (rest : List Char) :
    Text.unquotedChar? (stringChar character ++ rest) = some (character, rest) := by
  have named := Char.ofNat_toNat character
  unfold stringChar
  dsimp only
  split
  next special => simp [Text.unquotedChar?, special]
  next ordinary =>
    obtain ⟨notQuote, notSlash⟩ := not_or.mp ordinary
    split
    next code =>
      rw [← named, code]
      rfl
    next =>
      split
      next code =>
        rw [← named, code]
        rfl
      next =>
        split
        next line => rw [line]; rfl
        next =>
          split
          next line => rw [line]; rfl
          next =>
            split
            next tab => rw [tab]; rfl
            next =>
              split
              next escaped =>
                simpa [Text.unquotedChar?] using Text.readCode?_hexFixed rest (by simp; omega)
              next => simp [Text.unquotedChar?, notQuote, notSlash]

variable {others rest : List Char} {value left right : JsonValue}

theorem quote_append_inj {left right : String}
    (equal : (quote left).toList ++ rest = (quote right).toList ++ others) :
    left = right ∧ rest = others := by
  simp only [quote, String.toList_ofList, List.cons_append, List.append_assoc, List.nil_append,
    List.cons.injEq, true_and] at equal
  obtain ⟨sameContent, sameRest⟩ := Text.written_append_inj unquotedChar?_stringChar equal
  exact ⟨String.toList_inj.mp sameContent, sameRest⟩

/-! ## Values -/

/-- The character that a value begins with, unless it is a number or a word. -/
def mark : JsonValue → Option Char
  | .string _ => some '"'
  | .array _ => some '['
  | .object _ => some '\x7b'
  | _ => none

theorem all_compact (formed : value.WellFormed) (isWord : value.mark = none) :
    value.compact.toList.all JsonNumber.isWordChar = true := by
  cases formed with
  | null => decide
  | bool value => cases value <;> decide
  | number isNumber => exact JsonNumber.all_of_isJsonNumber isNumber
  | string | array | object => cases isWord

theorem compact_ne_empty (formed : value.WellFormed) (isWord : value.mark = none) :
    value.compact.toList ≠ [] := by
  cases formed with
  | null => decide
  | bool value => cases value <;> decide
  | number isNumber =>
    intro empty
    rw [compact] at empty
    rw [isJsonNumber, empty] at isNumber
    cases isNumber
  | string | array | object => cases isWord

/-- The first character of a value tells whether it is a number or a word, and what it
is if it is neither. -/
theorem head_compact (formed : value.WellFormed) (rest : List Char) :
    (value.compact.toList ++ rest).head?.filter (!JsonNumber.isWordChar ·) = value.mark := by
  cases isMark : value.mark with
  | none =>
    have word := all_compact formed isMark
    cases characters : value.compact.toList with
    | nil => exact absurd characters (compact_ne_empty formed isMark)
    | cons first others =>
      rw [characters, List.all_cons, Bool.and_eq_true] at word
      simp [word.1]
  | some mark =>
    cases value <;> cases isMark
    · simp [compact, quote]
      decide
    · simp [compact]
      decide
    · simp [compact]
      decide

theorem mark_eq_of_append_eq (leftFormed : left.WellFormed) (rightFormed : right.WellFormed)
    (equal : left.compact.toList ++ rest = right.compact.toList ++ others) :
    left.mark = right.mark := by
  rw [← head_compact leftFormed rest, equal, head_compact rightFormed]

theorem compactItems_toList (items : List JsonValue) :
    (compactItems items).toList =
      [','].intercalate (items.map fun item => item.compact.toList) :=
  Text.toList_eq_intercalate compactItems compact "," rfl (fun _ => rfl) (fun _ _ _ => rfl) items

/-- The text of an entry of an object. -/
def entryCharacters (entry : String × JsonValue) : List Char :=
  (quote entry.1).toList ++ ':' :: entry.2.compact.toList

theorem compactEntries_toList (entries : List (String × JsonValue)) :
    (compactEntries entries).toList = [','].intercalate (entries.map entryCharacters) := by
  have isText : entryCharacters =
      fun entry => (quote entry.1 ++ ":" ++ entry.2.compact).toList := by
    funext entry
    simp [entryCharacters]
  rw [isText]
  exact Text.toList_eq_intercalate compactEntries _ "," rfl (fun _ => rfl) (fun _ _ _ => rfl)
    entries

/-- Arrays end at their closing bracket. -/
theorem separated_items : Text.Separated (fun item : JsonValue => item.compact.toList) WellFormed
    [','] ']' (Text.Ends JsonNumber.isWordChar) where
  closes rest := Text.ends_cons rest rfl
  continues item formed rest := Text.ends_cons _ rfl
  opens item formed rest others equal := by
    have same := congrArg (·.head?.filter (!JsonNumber.isWordChar ·)) equal
    rw [head_compact formed] at same
    cases item <;> cases same
  separates rest others equal := by cases equal

/-- Objects end at their closing brace. -/
theorem separated_entries : Text.Separated entryCharacters (fun entry => entry.2.WellFormed)
    [','] '\x7d' (Text.Ends JsonNumber.isWordChar) where
  closes rest := Text.ends_cons rest rfl
  continues entry formed rest := Text.ends_cons _ rfl
  opens entry formed rest others equal := by simp [entryCharacters, quote] at equal
  separates rest others equal := by cases equal

variable (leftFormed : left.WellFormed) (rightFormed : right.WellFormed)

include leftFormed rightFormed

/-- Numbers and words that are written alike are the same. -/
theorem word_append_inj (leftWord : left.mark = none) (rightWord : right.mark = none)
    (leftEnds : Text.Ends JsonNumber.isWordChar rest)
    (rightEnds : Text.Ends JsonNumber.isWordChar others)
    (equal : left.compact.toList ++ rest = right.compact.toList ++ others) :
    left = right ∧ rest = others := by
  obtain ⟨sameText, same⟩ := Text.word_append_inj (all_compact leftFormed leftWord)
    (all_compact rightFormed rightWord) leftEnds rightEnds equal
  refine ⟨?_, same⟩
  have sameText := String.toList_inj.mp sameText
  have noNumber {raw word : String} (isNumber : isJsonNumber raw = true)
      (other : isJsonNumber word = false) : raw ≠ word := by
    rintro rfl
    rw [isNumber] at other
    cases other
  cases leftFormed with
  | null =>
    cases rightFormed with
    | null => rfl
    | bool value => cases value <;> simp [compact] at sameText
    | number isNumber => exact absurd sameText.symm (noNumber isNumber (by decide))
    | string | array | object => cases rightWord
  | bool value =>
    cases rightFormed with
    | null => cases value <;> simp [compact] at sameText
    | bool other => cases value <;> cases other <;> simp_all [compact]
    | number isNumber =>
      refine absurd sameText.symm (noNumber isNumber ?_)
      cases value <;> decide
    | string | array | object => cases rightWord
  | number isNumber =>
    cases rightFormed with
    | null => exact absurd sameText (noNumber isNumber (by decide))
    | bool value =>
      refine absurd sameText (noNumber isNumber ?_)
      cases value <;> decide
    | number => exact congrArg JsonValue.number sameText
    | string | array | object => cases rightWord
  | string | array | object => cases leftWord

/-- The text of a value determines the value and the text that follows. -/
theorem compact_append_inj (leftEnds : Text.Ends JsonNumber.isWordChar rest)
    (rightEnds : Text.Ends JsonNumber.isWordChar others)
    (equal : left.compact.toList ++ rest = right.compact.toList ++ others) :
    left = right ∧ rest = others := by
  -- The first character tells strings, arrays and objects apart, and all others are one word.
  have sameMark := mark_eq_of_append_eq leftFormed rightFormed equal
  induction leftFormed generalizing right rest others with
  | null =>
    exact word_append_inj .null rightFormed rfl sameMark.symm leftEnds rightEnds equal
  | bool value =>
    exact word_append_inj (.bool value) rightFormed rfl sameMark.symm leftEnds rightEnds equal
  | number isNumber =>
    exact word_append_inj (.number isNumber) rightFormed rfl sameMark.symm leftEnds rightEnds equal
  | string text =>
    cases rightFormed <;> cases sameMark
    obtain ⟨sameText, same⟩ := quote_append_inj equal
    exact ⟨congrArg JsonValue.string sameText, same⟩
  | array each ih =>
    cases rightFormed <;> cases sameMark
    next items otherEach =>
    simp only [compact, String.toList_append, List.append_assoc, compactItems_toList,
      String.reduceToList, List.cons_append, List.nil_append, List.cons.injEq, true_and] at equal
    obtain ⟨sameItems, same⟩ := separated_items.append_inj each otherEach
      (fun item member other formed rest others ends otherEnds equal =>
        ih item member formed ends otherEnds equal
          (mark_eq_of_append_eq (each item member) formed equal)) equal
    rw [List.map_id', List.map_id'] at sameItems
    exact ⟨congrArg JsonValue.array sameItems, same⟩
  | object each ih =>
    cases rightFormed <;> cases sameMark
    next entries otherEach =>
    simp only [compact, String.toList_append, List.append_assoc, compactEntries_toList,
      String.reduceToList, List.cons_append, List.nil_append, List.cons.injEq, true_and] at equal
    obtain ⟨sameEntries, same⟩ := separated_entries.append_inj each otherEach
      (fun entry member other formed rest others ends otherEnds equal => by
        simp only [entryCharacters, List.append_assoc, List.cons_append] at equal
        obtain ⟨sameKey, equal⟩ := quote_append_inj equal
        have equal := List.tail_eq_of_cons_eq equal
        obtain ⟨sameValue, same⟩ := ih entry member formed ends otherEnds equal
          (mark_eq_of_append_eq (each entry member) formed equal)
        exact ⟨Prod.ext sameKey sameValue, same⟩) equal
    rw [List.map_id', List.map_id'] at sameEntries
    exact ⟨congrArg JsonValue.object sameEntries, same⟩

theorem compact_inj (equal : left.compact = right.compact) : left = right := by
  have ends : Text.Ends JsonNumber.isWordChar [] := by
    intro first member
    cases member
  exact (compact_append_inj leftFormed rightFormed ends ends (by rw [equal])).1

end JsonValue

end QueryTree
