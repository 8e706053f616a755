import QueryTree.Proofs.Language.Number

/-!
# The spelling of tokens

The lexer gives a name, an integer or a floating point number only to text that
is one as a whole.  Integers and floating point numbers differ by a mark, so that
no text is both.
-/

namespace QueryTree

namespace Lexer

/-- Whether characters spell a name. -/
def isNameText : List Char → Bool
  | [] => false
  | first :: rest => isNameStart first && rest.all isNameRest

/-- Whether characters begin like a number. -/
def startsNumber : List Char → Bool
  | [] => false
  | first :: _ => first == '-' || first.isDigit

/-- Whether characters look like a number, with a mark of a floating point
number or without one. -/
def isNumberText (isFloat : Bool) (characters : List Char) : Bool :=
  startsNumber characters && characters.all isNumberChar &&
    characters.any isFloatMark == isFloat

theorem not_startsNumber_of_isNameStart {first : Char} (starts : isNameStart first = true)
    (rest : List Char) : startsNumber (first :: rest) = false := by
  unfold isNameStart Char.isAlpha Char.isUpper Char.isLower at starts
  simp only [Bool.or_eq_true, Bool.and_eq_true, decide_eq_true_eq, beq_iff_eq] at starts
  simp only [startsNumber, Char.isDigit, Bool.or_eq_false_iff, beq_eq_false_iff_ne,
    Bool.and_eq_false_iff, decide_eq_false_iff_not]
  constructor
  · rintro rfl
    revert starts
    decide
  · rcases starts with (upper | lower) | line
    · right
      grind
    · right
      grind
    · subst line
      right
      decide

variable {character : Char} {isFloat : Bool} {digits characters done rest : List Char}

theorem isNumberChar_of_isDigit (digit : character.isDigit = true) :
    isNumberChar character = true := by
  simp [isNumberChar, digit]

theorem isFloatMark_of_isDigit (digit : character.isDigit = true) :
    isFloatMark character = false := by
  simp only [isFloatMark, Bool.or_eq_false_iff, beq_eq_false_iff_ne]
  refine ⟨⟨?_, ?_⟩, ?_⟩ <;>
    · intro equal
      rw [equal] at digit
      revert digit
      decide

/-! ## Parts of numbers -/

theorem all_takeChars (test : Char → Bool) (characters : List Char) :
    (takeChars test characters).1.all test = true :=
  List.all_takeWhile

/-- `takeChar` takes nothing or one character that passes the test. -/
theorem takeChar_eq (test : Char → Bool) (characters : List Char) :
    (takeChar test characters).1 = [] ∨
      ∃ character, test character = true ∧ (takeChar test characters).1 = [character] := by
  cases characters with
  | nil => exact .inl rfl
  | cons first rest =>
    by_cases accepted : test first = true
    · exact .inr ⟨first, accepted, by simp [takeChar, accepted]⟩
    · exact .inl (by simp [takeChar, accepted])

/-- Further characters keep a number a number; a mark among them makes it a
floating point number. -/
theorem isNumberText_append {number others : List Char}
    (before : isNumberText isFloat number = true) (chars : others.all isNumberChar = true) :
    isNumberText (isFloat || others.any isFloatMark) (number ++ others) = true := by
  simp only [isNumberText, Bool.and_eq_true, beq_iff_eq] at before ⊢
  obtain ⟨⟨starts, numberChars⟩, mark⟩ := before
  refine ⟨⟨?_, ?_⟩, ?_⟩
  · cases number with
    | nil => simp [startsNumber] at starts
    | cons first rest => exact starts
  · rw [List.all_append, numberChars, chars]
    rfl
  · rw [List.any_append, mark]

theorem isNumberText_append_digits {number : List Char}
    (before : isNumberText isFloat number = true) (all : digits.all Char.isDigit = true) :
    isNumberText isFloat (number ++ digits) = true := by
  simp only [List.all_eq_true] at all
  have chars : digits.all isNumberChar = true := by
    simp only [List.all_eq_true]
    exact fun character member => isNumberChar_of_isDigit (all character member)
  have unmarked : digits.any isFloatMark = false := by
    simp only [List.any_eq_false, Bool.not_eq_true]
    exact fun character member => isFloatMark_of_isDigit (all character member)
  simpa [unmarked] using isNumberText_append before chars

theorem isNumberText_append_mark {number : List Char} {mark : Char}
    (before : isNumberText isFloat number = true) (marks : isFloatMark mark = true) :
    isNumberText true (number ++ [mark]) = true := by
  have chars : [mark].all isNumberChar = true := by simp [isNumberChar, marks]
  simpa [marks] using isNumberText_append before chars

theorem isNumberText_exponent {before : Bool} (number : isNumberText before done = true)
    (read : exponent done before characters = .done digits isFloat rest) :
    isNumberText isFloat digits = true := by
  simp only [exponent] at read
  rcases takeChar_eq (fun c => c == 'e' || c == 'E') characters with none | ⟨mark, isMark, one⟩
  · rw [none] at read
    cases read
    exact number
  · rw [one] at read
    simp only [List.isEmpty_cons, Bool.false_eq_true, if_false] at read
    split at read
    · cases read
    · cases read
      have marked : isNumberText true (done ++ [mark]) = true := by
        simp only [Bool.or_eq_true, beq_iff_eq] at isMark
        apply isNumberText_append_mark number
        rcases isMark with rfl | rfl <;> decide
      refine isNumberText_append_digits ?_ (all_takeChars Char.isDigit _)
      rcases takeChar_eq (fun c => c == '-' || c == '+') (takeChar _ characters).2 with
        none | ⟨sign, isSign, one⟩
      · rw [none, List.append_nil]
        exact marked
      · rw [one]
        simp only [Bool.or_eq_true, beq_iff_eq] at isSign
        have chars : [sign].all isNumberChar = true := by
          rcases isSign with rfl | rfl <;> decide
        simpa using isNumberText_append marked chars

theorem isNumberText_fraction (number : isNumberText false done = true)
    (read : fraction done characters = .done digits isFloat rest) :
    isNumberText isFloat digits = true := by
  simp only [fraction] at read
  rcases takeChar_eq (· == '.') characters with none | ⟨point, isPoint, one⟩
  · rw [none] at read
    exact isNumberText_exponent number read
  · rw [one] at read
    simp only [List.isEmpty_cons, Bool.false_eq_true, if_false] at read
    split at read
    · cases read
    · have marked : isNumberText true (done ++ [point]) = true := by
        simp only [beq_iff_eq] at isPoint
        subst isPoint
        exact isNumberText_append_mark number (by decide)
      exact isNumberText_exponent
        (isNumberText_append_digits marked (all_takeChars Char.isDigit _)) read

theorem isNumberText_signed (all : digits.all Char.isDigit = true) (some : digits.isEmpty = false) :
    isNumberText false ((takeChar (· == '-') characters).1 ++ digits) = true := by
  rcases takeChar_eq (· == '-') characters with none | ⟨sign, isSign, one⟩
  · rw [none, List.nil_append]
    cases digits with
    | nil => simp at some
    | cons first rest =>
      simp only [List.all_cons, Bool.and_eq_true] at all
      have single : isNumberText false [first] = true := by
        simp [isNumberText, startsNumber, all.1, isNumberChar_of_isDigit all.1,
          isFloatMark_of_isDigit all.1]
      exact isNumberText_append_digits single all.2
  · simp only [beq_iff_eq] at isSign
    rw [one, isSign]
    exact isNumberText_append_digits (by decide) all

/-- The characters of a number look like one, marked as the lexer says. -/
theorem isNumberText_number (read : number characters = .done digits isFloat rest) :
    isNumberText isFloat digits = true := by
  simp only [number] at read
  rcases takeChar_eq (· == '0') (takeChar (· == '-') characters).2 with none | ⟨zero, isZero, one⟩
  · rw [none] at read
    simp only [List.isEmpty_nil, if_true] at read
    split at read
    · cases read
    · rename_i some
      exact isNumberText_fraction
        (isNumberText_signed (all_takeChars Char.isDigit _) (by simpa using some)) read
  · rw [one] at read
    simp only [List.isEmpty_cons, Bool.false_eq_true, if_false] at read
    simp only [beq_iff_eq] at isZero
    subst isZero
    split at read
    · exact isNumberText_fraction (isNumberText_signed (by decide) rfl) read
    · cases read

theorem isNumberText_of_isNumber (whole : isNumber isFloat characters = true) :
    isNumberText isFloat characters = true :=
  isNumberText_number (isNumber_iff.mp whole)

end Lexer

/-! ## Tokens -/

/-- Whether the text of a token is spelled as its kind asks for. -/
def Token.isSpelled (token : Token) : Bool :=
  match token.kind with
  | .name => Lexer.isNameText token.text.toList
  | .int => Lexer.isNumber false token.text.toList
  | .float => Lexer.isNumber true token.text.toList
  | _ => true

namespace Lexer

variable (source : String) (cursor : Cursor)

theorem isSpelled_punctuation {character : Char} {kind : TokenKind} (rest : List Char)
    (found : punctuation? character = some kind) :
    (plainStep source kind [] 1 cursor rest).1.isSpelled = true := by
  unfold punctuation? at found
  split at found <;> cases found <;> rfl

variable (characters : List Char)

theorem isSpelled_numberStep : (numberStep source cursor characters).1.isSpelled = true := by
  unfold numberStep
  split
  next digits isFloat rest read =>
    have spelled := isNumber_of_number read
    cases isFloat <;> simpa [plainStep, Token.isSpelled] using spelled
  next => rfl

theorem isSpelled_stringStep : (stringStep source cursor characters).1.isSpelled = true := by
  unfold stringStep
  split <;> rfl

theorem isSpelled_blockStep : (blockStep source cursor characters).1.isSpelled = true := by
  unfold blockStep
  split <;> rfl

theorem isSpelled_tokenStep (character : Char) (rest : List Char) :
    (tokenStep source cursor character rest).1.isSpelled = true := by
  unfold tokenStep
  split
  next kind found => exact isSpelled_punctuation source cursor rest found
  next =>
    split
    · split <;> rfl
    split
    · rfl
    split
    next starts =>
      have rests := all_takeChars isNameRest rest
      simpa [plainStep, Token.isSpelled, isNameText, starts] using rests
    split
    · exact isSpelled_numberStep ..
    split
    · split
      · exact isSpelled_blockStep ..
      · exact isSpelled_stringStep ..
    · rfl

theorem isSpelled_nextToken : (nextToken source cursor characters).1.isSpelled = true := by
  unfold nextToken
  split
  · rfl
  · exact isSpelled_tokenStep ..

theorem isSpelled_tokens (bound : Nat) (cursor : Cursor) (characters : List Char) :
    ∀ token ∈ tokens source bound cursor characters, token.isSpelled = true := by
  induction bound generalizing cursor characters with
  | zero =>
    intro token member
    cases member
  | succ bound ih =>
    intro token member
    have first := isSpelled_nextToken source cursor characters
    simp only [tokens] at member
    split at member
    · rw [List.mem_singleton.mp member]
      exact first
    · rcases List.mem_cons.mp member with rfl | member
      · exact first
      · exact ih _ _ token member

end Lexer

theorem Token.isSpelled_withoutComments (tokens : List Token)
    (spelled : ∀ token ∈ tokens, token.isSpelled = true) (pending : Option (String × Position)) :
    ∀ token ∈ Token.withoutComments pending tokens, token.isSpelled = true := by
  induction tokens generalizing pending with
  | nil =>
    intro token member
    cases member
  | cons first rest ih =>
    have others := ih (List.forall_mem_cons.mp spelled).2
    intro token member
    simp only [Token.withoutComments] at member
    split at member
    · exact others _ token member
    · rcases List.mem_cons.mp member with rfl | member
      · exact spelled first List.mem_cons_self
      · exact others _ token member

/-- The tokens of every source, as its reader sees them, are spelled as their
kinds ask for. -/
theorem isSpelled_lex (source text : String) :
    ∀ token ∈ Token.withoutComments none (lex source text), token.isSpelled = true :=
  Token.isSpelled_withoutComments _
    (Lexer.isSpelled_tokens source (text.toList.length + 1) .start text.toList) none

end QueryTree
