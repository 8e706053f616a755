import QueryTree.Text.Quoted

/-!
# Quoted text can be read back

Every character of a quoted text is written in a way that shows where it ends.
`unquotedChar?` reads one character back, whatever follows it; hence the
characters between the quotes, and the text after the closing quote, can be
recovered from what was written.
-/

namespace QueryTree.Text

/-! ## Hexadecimal digits -/

theorem toNat_ofNat_of_lt {code : Nat} (small : code < 0xd800) :
    (Char.ofNat code).toNat = code := by
  have valid : code.isValidChar := Or.inl small
  rw [Char.ofNat, dif_pos valid]
  rfl

theorem toNat_lt_limit (character : Char) : character.toNat < 0x110000 := by
  rcases character.valid with low | ⟨_, high⟩
  · exact Nat.lt_trans low (by decide)
  · exact high

variable {value width : Nat} {character : Char} {left others rest right : List Char}

theorem hexValue?_hexDigit (small : value < 16) : hexValue? (hexDigit value) = some value := by
  by_cases decimal : value < 10
  · have code : (hexDigit value).toNat = 48 + value := by
      rw [hexDigit, if_pos decimal]
      exact toNat_ofNat_of_lt (by omega)
    simp only [hexValue?, code]
    rw [if_pos (by omega)]
    congr 1
    omega
  · have code : (hexDigit value).toNat = 87 + value := by
      rw [hexDigit, if_neg decimal]
      exact toNat_ofNat_of_lt (by omega)
    simp only [hexValue?, code]
    rw [if_neg (by omega), if_pos (by omega)]
    congr 1
    omega

/-- A number that has room in the digits is what the digits spell. -/
theorem hexNumber?_hexFixed (small : value < Nat.pow 16 width) :
    hexNumber? (hexFixed width value) = some value := by
  induction width generalizing value with
  | zero =>
    have zero : value = 0 := by simpa using small
    rw [zero]
    rfl
  | succ width ih =>
    have high : value / 16 < Nat.pow 16 width := by
      have power : Nat.pow 16 (width + 1) = Nat.pow 16 width * 16 := Nat.pow_succ ..
      rw [power] at small
      exact Nat.div_lt_of_lt_mul (by omega)
    have low : hexValue? (hexDigit (value % 16)) = some (value % 16) :=
      hexValue?_hexDigit (Nat.mod_lt _ (by decide))
    have front := ih high
    simp only [hexNumber?] at front
    simp only [hexFixed, hexNumber?, List.foldlM_append, front, List.foldlM_cons,
      List.foldlM_nil, low, Option.map_some, Option.bind_eq_bind, Option.bind_some,
      Option.pure_def, Option.some.injEq]
    omega

theorem lt_pow_hexWidth {bound : Nat} (small : value < Nat.pow 16 (bound + 1)) :
    value < Nat.pow 16 (hexWidth bound value) := by
  induction bound generalizing value with
  | zero => exact small
  | succ bound ih =>
    rw [hexWidth]
    split
    next digit => exact digit
    next =>
      have high : value / 16 < Nat.pow 16 (bound + 1) :=
        Nat.div_lt_of_lt_mul (by rw [Nat.mul_comm]; exact small)
      have power : Nat.pow 16 (hexWidth bound (value / 16) + 1) =
          Nat.pow 16 (hexWidth bound (value / 16)) * 16 := Nat.pow_succ ..
      have below := ih high
      rw [power]
      omega

/-- A word can be read from its text without leading zeros. -/
theorem hexNumber?_hexMinimal (value : UInt64) :
    hexNumber? (hexMinimal value) = some value.toNat := by
  have small : value.toNat < Nat.pow 16 (16 + 1) := Nat.lt_trans value.toNat_lt (by decide)
  exact hexNumber?_hexFixed (lt_pow_hexWidth small)

/-! ## Single characters -/

/-- The control character that a letter after a backslash stands for. -/
def controlOf? (letter : Char) : Option Char :=
  match letter with
  | 'a' => some (Char.ofNat 7)
  | 'b' => some (Char.ofNat 8)
  | 'f' => some (Char.ofNat 12)
  | 'n' => some (Char.ofNat 10)
  | 'r' => some (Char.ofNat 13)
  | 't' => some (Char.ofNat 9)
  | 'v' => some (Char.ofNat 11)
  | _ => none

/-- Read the character whose code point is written with a number of digits. -/
def readCode? (width : Nat) (characters : List Char) : Option (Char × List Char) :=
  (hexNumber? (characters.take width)).map fun code =>
    (Char.ofNat code, characters.drop width)

/-- Read one character of a quoted text, up to what follows it. -/
def unquotedChar? : List Char → Option (Char × List Char)
  | [] => none
  | first :: rest =>
    if first = '"' then none
    else if first = '\\' then
      match rest with
      | [] => none
      | letter :: rest =>
        if letter = '"' ∨ letter = '\\' then some (letter, rest)
        else if letter = 'x' then readCode? 2 rest
        else if letter = 'u' then readCode? 4 rest
        else if letter = 'U' then readCode? 8 rest
        else (controlOf? letter).map (·, rest)
    else some (first, rest)

theorem readCode?_hexFixed (rest : List Char) (small : character.toNat < Nat.pow 16 width) :
    readCode? width (hexFixed width character.toNat ++ rest) = some (character, rest) := by
  have front : (hexFixed width character.toNat ++ rest).take width =
      hexFixed width character.toNat :=
    List.take_left' (length_hexFixed ..)
  have back : (hexFixed width character.toNat ++ rest).drop width = rest :=
    List.drop_left' (length_hexFixed ..)
  rw [readCode?, front, back, hexNumber?_hexFixed small]
  simp [Char.ofNat_toNat]

/-- A letter stands for a control character exactly one way. -/
theorem controlOf?_of_controlLetter? {letter : Char}
    (found : controlLetter? character = some letter) :
    controlOf? letter = some character ∧
      ¬(letter = '"' ∨ letter = '\\' ∨ letter = 'x' ∨ letter = 'u' ∨ letter = 'U') := by
  have named := Char.ofNat_toNat character
  unfold controlLetter? at found
  split at found
  case h_8 => cases found
  all_goals
    rename_i code
    cases found
    rw [code] at named
    rw [← named]
    decide

/-- What is written for a character shows the character and where it ends. -/
theorem unquotedChar?_quotedChar (character : Char) (rest : List Char) :
    unquotedChar? (quotedChar character ++ rest) = some (character, rest) := by
  unfold quotedChar
  split
  next special =>
    simp [unquotedChar?, special]
  next ordinary =>
    obtain ⟨notQuote, notSlash⟩ := not_or.mp ordinary
    split
    next => simp [unquotedChar?, notQuote, notSlash]
    next =>
      split
      next letter found =>
        obtain ⟨stands, other⟩ := controlOf?_of_controlLetter? found
        simp only [not_or] at other
        simp [unquotedChar?, other, stands]
      next =>
        have bound := toNat_lt_limit character
        dsimp only
        split
        next small =>
          simpa [unquotedChar?] using readCode?_hexFixed rest (by simp; omega)
        next =>
          split
          next small => simpa [unquotedChar?] using readCode?_hexFixed rest (by simpa using small)
          next => simpa [unquotedChar?] using readCode?_hexFixed rest (by simp; omega)

/-! ## Whole texts -/

theorem unquotedChar?_quote (rest : List Char) : unquotedChar? ('"' :: rest) = none := rfl

/-- The content of a text between quotes and what follows its closing quote are both
determined by what is written, if every character can be read back. -/
theorem written_append_inj {write : Char → List Char}
    (reads : ∀ character rest, unquotedChar? (write character ++ rest) = some (character, rest))
    (equal : left.flatMap write ++ '"' :: rest = right.flatMap write ++ '"' :: others) :
    left = right ∧ rest = others := by
  induction left generalizing right with
  | nil =>
    cases right with
    | nil => simpa using equal
    | cons character right =>
      have read := congrArg unquotedChar? equal
      simp [List.append_assoc, reads, unquotedChar?_quote] at read
  | cons character left ih =>
    cases right with
    | nil =>
      have read := congrArg unquotedChar? equal
      simp [List.append_assoc, reads, unquotedChar?_quote] at read
    | cons other right =>
      have read := congrArg unquotedChar? equal
      simp only [List.flatMap_cons, List.append_assoc, reads, Option.some.injEq,
        Prod.mk.injEq] at read
      obtain ⟨sameCharacter, sameRest⟩ := read
      obtain ⟨sameTail, sameOthers⟩ := ih sameRest
      exact ⟨by rw [sameCharacter, sameTail], sameOthers⟩

theorem quotedChars_append_inj
    (equal : quotedChars left ++ '"' :: rest = quotedChars right ++ '"' :: others) :
    left = right ∧ rest = others :=
  written_append_inj unquotedChar?_quotedChar equal

/-- Quoted texts are told apart by what is written, whatever follows. -/
theorem quoted_append_inj {left right : String}
    (equal : (quoted left).toList ++ rest = (quoted right).toList ++ others) :
    left = right ∧ rest = others := by
  simp only [quoted, String.toList_ofList, List.cons_append, List.append_assoc,
    List.nil_append, List.cons.injEq, true_and] at equal
  obtain ⟨sameContent, sameRest⟩ := quotedChars_append_inj equal
  exact ⟨String.toList_inj.mp sameContent, sameRest⟩

end QueryTree.Text
