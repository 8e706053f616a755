import QueryTree.Language.Lexer
import QueryTree.Proofs.Text.Quoted

/-!
# Quoted text as a string

The lexer reads quoted text back as a string, except for the characters whose
escapes the query language does not know: two letters for control characters and
the escapes with two and with eight digits.
-/

namespace QueryTree

namespace Text

/-- Whether a character is escaped in a way that is foreign to the query language. -/
def isForeign (character : Char) : Bool :=
  match quotedChar character with
  | '\\' :: letter :: _ => ['a', 'v', 'x', 'U'].contains letter
  | _ => false

theorem printable_from_blank :
    (printableBasic ++ printableSupplementary).all (fun range => 0x20 ≤ range.1) = true := by
  decide +kernel

variable {character letter written : Char}

theorem le_of_isPrintable (printable : isPrintable character = true) : 0x20 ≤ character.toNat := by
  have bounded {ranges : List (Nat × Nat)}
      (among : ranges ⊆ printableBasic ++ printableSupplementary)
      (found : inRanges ranges character.toNat = true) : 0x20 ≤ character.toNat := by
    obtain ⟨range, member, inside⟩ := List.any_eq_true.mp found
    have from_blank := List.all_eq_true.mp printable_from_blank range (among member)
    simp only [decide_eq_true_eq, Bool.and_eq_true] at from_blank inside
    exact Nat.le_trans from_blank inside.1
  unfold isPrintable at printable
  dsimp only at printable
  split at printable
  · exact bounded (List.subset_append_left _ _) printable
  · exact bounded (List.subset_append_right _ _) printable

theorem le_of_mem_hexFixed {width value : Nat} {digit : Char}
    (member : digit ∈ hexFixed width value) : 0x20 ≤ digit.toNat := by
  induction width generalizing value with
  | zero => cases member
  | succ width ih =>
    rw [hexFixed, List.mem_append, List.mem_singleton] at member
    rcases member with inFront | rfl
    · exact ih inFront
    · have small : value % 16 < 16 := Nat.mod_lt _ (by decide)
      unfold hexDigit
      split
      · rw [toNat_ofNat_of_lt (by omega)]
        omega
      · rw [toNat_ofNat_of_lt (by omega)]
        omega

theorem le_of_controlLetter? (found : controlLetter? character = some letter) :
    0x20 ≤ letter.toNat := by
  unfold controlLetter? at found
  split at found <;> cases found <;> decide

theorem le_of_mem_escape (width value : Nat) (visible : 0x20 ≤ letter.toNat)
    (member : written ∈ '\\' :: letter :: hexFixed width value) : 0x20 ≤ written.toNat := by
  simp only [List.mem_cons] at member
  rcases member with rfl | rfl | digit
  · decide
  · exact visible
  · exact le_of_mem_hexFixed digit

/-- No control character stands in quoted text. -/
theorem le_of_mem_quotedChar (member : written ∈ quotedChar character) : 0x20 ≤ written.toNat := by
  unfold quotedChar at member
  split at member
  next special =>
    refine le_of_mem_escape 0 0 ?_ member
    rcases special with rfl | rfl <;> decide
  next =>
    split at member
    next printable =>
      rw [List.mem_singleton.mp member]
      exact le_of_isPrintable printable
    next =>
      split at member
      next letter found => exact le_of_mem_escape 0 0 (le_of_controlLetter? found) member
      next =>
        dsimp only at member
        split at member
        next => exact le_of_mem_escape 2 _ (by decide) member
        next =>
          split at member
          next => exact le_of_mem_escape 4 _ (by decide) member
          next => exact le_of_mem_escape 8 _ (by decide) member

/-- What is written for a character: itself, an escape that every string knows, a
foreign escape, or its code point with four digits. -/
inductive Writing (character : Char) : List Char → Prop
  | plain : character ≠ '"' → character ≠ '\\' → 0x20 ≤ character.toNat →
      Writing character [character]
  | letter {letter : Char} : letter ≠ 'u' → Lexer.escaped? letter = some character →
      Writing character ['\\', letter]
  | foreign {letter : Char} {rest : List Char} : letter ∈ ['a', 'v', 'x', 'U'] →
      Writing character ('\\' :: letter :: rest)
  | code : character.toNat < 0x10000 →
      Writing character ('\\' :: 'u' :: hexFixed 4 character.toNat)

theorem writing_control (found : controlLetter? character = some letter) :
    Writing character ['\\', letter] := by
  have named := Char.ofNat_toNat character
  unfold controlLetter? at found
  split at found
  case h_8 => cases found
  case h_1 | h_7 =>
    cases found
    exact .foreign (by decide)
  all_goals
    rename_i code
    cases found
    rw [code] at named
    rw [← named]
    exact .letter (by decide) (by decide)

theorem writing_quotedChar (character : Char) : Writing character (quotedChar character) := by
  unfold quotedChar
  split
  next special =>
    apply Writing.letter
    · rcases special with rfl | rfl <;> decide
    · rcases special with rfl | rfl <;> decide
  next ordinary =>
    obtain ⟨notQuote, notSlash⟩ := not_or.mp ordinary
    split
    next printable => exact .plain notQuote notSlash (le_of_isPrintable printable)
    next =>
      split
      next letter found => exact writing_control found
      next =>
        dsimp only
        split
        next => exact .foreign (by decide)
        next =>
          split
          next small => exact .code small
          next => exact .foreign (by decide)

theorem isForeign_iff : isForeign character = true ↔
    ∃ letter rest, quotedChar character = '\\' :: letter :: rest ∧
      letter ∈ ['a', 'v', 'x', 'U'] := by
  unfold isForeign
  split
  next letter rest written =>
    rw [written]
    simp
  next other =>
    constructor
    · intro impossible
      cases impossible
    · rintro ⟨letter, rest, written, _⟩
      exact (other letter rest written).elim

end Text

namespace Lexer

open QueryTree.Text

variable {character : Char} {text : List Char}

/-- A character with a known escape is read back, if something follows it. -/
theorem stringBody_quotedChar (known : isForeign character = false) (next : Char)
    (rest : List Char) :
    stringBody (quotedChar character ++ next :: rest) =
      (stringBody (next :: rest)).push character (quotedChar character).length := by
  have writing := writing_quotedChar character
  generalize written : quotedChar character = characters at writing
  cases writing with
  | plain notQuote notSlash visible =>
    have notLine : ¬ (character = '\n' ∨ character = '\r') := by
      rintro (rfl | rfl) <;> revert visible <;> decide
    have notControl : ¬ (character.toNat < 0x20 ∧ character ≠ '\t') := by omega
    rw [List.singleton_append, stringBody.eq_def]
    simp only [notQuote, notLine, notControl, notSlash, if_false]
    rfl
  | letter notCode stands =>
    rw [List.cons_append, stringBody.eq_def]
    simp [notCode, stands]
  | foreign unknown =>
    have foreign := isForeign_iff.mpr ⟨_, _, written, unknown⟩
    rw [known] at foreign
    cases foreign
  | code small =>
    obtain ⟨a, b, c, d, digits⟩ : ∃ a b c d, hexFixed 4 character.toNat = [a, b, c, d] :=
      ⟨_, _, _, _, rfl⟩
    have number : hexNumber? (hexFixed 4 character.toNat) = some character.toNat :=
      hexNumber?_hexFixed (by simpa using small)
    rw [digits] at number ⊢
    have same : scalar character.toNat = character := by
      rw [scalar, Char.ofNat_toNat]
      exact if_pos character.valid
    rw [List.cons_append, stringBody.eq_def]
    simp [number, same]

/-- A foreign escape is refused. -/
theorem stringBody_foreign (foreign : isForeign character = true) (rest : List Char) :
    ∃ fault width, stringBody (quotedChar character ++ rest) = .failed fault width := by
  obtain ⟨letter, others, written, unknown⟩ := isForeign_iff.mp foreign
  have notCode : letter ≠ 'u' := by
    rintro rfl
    revert unknown
    decide
  have none : escaped? letter = none := by
    simp only [List.mem_cons, List.not_mem_nil, or_false] at unknown
    rcases unknown with rfl | rfl | rfl | rfl <;> decide
  rw [written, List.cons_append, stringBody.eq_def]
  simp [notCode, none]

/-- Something follows a character between quotes, at least the closing quote. -/
theorem quotedChars_cons (text rest : List Char) :
    ∃ next others, quotedChars text ++ '"' :: rest = next :: others := by
  cases characters : quotedChars text with
  | nil => exact ⟨'"', rest, rfl⟩
  | cons next others => exact ⟨next, others ++ '"' :: rest, rfl⟩

/-- Quoted text without foreign escapes is read back. -/
theorem stringBody_quoted (known : text.all (!isForeign ·) = true) (rest : List Char) :
    ∃ width, stringBody (quotedChars text ++ '"' :: rest) = .closed text width rest := by
  induction text with
  | nil => exact ⟨0, by rw [stringBody.eq_def]; simp [quotedChars]⟩
  | cons character text ih =>
    rw [List.all_cons, Bool.and_eq_true, Bool.not_eq_true'] at known
    obtain ⟨width, closed⟩ := ih known.2
    obtain ⟨next, others, follows⟩ := quotedChars_cons text rest
    refine ⟨(quotedChar character).length + width, ?_⟩
    rw [quotedChars, List.flatMap_cons, List.append_assoc, ← quotedChars, follows,
      stringBody_quotedChar known.1, ← follows, closed, StringScan.push]

/-- Quoted text with a foreign escape is refused. -/
theorem stringBody_quoted_foreign (foreign : text.any isForeign = true) (rest : List Char) :
    ∃ fault width, stringBody (quotedChars text ++ '"' :: rest) = .failed fault width := by
  induction text with
  | nil => cases foreign
  | cons character text ih =>
    rw [quotedChars, List.flatMap_cons, List.append_assoc, ← quotedChars]
    cases first : isForeign character with
    | true => exact stringBody_foreign first _
    | false =>
      rw [List.any_cons, first, Bool.false_or] at foreign
      obtain ⟨fault, width, failed⟩ := ih foreign
      obtain ⟨next, others, follows⟩ := quotedChars_cons text rest
      refine ⟨fault, (quotedChar character).length + width, ?_⟩
      rw [follows, stringBody_quotedChar first, ← follows, failed, StringScan.push]

end Lexer

end QueryTree
