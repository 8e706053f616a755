import QueryTree.Command.Format
import QueryTree.Proofs.Document.Order
import QueryTree.Proofs.Document.Readable
import QueryTree.Proofs.Document.StringValue

/-!
# Written definitions are read back

The format command writes each definition on a line of its own.  If no string needs
a foreign escape, the tokens of the text are those of its definitions, one after the
other and on lines that increase, so that the text is read as the same definitions in
the same order.
-/

namespace QueryTree

namespace Lexer

/-! ## Tokens of the text -/

/-- The tokens of definitions that are written one to a line, from a line onwards. -/
structure LineTokens (line : Nat) (definitions : List Definition)
    (groups : List (List Token)) : Prop where
  spelled : groups.map (List.map Token.lexeme) = definitions.map Definition.lexemes
  plain : ∀ token ∈ groups.flatten, token.lexeme.isReal = true ∧ token.comment = none
  onward : ∀ token ∈ groups.flatten, (line : Int) ≤ token.position.line
  increasing : groups.Pairwise fun left right =>
    ∀ token ∈ left, ∀ other ∈ right, token.position.line < other.position.line

namespace LineTokens

theorem nil (line : Nat) : LineTokens line [] [] where
  spelled := rfl
  plain := by simp
  onward := by simp
  increasing := .nil

/-- A definition on one line before others on later lines. -/
theorem cons {line start : Nat} {definition : Definition} {definitions : List Definition}
    {group : List Token} {groups : List (List Token)}
    (later : LineTokens (line + 1) definitions groups)
    (spelled : group.map Token.lexeme = definition.lexemes)
    (real : ∀ lexeme ∈ definition.lexemes, lexeme.isReal = true)
    (onLine : ∀ token ∈ group, token.position.line = line ∧ token.comment = none)
    (onward : start ≤ line) : LineTokens start (definition :: definitions) (group :: groups) where
  spelled := by rw [List.map_cons, List.map_cons, spelled, later.spelled]
  plain token member := by
    rcases List.mem_append.mp member with inGroup | inGroups
    · refine ⟨real _ ?_, (onLine token inGroup).2⟩
      rw [← spelled]
      exact List.mem_map_of_mem inGroup
    · exact later.plain token inGroups
  onward token member := by
    rcases List.mem_append.mp member with inGroup | inGroups
    · have place := (onLine token inGroup).1
      omega
    · have place := later.onward token inGroups
      omega
  increasing := by
    refine List.pairwise_cons.mpr ⟨fun other isOther token inGroup next isNext => ?_,
      later.increasing⟩
    have place := (onLine token inGroup).1
    have after := later.onward next (List.mem_flatten.mpr ⟨other, isOther, isNext⟩)
    omega

end LineTokens

open FormatCommand

/-- What stands before a definition. -/
def gap (first : Bool) : List Char := if first then [] else ['\n']

/-- An empty line before a definition moves to the next line. -/
theorem tokens_gap (first : Bool) (source : String) (cursor : Cursor) :
    ∃ after : Cursor, cursor.line ≤ after.line ∧ ∀ bound rest,
      tokens source bound cursor (gap first ++ rest) = tokens source bound after rest := by
  cases first with
  | true => exact ⟨cursor, Nat.le_refl _, fun _ _ => rfl⟩
  | false =>
    exact ⟨(cursor.advance 1).beginLine, Nat.le_succ _, fun bound rest =>
      tokens_of_skipIgnored (skipIgnored_line cursor rest) source bound⟩

theorem definitionsText_toList (first : Bool) (definition : Definition)
    (definitions : List Definition) :
    (definitionsText first (definition :: definitions)).toList =
      gap first ++ (definition.canonical.toList ++
        '\n' :: (definitionsText false definitions).toList) := by
  cases first <;> simp [definitionsText, gap]

variable {definitions : List Definition}

/-- Definitions without foreign escapes are written so that the tokens of the text are
theirs. -/
theorem tokens_definitionsText (formed : ∀ definition ∈ definitions, definition.WellFormed)
    (plain : ∀ definition ∈ definitions, definition.isForeign = false) (first : Bool)
    (source : String) (cursor : Cursor) :
    ∃ groups after, LineTokens cursor.line definitions groups ∧ ∀ bound,
      tokens source (bound + (definitions.flatMap Definition.lexemes).length) cursor
          (definitionsText first definitions).toList =
        groups.flatten ++ tokens source bound after [] := by
  induction definitions generalizing first cursor with
  | nil => exact ⟨[], cursor, .nil _, fun bound => by simp [definitionsText]⟩
  | cons definition definitions ih =>
    have spells := definition.lexes_canonical (formed definition List.mem_cons_self)
      ('\n' :: (definitionsText false definitions).toList) (Lexer.ends_anything _)
    have known : ∀ lexeme ∈ definition.lexemes, lexeme.isForeign = false := by
      simpa [definition.isForeign_eq_any] using plain definition List.mem_cons_self
    obtain ⟨start, onward, skips⟩ := tokens_gap first source cursor
    obtain ⟨group, between, spelled, onLine, same⟩ := spells.fine known source start
    obtain ⟨groups, after, later, sames⟩ := ih
      (List.forall_mem_cons.mp formed).2
      (List.forall_mem_cons.mp plain).2 false
      (between.advance 1).beginLine
    -- The line break after the definition puts all others on later lines.
    have nextLine : (between.advance 1).beginLine.line = start.line + 1 :=
      congrArg (· + 1) onLine.line
    rw [nextLine] at later
    refine ⟨group :: groups, after, later.cons spelled spells.real onLine.tokens onward,
      fun bound => ?_⟩
    rw [definitionsText_toList, skips, List.flatMap_cons, List.length_append,
      Nat.add_comm definition.lexemes.length, ← Nat.add_assoc, same,
      tokens_of_skipIgnored (skipIgnored_line between _), sames, List.flatten_cons,
      List.append_assoc]

theorem length_definitionsText (formed : ∀ definition ∈ definitions, definition.WellFormed)
    (first : Bool) :
    (definitions.flatMap Definition.lexemes).length ≤
      (definitionsText first definitions).toList.length := by
  induction definitions generalizing first with
  | nil => exact Nat.zero_le _
  | cons definition definitions ih =>
    have size := (definition.lexes_canonical (formed definition List.mem_cons_self)).length_le
    have others := ih (List.forall_mem_cons.mp formed).2 false
    rw [definitionsText_toList, List.flatMap_cons]
    simp only [List.length_append, List.length_cons]
    omega

end Lexer

theorem Token.withoutComments_eq_self {tokens : List Token}
    (plain : ∀ token ∈ tokens, token.kind ≠ .comment ∧ token.comment = none) :
    withoutComments none tokens = tokens := by
  induction tokens with
  | nil => rfl
  | cons first tokens ih =>
    obtain ⟨kind, text, position, comment⟩ := first
    obtain ⟨notComment, none⟩ := plain _ List.mem_cons_self
    dsimp only at notComment none
    rw [withoutComments, if_neg notComment, none, ih (List.forall_mem_cons.mp plain).2]

theorem Token.notComment_of_isReal {token : Token} (real : token.lexeme.isReal = true) :
    token.kind ≠ .comment := by
  intro isComment
  simp [Lexeme.isReal, Token.lexeme, isComment] at real

namespace FormatCommand

open QueryTree.Lexer

/-- The reader of a written text sees the tokens of its definitions and then the end. -/
theorem exists_written {definitions : List Definition}
    (formed : ∀ definition ∈ definitions, definition.WellFormed)
    (plain : ∀ definition ∈ definitions, definition.isForeign = false) (source : String) :
    ∃ groups last, LineTokens 1 definitions groups ∧ last.kind = .endOfInput ∧
      Token.withoutComments none (lex source (definitionsText true definitions)) =
        groups.flatten ++ [last] := by
  obtain ⟨groups, after, written, same⟩ := tokens_definitionsText formed plain true source .start
  have size := length_definitionsText formed true
  obtain ⟨spare, enough⟩ := Nat.exists_eq_add_of_le size
  have text : lex source (definitionsText true definitions) =
      groups.flatten ++ [⟨.endOfInput, "", after.position source, none⟩] := by
    have bound : (definitionsText true definitions).toList.length + 1 =
        spare + 1 + (definitions.flatMap Definition.lexemes).length := by omega
    rw [lex, bound, same]
    rfl
  refine ⟨groups, ⟨.endOfInput, "", after.position source, none⟩, written, rfl, ?_⟩
  rw [text]
  refine Token.withoutComments_eq_self fun token member => ?_
  rcases List.mem_append.mp member with inGroups | isLast
  · obtain ⟨real, none⟩ := written.plain token inGroups
    exact ⟨Token.notComment_of_isReal real, none⟩
  · rw [List.mem_singleton.mp isLast]
    exact ⟨nofun, rfl⟩

end FormatCommand

namespace Lexer.LineTokens

variable {line : Nat} {definitions : List Definition} {groups : List (List Token)}
variable (written : LineTokens line definitions groups)

include written

theorem map_flatten : groups.flatten.map Token.lexeme = definitions.flatMap Definition.lexemes := by
  rw [List.map_flatten, written.spelled, List.flatMap_def]

theorem headD_mem {group : List Token} (member : group ∈ groups) :
    group.headD .missing ∈ group := by
  have listed : group.map Token.lexeme ∈ definitions.map Definition.lexemes := by
    rw [← written.spelled]
    exact List.mem_map_of_mem member
  obtain ⟨definition, _, same⟩ := List.mem_map.mp listed
  cases group with
  | nil => cases same
  | cons first others => exact List.mem_cons_self

/-- What is read from tokens on increasing lines stands on increasing lines. -/
theorem pairwise_line {found : List Definition}
    (places : found.map Definition.position =
      groups.map fun group => (group.headD .missing).position) :
    found.Pairwise fun left right => left.position.line < right.position.line := by
  have heads : (groups.map fun group => (group.headD .missing).position).Pairwise
      fun left right => left.line < right.line := by
    rw [List.pairwise_map]
    exact written.increasing.imp_of_mem fun isLeft isRight before =>
      before _ (written.headD_mem isLeft) _ (written.headD_mem isRight)
  rw [← places, List.pairwise_map] at heads
  exact heads

end Lexer.LineTokens

namespace FormatCommand

open QueryTree.Lexer

/-- Definitions that are written without foreign escapes are read back. -/
theorem parseAll_definitionsText {definitions : List Definition}
    (formed : ∀ definition ∈ definitions, definition.WellFormed)
    (readable : ∀ definition ∈ definitions, definition.Readable)
    (plain : ∀ definition ∈ definitions, definition.isForeign = false) (source : String) :
    ∃ again, Definition.parseAll source (definitionsText true definitions) = .ok again ∧
      again.map Definition.stripped = definitions.map Definition.stripped := by
  obtain ⟨groups, last, written, isEnd, tokens⟩ := exists_written formed plain source
  have size : (groups.flatten ++ [last]).length =
      (definitions.flatMap Definition.lexemes).length + 1 := by
    rw [← written.map_flatten, List.length_map, List.length_append, List.length_singleton]
  have count : definitions.length ≤ (definitions.flatMap Definition.lexemes).length :=
    Parser.length_le_flatMap_of_ne_nil fun _ _ => List.cons_ne_nil _ _
  have deep : ∀ definition ∈ definitions,
      definition.lexemes.length ≤ (groups.flatten ++ [last]).length := by
    intro definition member
    have part : definition.lexemes.length ≤ (definitions.flatMap Definition.lexemes).length :=
      length_le_flatMap member
    omega
  obtain ⟨found, same, places, read⟩ := Grammar.definitionsUpTo_reads formed readable deep
    (show definitions.length < (groups.flatten ++ [last]).length by omega) written.spelled isEnd
  rw [← Grammar.document_apply, ← tokens] at read
  refine ⟨found, ?_, same⟩
  rw [Definition.parseAll_eq_ok read,
    Document.definitions_ofDefinitions (written.pairwise_line places)]

end FormatCommand

end QueryTree
