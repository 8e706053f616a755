import QueryTree.Proofs.Language.Followed

/-!
# The layout of a text

Between its tokens a text may be laid out at will: more text that is ignored can be
inserted, text that is ignored can be replaced by other such text, and a block string can
be written as an ordinary string.  The lexemes stay what they are, up to the way in which
strings are written.

A token is read in the same way if other text takes the place of the rest behind it, as
long as that text does not join the token.  An empty string is the exception to be kept in
mind: with a quote behind it, it would be the beginning of a block string.
-/

namespace QueryTree

open QueryTree.Text

namespace Lexer

/-! ## Changes of the layout -/

/-- Text that may stand between tokens: blanks, commas, line ends and byte order marks, and
comments together with the line end that closes them. -/
inductive Ignorable : List Char → Prop where
  | nil : Ignorable []
  | blank {character : Char} {run : List Char} (ignored : isIgnored character = true)
      (others : Ignorable run) : Ignorable (character :: run)
  | comment {text run : List Char} {close : Char} (all : text.all isCommentChar = true)
      (closes : close = '\n' ∨ close = '\r') (others : Ignorable run) :
      Ignorable ('#' :: (text ++ close :: run))

/-- Whether a text is ignored in front of a rest.  Where there is no rest, a comment needs no
line end. -/
def Ignored (run rest : List Char) : Prop :=
  Ignorable run ∨ rest = [] ∧ ∃ front text, run = front ++ '#' :: text ∧ Ignorable front ∧
    text.all isCommentChar = true

/-- Whether a text is a token in front of a rest. -/
def IsToken (spelling : List Char) (lexeme : Lexeme) (rest : List Char) : Prop :=
  ∃ first others token cursor, spelling = first :: others ∧
    tokenStep "" .start first (others ++ rest) = (token, cursor, rest) ∧
      token.lexeme = lexeme ∧ lexeme.isReal = true

/-- Whether a text is cut in two at the boundary of a token. -/
inductive Boundary : List Char → List Char → Prop where
  | start (after : List Char) : Boundary [] after
  | ignored {run before after : List Char} (ignorable : Ignorable run)
      (boundary : Boundary before after) : Boundary (run ++ before) after
  | token {spelling before after : List Char} {lexeme : Lexeme}
      (isToken : IsToken spelling lexeme (before ++ after))
      (boundary : Boundary before after) : Boundary (spelling ++ before) after

/-- Whether a block string and an ordinary string, each given by what follows its opening
quotes, have the same content.  The block string stands between two texts. -/
structure SameContent (before block string after : List Char) : Prop where
  boundary : Boundary before ('"' :: '"' :: '"' :: (block ++ after))
  content : ∃ raw cursor width, blockBody .start (block ++ after) = .closed raw cursor after ∧
    stringBody string = .closed (blockValue raw) width []

/-- A change of the layout of a text. -/
inductive Relaid : List Char → List Char → Prop where
  | insert {before run after : List Char} (boundary : Boundary before after)
      (ignored : Ignored run after) : Relaid (before ++ after) (before ++ (run ++ after))
  | replace {before run other after : List Char} (boundary : Boundary before (run ++ after))
      (nonempty : run ≠ []) (ignored : Ignored run after) (otherNonempty : other ≠ [])
      (otherIgnored : Ignored other after) :
      Relaid (before ++ (run ++ after)) (before ++ (other ++ after))
  | restyle {before block string after : List Char}
      (same : SameContent before block string after)
      (apart : startsTripleQuote ('"' :: (string ++ after)) = false) :
      Relaid (before ++ '"' :: '"' :: '"' :: (block ++ after)) (before ++ '"' :: (string ++ after))

/-! ## Lexemes without their places -/

/-- What is skipped does not depend on where it stands. -/
theorem skipIgnored_snd (cursor : Cursor) (characters : List Char) :
    (skipIgnored cursor characters).2 = characters.dropWhile isIgnored := by
  fun_induction skipIgnored cursor characters with
  | case1 => rfl
  | case2 cursor character rest blank ih =>
    have ignored : isIgnored character = true := by
      rcases blank with rfl | rfl | rfl | isMark
      · decide
      · decide
      · decide
      · rw [← Char.ofNat_toNat character, isMark]
        decide
    rw [ih, List.dropWhile_cons_of_pos ignored]
  | case3 cursor rest _ ih =>
    rw [ih, List.dropWhile_cons_of_pos (by decide)]
  | case4 cursor rest _ _ ih =>
    rw [ih, List.dropWhile_cons_of_pos (by decide), List.dropWhile_cons_of_pos (by decide)]
  | case5 cursor next rest _ _ _ ih =>
    have ignored : isIgnored '\r' = true := by decide
    rw [ih, List.dropWhile_cons_of_pos ignored]
  | case6 => rfl
  | case7 cursor character rest notBlank notLine notReturn =>
    rw [List.dropWhile_cons_of_neg]
    simp only [isIgnored, List.contains_eq_mem, decide_eq_true_eq, List.mem_cons,
      List.not_mem_nil, or_false]
    rintro (rfl | rfl | rfl | rfl | rfl | rfl)
    · exact notBlank (.inl rfl)
    · exact notBlank (.inr (.inl rfl))
    · exact notBlank (.inr (.inr (.inl rfl)))
    · exact notBlank (.inr (.inr (.inr rfl)))
    · exact notLine rfl
    · exact notReturn rfl

/-- What a scan found, wherever it ended. -/
def BlockScan.unplaced : BlockScan → BlockScan
  | .closed raw _ rest => .closed raw .start rest
  | .failed fault _ => .failed fault .start

@[simp]
theorem BlockScan.unplaced_push (scan : BlockScan) (characters : List Char) :
    (scan.push characters).unplaced = scan.unplaced.push characters := by
  cases scan <;> rfl

/-- A block string does not depend on where it stands. -/
theorem blockBody_unplaced (cursor other : Cursor) (characters : List Char) :
    (blockBody cursor characters).unplaced = (blockBody other characters).unplaced := by
  fun_induction blockBody cursor characters generalizing other with
  | case1 => rfl
  | case2 cursor character rest isEnd =>
    obtain ⟨rfl, quotes⟩ := isEnd
    rw [blockBody.eq_def other]
    simp [quotes, BlockScan.unplaced]
  | case3 cursor rest notEnd ih =>
    rw [blockBody.eq_def other]
    simp [ih (other.advance 2).beginLine]
  | case4 cursor next rest notLine notEnd ih =>
    rw [blockBody.eq_def other]
    simp [notLine, ih (other.advance 1).beginLine]
  | case5 cursor notEnd =>
    rw [blockBody.eq_def other]
    simp [BlockScan.unplaced]
  | case6 cursor rest notEnd notReturn ih =>
    rw [blockBody.eq_def other]
    simp [ih (other.advance 1).beginLine]
  | case7 cursor character rest notEnd notReturn notLine control =>
    rw [blockBody.eq_def other]
    simp [notEnd, notReturn, notLine, control, BlockScan.unplaced]
  | case8 cursor a b c rest quotes _ _ _ _ ih =>
    rw [blockBody.eq_def other]
    simp [quotes, ih (other.advance 4)]
  | case9 cursor a b c rest noQuotes _ _ _ _ ih =>
    rw [blockBody.eq_def other]
    simp [noQuotes, ih (other.advance 1)]
  | case10 cursor rest short _ _ _ _ ih =>
    rw [blockBody.eq_def other]
    simp [ih (other.advance 1)]
  | case11 cursor character rest notEnd notReturn notLine notControl notEscape ih =>
    rw [blockBody.eq_def other]
    simp [notEnd, notReturn, notLine, notControl, notEscape, ih (other.advance 1)]

/-- The lexeme that a step found and what follows it. -/
def lexed (step : Step) : Lexeme × List Char := (step.1.lexeme, step.2.2)

/-- A token does not depend on where it stands. -/
theorem lexed_tokenStep (source target : String) (cursor other : Cursor) (first : Char)
    (rest : List Char) :
    lexed (tokenStep source cursor first rest) = lexed (tokenStep target other first rest) := by
  have block (characters : List Char) :
      lexed (blockStep source cursor characters) = lexed (blockStep target other characters) := by
    have same := blockBody_unplaced (cursor.advance 3) (other.advance 3) characters
    unfold blockStep
    cases found : blockBody (cursor.advance 3) characters <;>
      cases again : blockBody (other.advance 3) characters <;>
        rw [found, again] at same <;> cases same <;> rfl
  unfold tokenStep
  split
  · rfl
  · split
    · split <;> rfl
    · split
      · rfl
      · split
        · rfl
        · split
          · unfold numberStep
            split <;> rfl
          · split
            · split
              · exact block _
              · unfold stringStep
                split <;> rfl
            · rfl

/-- The first lexeme of a text and what follows it. -/
def firstLexeme (characters : List Char) : Lexeme × List Char :=
  match characters.dropWhile isIgnored with
  | [] => (.mark .endOfInput, [])
  | first :: rest => lexed (tokenStep "" .start first rest)

theorem lexed_nextToken (source : String) (cursor : Cursor) (characters : List Char) :
    lexed (nextToken source cursor characters) = firstLexeme characters := by
  have skipped := skipIgnored_snd cursor characters
  unfold nextToken firstLexeme
  split
  next found =>
    rw [found] at skipped
    rw [← skipped]
    rfl
  next found =>
    rw [found] at skipped
    rw [← skipped]
    exact lexed_tokenStep ..

/-- At most `bound` lexemes of a text. -/
def lexemesUpTo : Nat → List Char → List Lexeme
  | 0, _ => []
  | bound + 1, characters =>
    let (lexeme, rest) := firstLexeme characters
    if isFinal lexeme.kind then [lexeme] else lexeme :: lexemesUpTo bound rest

theorem map_lexeme_tokens (source : String) (bound : Nat) (cursor : Cursor)
    (characters : List Char) :
    (tokens source bound cursor characters).map Token.lexeme = lexemesUpTo bound characters := by
  induction bound generalizing cursor characters with
  | zero => rfl
  | succ bound ih =>
    rw [tokens, lexemesUpTo, ← lexed_nextToken source cursor]
    simp only [lexed, apply_ite (List.map Token.lexeme), List.map_cons, List.map_nil, ih]
    rfl

variable {characters rest other spelling text run after : List Char} {lexeme : Lexeme}
variable {character : Char}

/-- A token takes at least one character. -/
theorem firstLexeme_shorter (read : firstLexeme characters = (lexeme, rest))
    (notFinal : isFinal lexeme.kind = false) : rest.length < characters.length := by
  rw [← lexed_nextToken "" .start] at read
  rcases step : nextToken "" .start characters with ⟨token, after, left⟩
  rw [step] at read
  cases read
  rcases nextToken_cases step with ⟨isEnd, _⟩ | ⟨fault, invalid⟩ | steps
  · rw [isEnd] at notFinal
    cases notFinal
  · rw [invalid] at notFinal
    cases notFinal
  · exact steps.shorter

/-- A bound that suffices does not matter. -/
theorem lexemesUpTo_of_lt {bound more : Nat} (enough : characters.length < bound)
    (less : bound ≤ more) : lexemesUpTo more characters = lexemesUpTo bound characters := by
  induction bound generalizing more characters with
  | zero => cases enough
  | succ bound ih =>
    cases more with
    | zero => cases less
    | succ more =>
      rcases read : firstLexeme characters with ⟨lexeme, rest⟩
      simp only [lexemesUpTo, read]
      cases notFinal : isFinal lexeme.kind with
      | true => rfl
      | false =>
        have shorter := firstLexeme_shorter read notFinal
        simp only [Bool.false_eq_true, if_false]
        rw [ih (by omega) (Nat.le_of_succ_le_succ less)]

/-- The lexemes of a text, up to its end or the first piece that is no token. -/
def lexemes (characters : List Char) : List Lexeme :=
  (lexemesUpTo (characters.length + 1) characters).filter fun lexeme => lexeme.kind != .comment

/-- The lexemes of what follows the first one. -/
theorem lexemes_of_firstLexeme (read : firstLexeme characters = (lexeme, rest))
    (notFinal : isFinal lexeme.kind = false) :
    lexemes characters =
      if lexeme.kind = .comment then lexemes rest else lexeme :: lexemes rest := by
  have shorter := firstLexeme_shorter read notFinal
  have all : lexemesUpTo (characters.length + 1) characters =
      lexeme :: lexemesUpTo (rest.length + 1) rest := by
    rw [lexemesUpTo, read]
    simp only [notFinal, Bool.false_eq_true, if_false]
    rw [lexemesUpTo_of_lt (Nat.lt_succ_self rest.length) shorter]
  rw [lexemes, all, List.filter_cons, lexemes]
  by_cases isComment : lexeme.kind = .comment <;> simp [isComment]

theorem lexemes_ignored (ignored : isIgnored character = true) (rest : List Char) :
    lexemes (character :: rest) = lexemes rest := by
  have first : firstLexeme (character :: rest) = firstLexeme rest := by
    rw [firstLexeme, List.dropWhile_cons_of_pos ignored, firstLexeme]
  have same (bound : Nat) : lexemesUpTo bound (character :: rest) = lexemesUpTo bound rest := by
    cases bound with
    | zero => rfl
    | succ bound => rw [lexemesUpTo, first, lexemesUpTo]
  have enough : lexemesUpTo ((character :: rest).length + 1) rest =
      lexemesUpTo (rest.length + 1) rest :=
    lexemesUpTo_of_lt (Nat.lt_succ_self _) (Nat.le_succ _)
  rw [lexemes, same, enough, lexemes]

/-- The lexemes of a token and what takes the place of the rest behind it. -/
theorem Spells.lexemes (spells : Spells spelling lexeme rest)
    (follows : Follows (joins lexeme.kind) rest other) :
    lexemes (spelling ++ other) =
      if lexeme.kind = .comment then lexemes other else lexeme :: lexemes other := by
  obtain ⟨token, after, read, isLexeme, _⟩ := spells.step other follows "" .start
  apply lexemes_of_firstLexeme _ spells.notFinal
  rw [← lexed_nextToken "" .start, read, ← isLexeme]
  rfl

/-! ## Text that is ignored -/

theorem lexemes_comment (all : text.all isCommentChar = true) (ends : Ends isCommentChar rest) :
    lexemes ('#' :: (text ++ rest)) = lexemes rest :=
  (comment_spells all ends).lexemes (.refl _ rest)

theorem lexemes_ignorable (ignorable : Ignorable run) (rest : List Char) :
    lexemes (run ++ rest) = lexemes rest := by
  induction ignorable with
  | nil => rfl
  | blank ignored _ ih => rw [List.cons_append, lexemes_ignored ignored, ih]
  | @comment text run close all closes _ ih =>
    have closed : isCommentChar close = false ∧ isIgnored close = true := by
      rcases closes with rfl | rfl <;> decide
    have ends : Ends isCommentChar (close :: (run ++ rest)) := ends_cons _ closed.1
    rw [List.cons_append, List.append_assoc, List.cons_append, lexemes_comment all ends,
      lexemes_ignored closed.2, ih]

theorem Ignored.lexemes (ignored : Ignored run rest) : lexemes (run ++ rest) = lexemes rest := by
  rcases ignored with ignorable | ⟨rfl, front, text, rfl, ignorable, all⟩
  · exact lexemes_ignorable ignorable rest
  · have comment := lexemes_comment all (ends_nil _)
    rw [List.append_assoc, lexemes_ignorable ignorable]
    exact comment

theorem not_isJoining_of_isIgnored (ignored : isIgnored character = true) :
    isJoining character = false := by
  have none : ['\t', ' ', ',', Char.ofNat 0xFEFF, '\n', '\r'].any isJoining = false := by decide
  rw [isIgnored, List.contains_iff_mem] at ignored
  exact Bool.eq_false_iff.mpr (List.any_eq_false.mp none character ignored)

theorem Ignorable.ends (ignorable : Ignorable run) (nonempty : run ≠ []) (rest : List Char) :
    Ends isJoining (run ++ rest) := by
  cases ignorable with
  | nil => exact absurd rfl nonempty
  | blank ignored => exact ends_cons _ (not_isJoining_of_isIgnored ignored)
  | comment => exact ends_cons _ (by decide)

/-- Text that is ignored joins no token before it. -/
theorem Ignored.ends (ignored : Ignored run rest) (nonempty : run ≠ []) :
    Ends isJoining (run ++ rest) := by
  rcases ignored with ignorable | ⟨_, front, text, rfl, ignorable, _⟩
  · exact ignorable.ends nonempty rest
  · rw [List.append_assoc]
    cases front with
    | nil => exact ends_cons _ (by decide)
    | cons first front => exact ignorable.ends (List.cons_ne_nil _ _) _

/-! ## Tokens before a change -/

theorem IsToken.spells (isToken : IsToken spelling lexeme rest) :
    Spells spelling lexeme rest ∧ lexeme.kind ≠ .comment := by
  obtain ⟨first, others, token, cursor, rfl, read, rfl, isReal⟩ := isToken
  rw [Lexeme.isReal, Bool.and_eq_true, Bool.not_eq_true', decide_eq_true_eq] at isReal
  refine ⟨?_, isReal.2⟩
  rcases tokenStep_cases read with ⟨fault, invalid⟩ | ⟨spelling, cut, spells⟩
  · rw [invalid] at isReal
    cases isReal.1
  · rw [← List.cons_append] at cut
    rw [List.append_cancel_right cut]
    exact spells

/-- The lexemes before a boundary stay what they are if other text follows that joins none of
them. -/
theorem Boundary.lexemes {before : List Char} (boundary : Boundary before after) :
    ∃ front, ∀ other, Follows isJoining after other →
      lexemes (before ++ other) = front ++ lexemes other := by
  induction boundary with
  | start => exact ⟨[], fun _ _ => rfl⟩
  | ignored ignorable _ ih =>
    obtain ⟨front, same⟩ := ih
    refine ⟨front, fun other follows => ?_⟩
    rw [List.append_assoc, lexemes_ignorable ignorable, same other follows]
  | @token spelling before after lexeme isToken _ ih =>
    obtain ⟨front, same⟩ := ih
    obtain ⟨spells, notComment⟩ := isToken.spells
    refine ⟨lexeme :: front, fun other follows => ?_⟩
    have joins : joins lexeme.kind = isJoining := if_neg notComment
    have behind : Follows (Lexer.joins lexeme.kind) (before ++ after) (before ++ other) := by
      rw [joins]
      exact follows.append before
    rw [List.append_assoc, spells.lexemes behind, if_neg notComment, same other follows]
    rfl

/-- Whether texts are tokens, one after the other, in front of a rest. -/
def areTokens : List (List Char) → List Char → Bool
  | [], _ => true
  | [] :: _, _ => false
  | (first :: spelling) :: others, after =>
    let (token, _, left) := tokenStep "" .start first (spelling ++ (others.flatten ++ after))
    token.lexeme.isReal && left == others.flatten ++ after && areTokens others after

theorem boundary_of_areTokens {spellings : List (List Char)}
    (all : areTokens spellings after = true) : Boundary spellings.flatten after := by
  fun_induction areTokens spellings after with
  | case1 => exact .start _
  | case2 => cases all
  | case3 first spelling others after token cursor left read ih =>
    simp only [Bool.and_eq_true, beq_iff_eq] at all
    obtain ⟨⟨isReal, rfl⟩, others⟩ := all
    exact .token ⟨first, spelling, token, cursor, rfl, read, rfl, isReal⟩ (ih others)

/-- Lexemes keep their senses if the layout of a text is changed. -/
theorem Relaid.lexemes (relaid : Relaid text other) :
    (lexemes other).map Lexeme.sense = (lexemes text).map Lexeme.sense := by
  cases relaid with
  | @insert before run after boundary ignored =>
    obtain ⟨front, same⟩ := boundary.lexemes
    have follows : Follows isJoining after (run ++ after) := by
      cases run with
      | nil => exact .refl _ _
      | cons first run => exact .inr (ignored.ends (List.cons_ne_nil _ _))
    rw [same _ follows, ignored.lexemes, same after (.refl _ _)]
  | @replace before run other after boundary _ ignored otherNonempty otherIgnored =>
    obtain ⟨front, same⟩ := boundary.lexemes
    rw [same _ (.inr (otherIgnored.ends otherNonempty)), same _ (.refl _ _), ignored.lexemes,
      otherIgnored.lexemes]
  | @restyle before block string after content apart =>
    obtain ⟨front, same⟩ := content.boundary.lexemes
    obtain ⟨raw, cursor, width, isBlock, isString⟩ := content.content
    obtain ⟨_, cut, reads⟩ := blockBody_front isBlock
    rw [← List.append_cancel_right cut] at reads
    obtain ⟨_, cut, closes⟩ := stringBody_front isString
    rw [← List.append_cancel_right ((List.append_nil _).trans cut)] at closes
    have asBlock := (Spells.block reads after).lexemes (.refl _ after)
    have asString := (string_spells apart closes).lexemes (.refl _ after)
    simp only [List.cons_append, reduceCtorEq, if_false] at asBlock asString
    rw [same ('"' :: (string ++ after)) (.inl rfl), same _ (.refl _ _), asBlock, asString]
    simp [Lexeme.sense]

end Lexer

end QueryTree
