import Mathlib.Data.List.Forall2
import QueryTree.Proofs.Language.Followed

/-!
# Texts joined to one

A text that is read to its end consists of tokens, and they are found again if other text
follows after a gap.  Texts that are joined by line feeds, or by blanks where no comment is
open, therefore have the tokens of all of them, one text after the other.
-/

namespace QueryTree

open QueryTree.Text

/-! ## Texts -/

/-- Whether a text ends in a comment, so that a blank behind it belongs to the comment. -/
def endsInComment (text : String) : Bool :=
  (lex "" text).dropLast.getLast?.any fun token =>
    token.kind == .comment && token.text.toList.isSuffixOf text.toList

/-- Whether texts are joined to one by line feeds and blanks.  A blank does not end a
comment. -/
inductive Joined : List String → String → Prop where
  | nil : Joined [] ""
  | single (text : String) : Joined [text] text
  | line (text : String) {next : String} {texts : List String} {rest : String} :
      Joined (next :: texts) rest → Joined (text :: next :: texts) (text ++ "\n" ++ rest)
  | blank {text : String} (plain : endsInComment text = false) {next : String}
      {texts : List String} {rest : String} :
      Joined (next :: texts) rest → Joined (text :: next :: texts) (text ++ " " ++ rest)

/-- Whether a text has given lexemes and nothing that is no token. -/
def HasLexemes (text : String) (lexemes : List Lexeme) : Prop :=
  (lex "" text).map Token.lexeme = lexemes ++ [.mark .endOfInput]

namespace Lexer

variable {source : String} {cursor : Cursor} {characters : List Char} {bound : Nat}

/-! ## Tokens of a text -/

/-- The tokens of a text end with a final one, and no other token is final. -/
theorem tokens_eq_append (enough : characters.length < bound) :
    ∃ found last kind, tokens source bound cursor characters = found ++ [last] ∧
      last.lexeme = .mark kind ∧ isFinal kind = true ∧
        ∀ token ∈ found, isFinal token.kind = false := by
  induction bound generalizing cursor characters with
  | zero => cases enough
  | succ bound ih =>
    rcases step : nextToken source cursor characters with ⟨token, after, rest⟩
    rw [tokens, step]
    have final {kind : TokenKind} (isLast : token.lexeme = .mark kind)
        (isFinal : isFinal kind = true) : ∃ found last kind,
        (if Lexer.isFinal token.kind = true then [token]
          else token :: tokens source bound after rest) = found ++ [last] ∧
          last.lexeme = .mark kind ∧ Lexer.isFinal kind = true ∧
            ∀ token ∈ found, Lexer.isFinal token.kind = false := by
      have sameKind : token.kind = kind := congrArg Lexeme.kind isLast
      refine ⟨[], token, kind, ?_, isLast, isFinal, by simp⟩
      rw [sameKind, if_pos isFinal, List.nil_append]
    rcases nextToken_cases step with ⟨isEnd, _⟩ | ⟨fault, invalid⟩ | steps
    · exact final isEnd rfl
    · exact final invalid rfl
    · have fewer : rest.length < bound :=
        Nat.lt_of_lt_of_le steps.shorter (Nat.le_of_lt_succ enough)
      obtain ⟨found, last, kind, same, isLast, isKind, others⟩ := @ih after rest fewer
      have notFinal : isFinal token.kind = false := steps.notFinal
      refine ⟨token :: found, last, kind, ?_, isLast, isKind, ?_⟩
      · simp [notFinal, same]
      · rw [List.forall_mem_cons]
        exact ⟨notFinal, others⟩

/-- Whether a text consists of tokens with given lexemes. -/
inductive Consists : List Char → List Lexeme → Prop where
  | nil {characters : List Char} (skips : Skips characters []) : Consists characters []
  | cons {characters rest : List Char} {lexeme : Lexeme} {lexemes : List Lexeme}
      (steps : StepsTo characters lexeme rest) (others : Consists rest lexemes) :
      Consists characters (lexeme :: lexemes)

/-- A text whose tokens end with the end of the input consists of the others. -/
theorem consists_of_tokens {lexemes : List Lexeme}
    (read : (tokens source bound cursor characters).map Token.lexeme =
      lexemes ++ [.mark .endOfInput]) : Consists characters lexemes := by
  induction bound generalizing cursor characters lexemes with
  | zero =>
    have lengths := congrArg List.length read
    simp [tokens] at lengths
  | succ bound ih =>
    rcases step : nextToken source cursor characters with ⟨token, after, rest⟩
    rw [tokens, step] at read
    rcases nextToken_cases step with ⟨isEnd, skips⟩ | ⟨fault, invalid⟩ | steps
    · have final : isFinal token.kind = true := by
        rw [show token.kind = .endOfInput from congrArg Lexeme.kind isEnd]
        rfl
      have none : lexemes = [] := by
        have lengths := congrArg List.length read
        simpa [final] using lengths
      rw [none]
      exact .nil skips
    · have isInvalid : token.kind = .invalid fault := congrArg Lexeme.kind invalid
      have lasts := congrArg List.getLast? read
      simp [isInvalid, isFinal, invalid, Lexeme.mark] at lasts
    · have notFinal : isFinal token.kind = false := steps.notFinal
      have goesOn : token.lexeme :: (tokens source bound after rest).map Token.lexeme =
          lexemes ++ [.mark .endOfInput] := by simpa [notFinal] using read
      cases lexemes with
      | nil =>
        have same := congrArg Lexeme.kind (List.cons.inj goesOn).1
        rw [show token.kind = .endOfInput from same] at notFinal
        cases notFinal
      | cons first lexemes =>
        rw [List.cons_append, List.cons.injEq] at goesOn
        obtain ⟨rfl, others⟩ := goesOn
        exact .cons steps (ih others)

namespace Consists

variable {lexemes : List Lexeme}

/-- Nothing consists of no tokens. -/
theorem eq_nil (consists : Consists [] lexemes) : lexemes = [] := by
  cases consists with
  | nil => rfl
  | cons steps => exact absurd steps.shorter (Nat.not_lt_zero _)

/-- Every token takes a character. -/
theorem length_le (consists : Consists characters lexemes) :
    lexemes.length ≤ characters.length := by
  induction consists with
  | nil => exact Nat.zero_le _
  | cons steps _ ih => exact Nat.lt_of_le_of_lt ih steps.shorter

/-- If a text goes on after a gap, its tokens are found again, in other places, before
those of what follows.  If the text ends with a comment, what follows has to end it. -/
theorem followed (consists : Consists characters lexemes)
    {tail : List Char} (gap : IsGap tail)
    (ends : ∀ lexeme, lexemes.getLast? = some lexeme → lexeme.kind = .comment →
      lexeme.text.toList <:+ characters → Ends isCommentChar tail)
    (source : String) (start : Cursor) :
    ∃ found stop, found.map Token.lexeme = lexemes ∧ Span source start found stop ∧
      ∀ more, tokens source (more + lexemes.length) start (characters ++ tail) =
        found ++ tokens source more stop (tail.drop 1) := by
  induction consists generalizing start with
  | nil skips =>
    obtain ⟨stop, reaches, same, _⟩ := skips.2 tail gap start
    exact ⟨[], stop, rfl, .nil reaches, fun more => tokens_of_skipIgnored (same rfl) source more⟩
  | @cons characters rest lexeme lexemes steps others ih =>
    have endsFirst : lexeme.kind = .comment → rest = [] → Ends isCommentChar tail := by
      rintro isComment rfl
      refine ends lexeme ?_ isComment ?_
      · rw [others.eq_nil]
        rfl
      · simpa using steps.comment isComment
    obtain ⟨token, after, read, isLexeme, span⟩ := steps.step tail gap endsFirst source start
    have endsOthers : ∀ last, lexemes.getLast? = some last → last.kind = .comment →
        last.text.toList <:+ rest → Ends isCommentChar tail := by
      intro last isLast isComment suffix
      refine ends last ?_ isComment (suffix.trans steps.suffix)
      rw [List.getLast?_cons, isLast]
      rfl
    obtain ⟨found, stop, areLexemes, spans, same⟩ := ih endsOthers after
    refine ⟨token :: found, stop, by rw [List.map_cons, isLexeme, areLexemes],
      span.append spans, fun more => ?_⟩
    have notFinal : isFinal token.kind = false := by
      rw [← isLexeme] at steps
      exact steps.notFinal
    rw [List.length_cons, ← Nat.add_assoc, tokens, read]
    simp [notFinal, same more]

end Consists

end Lexer

/-! ## Tokens of joined texts -/

/-- Whether the tokens of a group stand before those of the later groups.  Block strings
are left aside. -/
def Ordered (groups : List (List Token)) : Prop :=
  groups.Pairwise fun left right => ∀ token ∈ left, ∀ other ∈ right,
    token.kind ≠ .blockString → other.kind ≠ .blockString →
      token.position.precedes other.position = true

theorem Ordered.cons {source : String} {start middle stop : Cursor} {group : List Token}
    {groups : List (List Token)} (first : Span source start group middle)
    (others : Span source middle groups.flatten stop) (ordered : Ordered groups) :
    Ordered (group :: groups) := by
  refine List.pairwise_cons.mpr ⟨fun later member token inGroup other inLater => ?_, ordered⟩
  exact first.precedes others inGroup (List.mem_flatten.mpr ⟨later, member, inLater⟩)

/-- Whether a text has the tokens of given groups and ends after them. -/
structure Grouped (source : String) (start : Cursor) (characters : List Char)
    (groups : List (List Token)) (last : Token) : Prop where
  spans : ∃ stop, Span source start groups.flatten stop
  ordered : Ordered groups
  isEnd : last.lexeme = .mark .endOfInput
  short : groups.flatten.length ≤ characters.length
  tokens : ∀ more, Lexer.tokens source (more + 1 + groups.flatten.length) start characters =
    groups.flatten ++ [last]

namespace Grouped

variable {source : String} {start : Cursor}

theorem nil (source : String) (start : Cursor) :
    Grouped source start [] [] ⟨.endOfInput, "", start.position source, none⟩ where
  spans := ⟨start, .nil (.refl start)⟩
  ordered := .nil
  isEnd := rfl
  short := Nat.le_refl _
  tokens _ := rfl

/-- Tokens that are found before those of other groups. -/
theorem cons {middle : Cursor} {characters rest : List Char} {group : List Token}
    {groups : List (List Token)} {last : Token} (first : Span source start group middle)
    (found : ∀ more, Lexer.tokens source (more + group.length) start characters =
      group ++ Lexer.tokens source more middle rest)
    (short : group.length + rest.length ≤ characters.length)
    (others : Grouped source middle rest groups last) :
    Grouped source start characters (group :: groups) last where
  spans := by
    obtain ⟨stop, span⟩ := others.spans
    exact ⟨stop, first.append span⟩
  ordered := by
    obtain ⟨stop, span⟩ := others.spans
    exact .cons first span others.ordered
  isEnd := others.isEnd
  short := by
    have fewer := others.short
    rw [List.flatten_cons, List.length_append]
    omega
  tokens more := by
    have count : more + 1 + (group :: groups).flatten.length =
        more + 1 + groups.flatten.length + group.length := by
      rw [List.flatten_cons, List.length_append]
      omega
    rw [count, found, others.tokens, List.flatten_cons, List.append_assoc]

/-- All tokens of a source, if it has given groups of them. -/
theorem lex {text : String} {groups : List (List Token)} {last : Token}
    (grouped : Grouped source .start text.toList groups last) :
    QueryTree.lex source text = groups.flatten ++ [last] := by
  obtain ⟨spare, enough⟩ := Nat.exists_eq_add_of_le grouped.short
  have bound : text.toList.length + 1 = spare + 1 + groups.flatten.length := by omega
  rw [QueryTree.lex, bound]
  exact grouped.tokens spare

end Grouped

/-- A text and what follows it after a gap have the tokens of both. -/
theorem Lexer.Consists.grouped {characters tail : List Char} {lexemes : List Lexeme}
    {others : List (List Lexeme)} (consists : Consists characters lexemes) (gap : IsGap tail)
    (ends : ∀ lexeme, lexemes.getLast? = some lexeme → lexeme.kind = .comment →
      lexeme.text.toList <:+ characters → Ends isCommentChar tail)
    {source : String} (follows : ∀ middle, ∃ groups last,
      groups.map (List.map Token.lexeme) = others ∧
        Grouped source middle (tail.drop 1) groups last) (start : Cursor) :
    ∃ groups last, groups.map (List.map Token.lexeme) = lexemes :: others ∧
      Grouped source start (characters ++ tail) groups last := by
  obtain ⟨group, middle, areLexemes, span, found⟩ := consists.followed gap ends source start
  obtain ⟨groups, last, areOthers, grouped⟩ := follows middle
  refine ⟨group :: groups, last, by rw [List.map_cons, areLexemes, areOthers], ?_⟩
  have sameLength : group.length = lexemes.length := by rw [← areLexemes, List.length_map]
  refine .cons span (fun more => ?_) ?_ grouped
  · rw [sameLength]
    exact found more
  · have short := consists.length_le
    rw [List.length_append, List.length_drop]
    omega

namespace HasLexemes

variable {text : String} {lexemes : List Lexeme}

theorem consists (has : HasLexemes text lexemes) : Lexer.Consists text.toList lexemes :=
  Lexer.consists_of_tokens has

/-- If a text does not end in a comment, there is something behind every comment. -/
theorem not_suffix (has : HasLexemes text lexemes) (plain : endsInComment text = false)
    {lexeme : Lexeme} (isLast : lexemes.getLast? = some lexeme)
    (isComment : lexeme.kind = .comment) : ¬ lexeme.text.toList <:+ text.toList := by
  intro suffix
  have lasts : (lex "" text).dropLast.getLast?.map Token.lexeme = some lexeme := by
    rw [← List.getLast?_map, List.map_dropLast, has, List.dropLast_concat, isLast]
  obtain ⟨token, isToken, rfl⟩ := Option.map_eq_some_iff.mp lasts
  have comment : token.kind = .comment := isComment
  have tail : token.text.toList.isSuffixOf text.toList = true := List.isSuffixOf_iff_suffix.mpr suffix
  simp [endsInComment, isToken, comment, tail] at plain

end HasLexemes

/-- Joined texts have the tokens of all of them. -/
theorem Joined.grouped {texts : List String} {text : String} (joined : Joined texts text)
    {lexemes : List (List Lexeme)} (spelled : List.Forall₂ HasLexemes texts lexemes)
    (source : String) (start : Cursor) :
    ∃ groups last, groups.map (List.map Token.lexeme) = lexemes ∧
      Grouped source start text.toList groups last := by
  induction joined generalizing lexemes start with
  | nil =>
    cases spelled
    exact ⟨[], _, rfl, .nil source start⟩
  | single text =>
    cases spelled with
    | cons has none =>
      cases none
      have nothing (middle : Cursor) : ∃ groups last,
          groups.map (List.map Token.lexeme) = [] ∧ Grouped source middle [] groups last :=
        ⟨[], _, rfl, .nil source middle⟩
      have grouped := has.consists.grouped (Lexer.ends_nil _)
        (fun _ _ _ _ => Lexer.ends_nil _) nothing start
      rwa [List.append_nil] at grouped
  | @line text _ _ rest _ ih =>
    cases spelled with
    | cons has others =>
      have gap : Lexer.IsGap ('\n' :: rest.toList) := ends_cons rest.toList rfl
      have ends : Ends Lexer.isCommentChar ('\n' :: rest.toList) := ends_cons rest.toList rfl
      have grouped := has.consists.grouped gap (fun _ _ _ _ => ends) (ih others) start
      simpa using grouped
  | @blank text plain _ _ rest _ ih =>
    cases spelled with
    | cons has others =>
      have gap : Lexer.IsGap (' ' :: rest.toList) := ends_cons rest.toList rfl
      have grouped := has.consists.grouped gap (fun _ isLast isComment suffix =>
        absurd suffix (has.not_suffix plain isLast isComment)) (ih others) start
      simpa using grouped

end QueryTree
