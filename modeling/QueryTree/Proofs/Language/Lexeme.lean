import QueryTree.Proofs.Language.QuotedString
import QueryTree.Proofs.Language.WellFormed

/-!
# Text and its lexemes

A lexeme is a token without its place.  A text `Lexes` to a list of lexemes if it
spells them, with nothing but blanks and commas between them.  The lexer finds tokens
for them, one after the other and on the same line, and goes on with whatever follows;
a string with a foreign escape breaks the text off.  But whatever the escapes are, no
text spells two lists of lexemes, unless one of them goes on where the other ends.  The
rules for `Lexes` follow the way in which text is put together.
-/

namespace QueryTree

open QueryTree.Text

/-- A token without its place. -/
structure Lexeme where
  kind : TokenKind
  text : String
  deriving DecidableEq, Repr

/-- The lexeme of a token. -/
def Token.lexeme (token : Token) : Lexeme := ⟨token.kind, token.text⟩

namespace Lexeme

/-- Punctuation, which carries no text. -/
def mark (kind : TokenKind) : Lexeme := ⟨kind, ""⟩

/-- A name. -/
def word (name : String) : Lexeme := ⟨.name, name⟩

/-- Lexemes between brackets. -/
def enclosed (opening close : TokenKind) (content : List Lexeme) : List Lexeme :=
  mark opening :: (content ++ [mark close])

/-- The lexemes of items between brackets; nothing if there are none. -/
def group {α : Type} (opening close : TokenKind) (lexemes : α → List Lexeme)
    (items : List α) : List Lexeme :=
  if items.isEmpty then [] else enclosed opening close (items.flatMap lexemes)

/-- Whether a lexeme stands for something that is read. -/
def isReal (lexeme : Lexeme) : Bool :=
  !Lexer.isFinal lexeme.kind && lexeme.kind ≠ .comment

/-- What a lexeme means to a reader, who does not see how a string is written. -/
def sense (lexeme : Lexeme) : Lexeme :=
  if lexeme.kind = .blockString then ⟨.string, lexeme.text⟩ else lexeme

/-- Whether a lexeme is a string with a foreign escape. -/
def isForeign (lexeme : Lexeme) : Bool :=
  lexeme.kind = .string && lexeme.text.toList.any Text.isForeign

end Lexeme

/-- Whether tokens break off at invalid text. -/
def Token.Broken (tokens : List Token) : Prop :=
  (∃ token ∈ tokens, ∃ fault, token.kind = .invalid fault) ∧
    ∀ token ∈ tokens, token.kind ≠ .endOfInput

theorem Token.Broken.cons {token : Token} {tokens : List Token} (broken : Token.Broken tokens)
    (real : token.lexeme.isReal = true) : Token.Broken (token :: tokens) := by
  obtain ⟨⟨other, member, invalid⟩, open_ended⟩ := broken
  refine ⟨⟨other, List.mem_cons_of_mem _ member, invalid⟩, fun other isOther => ?_⟩
  rcases List.mem_cons.mp isOther with rfl | inTokens
  · intro isEnd
    simp [Lexeme.isReal, Token.lexeme, isEnd, Lexer.isFinal] at real
  · exact open_ended other inTokens

namespace Lexer

/-! ## Characters -/

/-- Whether a character can join a word or a string before it. -/
def isJoining (character : Char) : Bool :=
  isNameRest character || isNumberChar character || character == '"'

theorem not_isJoining_of_punctuation? {character : Char} {kind : TokenKind}
    (found : punctuation? character = some kind) : isJoining character = false := by
  unfold punctuation? at found
  split at found <;> first | decide | cases found

/-- Whether a character separates tokens. -/
def isIgnored (character : Char) : Bool :=
  ['\t', ' ', ',', Char.ofNat 0xFEFF, '\n', '\r'].contains character

variable {character : Char} {rest : List Char}

theorem skipIgnored_of_not (other : isIgnored character = false) (cursor : Cursor)
    (rest : List Char) : skipIgnored cursor (character :: rest) = (cursor, character :: rest) := by
  simp only [isIgnored, List.contains_eq_mem, decide_eq_false_iff_not, List.mem_cons, not_or,
    List.not_mem_nil, not_false_eq_true, and_true] at other
  obtain ⟨tab, blank, comma, mark, line, carriage⟩ := other
  have notMark : character.toNat ≠ 0xFEFF := by
    intro equal
    rw [← Char.ofNat_toNat character, equal] at mark
    exact mark rfl
  rw [skipIgnored.eq_def]
  simp [tab, blank, comma, notMark, line, carriage]

theorem tokens_of_not_ignored (other : isIgnored character = false) (source : String) (bound : Nat)
    (cursor : Cursor) (rest : List Char) :
    tokens source (bound + 1) cursor (character :: rest) =
      if isFinal (tokenStep source cursor character rest).1.kind then
        [(tokenStep source cursor character rest).1]
      else (tokenStep source cursor character rest).1 ::
        tokens source bound (tokenStep source cursor character rest).2.1
          (tokenStep source cursor character rest).2.2 := by
  simp only [tokens, nextToken, skipIgnored_of_not other]

/-- What is skipped does not matter. -/
theorem tokens_of_skipIgnored {cursor after : Cursor} {characters : List Char}
    (skips : skipIgnored cursor characters = skipIgnored after rest) (source : String)
    (bound : Nat) : tokens source bound cursor characters = tokens source bound after rest := by
  have same : nextToken source cursor characters = nextToken source after rest := by
    rw [nextToken, skips, nextToken]
  cases bound with
  | zero => rfl
  | succ bound => rw [tokens, same, tokens]

theorem skipIgnored_blank (blank : character ∈ [' ', ',']) (cursor : Cursor) (rest : List Char) :
    skipIgnored cursor (character :: rest) = skipIgnored (cursor.advance 1) rest := by
  rw [skipIgnored.eq_def]
  simp only [List.mem_cons, List.not_mem_nil, or_false] at blank
  rcases blank with rfl | rfl <;> simp

theorem skipIgnored_line (cursor : Cursor) (rest : List Char) :
    skipIgnored cursor ('\n' :: rest) = skipIgnored (cursor.advance 1).beginLine rest := by
  rw [skipIgnored.eq_def]
  simp

/-- Whether a character may begin a word or a string. -/
def isLead (character : Char) : Bool :=
  isNameStart character || character == '-' || character.isDigit || character == '"'

/-- What begins a word or a string is no other part of the language. -/
theorem plain_of_isLead (lead : isLead character = true) :
    isIgnored character = false ∧ punctuation? character = none ∧ character ≠ '.' ∧
      character ≠ '#' := by
  have differs (other : Char) (notLead : isLead other = false) : character ≠ other := by
    rintro rfl
    rw [notLead] at lead
    cases lead
  refine ⟨?_, ?_, differs _ (by decide), differs _ (by decide)⟩
  · have none : ['\t', ' ', ',', Char.ofNat 0xFEFF, '\n', '\r'].any isLead = false := by decide
    rw [isIgnored, List.contains_eq_mem, decide_eq_false_iff_not]
    intro member
    exact List.any_eq_false.mp none character member lead
  · unfold punctuation?
    split <;> first | rfl | exact absurd rfl (differs _ (by decide))

theorem startsTripleQuote_quoted (text : List Char) (ends : Ends isJoining rest) :
    startsTripleQuote ('"' :: (quotedChars text ++ '"' :: rest)) = false := by
  cases text with
  | nil =>
    cases rest with
    | nil => rfl
    | cons next others =>
      have notQuote : next ≠ '"' := by
        rintro rfl
        exact absurd (ends '"' rfl) (by decide)
      simp [quotedChars, startsTripleQuote, notQuote]
  | cons character text =>
    have writing := writing_quotedChar character
    rw [quotedChars, List.flatMap_cons]
    generalize quotedChar character = characters at writing
    cases writing with
    | plain notQuote _ _ => simp [startsTripleQuote, notQuote]
    | letter | foreign | code => simp [startsTripleQuote]

theorem tokenStep_quote (source : String) (cursor : Cursor) (text : List Char)
    (ends : Ends isJoining rest) :
    tokenStep source cursor '"' (quotedChars text ++ '"' :: rest) =
      stringStep source cursor (quotedChars text ++ '"' :: rest) := by
  rw [tokenStep, startsTripleQuote_quoted text ends]
  rfl

/-! ## Spellings -/

/-- What may be followed by anything. -/
def anything : Char → Bool := fun _ => false

theorem ends_anything (rest : List Char) : Ends anything rest := fun _ _ => rfl

/-- How a lexeme is spelled, and which characters would join it. -/
inductive Spelling : (Char → Bool) → List Char → Lexeme → Prop
  | mark {character : Char} {kind : TokenKind} (found : punctuation? character = some kind) :
      Spelling anything [character] (.mark kind)
  | spread : Spelling anything ['.', '.', '.'] (.mark .spread)
  | word {name : String} (named : IsName name) : Spelling isJoining name.toList (.word name)
  | number {raw : String} {isFloat : Bool} (whole : IsNumber isFloat raw) :
      Spelling isJoining raw.toList ⟨if isFloat then .float else .int, raw⟩
  | string (text : String) : Spelling isJoining (quoted text).toList ⟨.string, text⟩

/-- What the lexer makes of a lexeme that is spelled before a rest: its token, unless it has a
foreign escape. -/
structure Reading (lexeme : Lexeme) (first : Char) (others rest : List Char) : Prop where
  notIgnored : isIgnored first = false
  real : lexeme.isReal = true
  fine : lexeme.isForeign = false → ∀ source cursor, ∃ width shift,
    tokenStep source cursor first (others ++ rest) =
      plainStep source lexeme.kind lexeme.text.toList width (cursor.advance shift) rest
  broken : lexeme.isForeign = true → ∀ source cursor, ∃ fault place,
    tokenStep source cursor first (others ++ rest) = invalidStep source fault place

variable {lexeme : Lexeme} {first : Char} {others : List Char}

theorem Reading.plain (notIgnored : isIgnored first = false) (real : lexeme.isReal = true)
    (known : lexeme.isForeign = false) (step : ∀ source cursor, ∃ width shift,
      tokenStep source cursor first (others ++ rest) =
        plainStep source lexeme.kind lexeme.text.toList width (cursor.advance shift) rest) :
    Reading lexeme first others rest where
  notIgnored := notIgnored
  real := real
  fine _ := step
  broken foreign := by
    rw [known] at foreign
    cases foreign

theorem mark_reading {kind : TokenKind} (found : punctuation? character = some kind)
    (rest : List Char) : Reading (.mark kind) character [] rest := by
  have plain : isIgnored character = false ∧ (Lexeme.mark kind).isReal = true ∧
      (Lexeme.mark kind).isForeign = false := by
    unfold punctuation? at found
    split at found <;> cases found <;> decide
  refine .plain plain.1 plain.2.1 plain.2.2 fun source cursor => ⟨1, 0, ?_⟩
  rw [List.nil_append, tokenStep, found]
  rfl

theorem word_reading {name : String} (named : IsName name) (ends : Ends isJoining rest) :
    ∃ first others, name.toList = first :: others ∧ Reading (.word name) first others rest := by
  obtain ⟨first, others, characters, starts, all⟩ := named.exists_cons
  have lead : isLead first = true := by simp [isLead, starts]
  obtain ⟨notIgnored, notMark, notDot, notComment⟩ := plain_of_isLead lead
  refine ⟨first, others, characters, .plain notIgnored rfl rfl fun source cursor =>
    ⟨others.length + 1, 0, ?_⟩⟩
  have ends : Ends isNameRest rest := ends.weaken fun _ other => by
    simp only [isJoining, Bool.or_eq_false_iff] at other
    exact other.1.1
  simp only [tokenStep, notMark, notDot, notComment, starts, takeChars_append all ends,
    if_false, if_true]
  rw [Lexeme.word, characters]
  rfl

theorem number_reading {raw : String} {isFloat : Bool} (whole : IsNumber isFloat raw)
    (ends : Ends isJoining rest) : ∃ first others, raw.toList = first :: others ∧
      Reading ⟨if isFloat then .float else .int, raw⟩ first others rest := by
  have looks := whole.isNumberText
  have whole : isNumber isFloat raw.toList = true := whole
  cases characters : raw.toList with
  | nil =>
    rw [characters] at looks
    cases isFloat <;> cases looks
  | cons first others =>
    rw [characters] at looks whole
    simp only [isNumberText, Bool.and_eq_true] at looks
    have starts := looks.1.1
    have notName : isNameStart first = false := by
      refine Bool.eq_false_iff.mpr fun named => ?_
      rw [not_startsNumber_of_isNameStart named] at starts
      cases starts
    simp only [startsNumber, Bool.or_eq_true, beq_iff_eq] at starts
    have lead : isLead first = true := by rcases starts with rfl | digit <;> simp [isLead, *]
    obtain ⟨notIgnored, notMark, notDot, notComment⟩ := plain_of_isLead lead
    refine ⟨first, others, rfl, .plain notIgnored (by cases isFloat <;> rfl)
      (by cases isFloat <;> rfl) fun source cursor => ⟨(first :: others).length, 0, ?_⟩⟩
    have ends : Ends isNumberChar rest := ends.weaken fun _ other => by
      simp only [isJoining, Bool.or_eq_false_iff] at other
      exact other.1.2
    have read := number_append whole ends
    rw [List.cons_append] at read
    simp only [tokenStep, notMark, notDot, notComment, notName, starts, numberStep, read, if_false,
      if_true, Bool.false_eq_true]
    rw [characters]
    rfl

/-- A quoted text is one string, unless it has a foreign escape. -/
theorem string_reading (text : String) (ends : Ends isJoining rest) :
    Reading ⟨.string, text⟩ '"' (quotedChars text.toList ++ ['"']) rest := by
  refine ⟨by decide, rfl, fun known source cursor => ?_, fun foreign source cursor => ?_⟩
  · have known : text.toList.all (!Text.isForeign ·) = true := by
      rw [List.all_eq_not_any_not]
      simpa [Lexeme.isForeign] using known
    obtain ⟨width, read⟩ := stringBody_quoted known rest
    refine ⟨width + 1, 1, ?_⟩
    rw [List.append_assoc, List.singleton_append, tokenStep_quote source cursor _ ends,
      stringStep, read]
  · obtain ⟨fault, width, read⟩ := stringBody_quoted_foreign
      (by simpa [Lexeme.isForeign] using foreign) rest
    rw [List.append_assoc, List.singleton_append, tokenStep_quote source cursor _ ends,
      stringStep, read]
    exact ⟨fault, _, rfl⟩

theorem toList_quoted (text : String) :
    (quoted text).toList = '"' :: (quotedChars text.toList ++ ['"']) := by
  simp [quoted]

namespace Spelling

variable {test other : Char → Bool} {spelling otherSpelling others : List Char}
variable {otherLexeme : Lexeme}
variable (spells : Spelling test spelling lexeme)

include spells

theorem reading (ends : Ends test rest) :
    ∃ first others, spelling = first :: others ∧ Reading lexeme first others rest := by
  cases spells with
  | mark found => exact ⟨_, [], rfl, mark_reading found rest⟩
  | spread => exact ⟨'.', ['.', '.'], rfl,
      .plain (by decide) (by decide) (by decide) fun _ _ => ⟨3, 0, rfl⟩⟩
  | word named => exact word_reading named ends
  | number whole => exact number_reading whole ends
  | string text => exact ⟨'"', _, toList_quoted text, string_reading text ends⟩

/-- Only strings begin with a quote, and only they can have a foreign escape. -/
theorem isString_or :
    (∃ text, lexeme = ⟨.string, text⟩ ∧ spelling = (quoted text).toList) ∨
      spelling.head? ≠ some '"' ∧ lexeme.isForeign = false := by
  cases spells with
  | mark found =>
    refine .inr ?_
    unfold punctuation? at found
    split at found <;> cases found <;> decide
  | spread => exact .inr (by decide)
  | word named =>
    obtain ⟨first, others, characters, starts, _⟩ := named.exists_cons
    refine .inr ⟨fun isQuote => ?_, rfl⟩
    rw [characters] at isQuote
    cases isQuote
    cases starts
  | @number raw isFloat whole =>
    refine .inr ⟨fun isQuote => ?_, by cases isFloat <;> rfl⟩
    have looks := whole.isNumberText
    obtain ⟨others, characters⟩ := List.head?_eq_some_iff.mp isQuote
    rw [characters] at looks
    cases isFloat <;> cases looks
  | string text => exact .inl ⟨text, rfl, rfl⟩

/-- A spelling determines its lexeme and what follows. -/
theorem append_inj (otherSpells : Spelling other otherSpelling otherLexeme) (ends : Ends test rest)
    (otherEnds : Ends other others) (equal : spelling ++ rest = otherSpelling ++ others) :
    lexeme = otherLexeme ∧ rest = others := by
  obtain ⟨first, front, isSpelling, reading⟩ := spells.reading ends
  obtain ⟨otherFirst, otherFront, isOther, otherReading⟩ := otherSpells.reading otherEnds
  have sameFirst : first = otherFirst ∧ front ++ rest = otherFront ++ others := by
    rw [isSpelling, isOther] at equal
    exact List.cons_eq_cons.mp equal
  obtain ⟨rfl, sameFront⟩ := sameFirst
  rcases spells.isString_or with ⟨text, rfl, written⟩ | ⟨noQuote, known⟩
  · rcases otherSpells.isString_or with ⟨otherText, rfl, otherWritten⟩ | ⟨noQuote, _⟩
    · rw [written, otherWritten] at equal
      obtain ⟨rfl, same⟩ := quoted_append_inj equal
      exact ⟨rfl, same⟩
    · rw [written, toList_quoted] at isSpelling
      rw [isOther, (List.cons_eq_cons.mp isSpelling).1.symm] at noQuote
      exact absurd rfl noQuote
  · rcases otherSpells.isString_or with ⟨otherText, rfl, otherWritten⟩ | ⟨_, otherKnown⟩
    · rw [otherWritten, toList_quoted] at isOther
      rw [isSpelling, (List.cons_eq_cons.mp isOther).1.symm] at noQuote
      exact absurd rfl noQuote
    · -- Without strings, both are what the lexer reads.
      obtain ⟨width, shift, read⟩ := reading.fine known "" .start
      obtain ⟨otherWidth, otherShift, otherRead⟩ := otherReading.fine otherKnown "" .start
      rw [sameFront, otherRead] at read
      have sameKind := congrArg (·.1.kind) read
      have sameText := congrArg (·.1.text) read
      have sameRest := congrArg (·.2.2) read
      simp only [plainStep, String.ofList_toList] at sameKind sameText sameRest
      obtain ⟨kind, text⟩ := lexeme
      obtain ⟨otherKind, otherText⟩ := otherLexeme
      exact ⟨Lexeme.mk.injEq .. ▸ ⟨sameKind.symm, sameText.symm⟩, sameRest.symm⟩

end Spelling

/-! ## Spelled texts -/

/-- Whether a text consists of given lexemes, with blanks and commas between them, and of a
rest. -/
inductive Spelled (rest : List Char) : List Char → List Lexeme → Prop
  | nil : Spelled rest rest []
  | blank {character : Char} {text : List Char} {lexemes : List Lexeme}
      (isBlank : character ∈ [' ', ',']) (others : Spelled rest text lexemes) :
      Spelled rest (character :: text) lexemes
  | token {test : Char → Bool} {spelling text : List Char} {lexeme : Lexeme}
      {lexemes : List Lexeme} (spells : Spelling test spelling lexeme) (ends : Ends test text)
      (others : Spelled rest text lexemes) : Spelled rest (spelling ++ text) (lexeme :: lexemes)

/-- Whether tokens stand on the line of a cursor, and another cursor, too. -/
structure OnLine (cursor : Cursor) (found : List Token) (after : Cursor) : Prop where
  line : after.line = cursor.line
  tokens : ∀ token ∈ found, token.position.line = cursor.line ∧ token.comment = none

namespace Spelled

variable {text between : List Char} {lexemes lefts rights : List Lexeme}

theorem append (left : Spelled between text lefts) (right : Spelled rest between rights) :
    Spelled rest text (lefts ++ rights) := by
  induction left with
  | nil => exact right
  | blank isBlank _ ih => exact .blank isBlank ih
  | token spells ends _ ih => exact .token spells ends ih

section

variable (spelled : Spelled rest text lexemes)

include spelled

theorem length_le : lexemes.length + rest.length ≤ text.length := by
  induction spelled with
  | nil => simp
  | blank _ _ ih => exact Nat.le_succ_of_le ih
  | token spells ends _ ih =>
    obtain ⟨first, others, rfl, _⟩ := spells.reading ends
    simp only [List.length_cons, List.length_append]
    omega

theorem real : ∀ lexeme ∈ lexemes, lexeme.isReal = true := by
  induction spelled with
  | nil => simp
  | blank _ _ ih => exact ih
  | token spells ends _ ih =>
    obtain ⟨_, _, _, reading⟩ := spells.reading ends
    exact List.forall_mem_cons.mpr ⟨reading.real, ih⟩

/-- The lexer finds tokens for lexemes without foreign escapes. -/
theorem fine (known : ∀ lexeme ∈ lexemes, lexeme.isForeign = false) (source : String)
    (cursor : Cursor) :
    ∃ found after, found.map Token.lexeme = lexemes ∧ OnLine cursor found after ∧ ∀ bound,
      tokens source (bound + lexemes.length) cursor text =
        found ++ tokens source bound after rest := by
  induction spelled generalizing cursor with
  | nil => exact ⟨[], cursor, rfl, ⟨rfl, by simp⟩, fun _ => rfl⟩
  | @blank character text lexemes isBlank _ ih =>
    obtain ⟨found, after, isFound, onLine, same⟩ := ih known (cursor.advance 1)
    refine ⟨found, after, isFound, ⟨onLine.line, onLine.tokens⟩, fun bound => ?_⟩
    rw [tokens_of_skipIgnored (skipIgnored_blank isBlank cursor text), same]
  | @token test spelling text lexeme lexemes spells ends _ ih =>
    obtain ⟨first, others, rfl, reading⟩ := spells.reading ends
    obtain ⟨isKnown, areKnown⟩ := List.forall_mem_cons.mp known
    obtain ⟨width, shift, step⟩ := reading.fine isKnown source cursor
    obtain ⟨found, after, isFound, onLine, same⟩ :=
      ih areKnown ((cursor.advance shift).advance width)
    have notFinal : isFinal lexeme.kind = false := by
      have real := reading.real
      simp only [Lexeme.isReal, Bool.and_eq_true, Bool.not_eq_true'] at real
      exact real.1
    refine ⟨⟨lexeme.kind, lexeme.text, (cursor.advance shift).position source, none⟩ :: found,
      after, by rw [List.map_cons, isFound]; rfl, ⟨onLine.line, ?_⟩, fun bound => ?_⟩
    · exact List.forall_mem_cons.mpr ⟨⟨rfl, rfl⟩, onLine.tokens⟩
    · rw [List.cons_append, List.length_cons, ← Nat.add_assoc,
        tokens_of_not_ignored reading.notIgnored, step]
      simp [plainStep, notFinal, same]

/-- The lexer breaks off at the first foreign escape. -/
theorem broken (foreign : ∃ lexeme ∈ lexemes, lexeme.isForeign = true) (source : String)
    (cursor : Cursor) (bound : Nat) :
    Token.Broken (tokens source (bound + lexemes.length) cursor text) := by
  induction spelled generalizing cursor with
  | nil => simp at foreign
  | @blank character text lexemes isBlank _ ih =>
    rw [tokens_of_skipIgnored (skipIgnored_blank isBlank cursor text)]
    exact ih foreign _
  | @token test spelling text lexeme lexemes spells ends _ ih =>
    obtain ⟨first, others, rfl, reading⟩ := spells.reading ends
    rw [List.cons_append, List.length_cons, ← Nat.add_assoc,
      tokens_of_not_ignored reading.notIgnored]
    cases isForeign : lexeme.isForeign with
    | true =>
      obtain ⟨fault, place, step⟩ := reading.broken isForeign source cursor
      rw [step]
      constructor <;> simp [invalidStep, isFinal]
    | false =>
      have inOthers : ∃ lexeme ∈ lexemes, lexeme.isForeign = true := by
        simpa [isForeign] using foreign
      have real := reading.real
      obtain ⟨width, shift, step⟩ := reading.fine isForeign source cursor
      have notFinal : isFinal lexeme.kind = false := by
        simp only [Lexeme.isReal, Bool.and_eq_true, Bool.not_eq_true'] at real
        exact real.1
      rw [step]
      simp only [plainStep, notFinal, Bool.false_eq_true, if_false]
      exact (ih inOthers _).cons (by simpa [Token.lexeme] using real)

end

theorem isIgnored_of_blank (isBlank : character ∈ [' ', ',']) : isIgnored character = true := by
  simp only [List.mem_cons, List.not_mem_nil, or_false] at isBlank
  rcases isBlank with rfl | rfl <;> decide

theorem ne_blank {test : Char → Bool} {spelling : List Char}
    (spells : Spelling test spelling lexeme) (ends : Ends test rest)
    (isBlank : character ∈ [' ', ',']) (tail : List Char) :
    spelling ++ rest ≠ character :: tail := by
  obtain ⟨first, others, rfl, reading⟩ := spells.reading ends
  rintro equal
  have notIgnored := reading.notIgnored
  rw [(List.cons_eq_cons.mp equal).1, isIgnored_of_blank isBlank] at notIgnored
  cases notIgnored

/-- Two lists of lexemes that are spelled by the same text begin alike. -/
theorem isPrefix_or {others : List Char} (left : Spelled rest text lefts)
    (right : Spelled others text rights) : lefts <+: rights ∨ rights <+: lefts := by
  induction left generalizing rights with
  | nil => exact .inl List.nil_prefix
  | @blank character text _ isBlank _ ih =>
    generalize whole : character :: text = other at right
    cases right with
    | nil => exact .inr List.nil_prefix
    | blank _ right =>
      cases whole
      exact ih right
    | token spells ends _ => exact absurd whole.symm (ne_blank spells ends isBlank _)
  | @token _ spelling text _ _ spells ends _ ih =>
    generalize whole : spelling ++ text = other at right
    cases right with
    | nil => exact .inr List.nil_prefix
    | blank isBlank _ => exact absurd whole (ne_blank spells ends isBlank _)
    | token otherSpells otherEnds right =>
      obtain ⟨rfl, rfl⟩ := spells.append_inj otherSpells ends otherEnds whole
      exact (ih right).imp (fun found => List.cons_prefix_cons.mpr ⟨rfl, found⟩)
        fun found => List.cons_prefix_cons.mpr ⟨rfl, found⟩

end Spelled

/-! ## Texts with lexemes -/

/-- Whether a text has given lexemes if it is followed by a character that a test
refuses, or by nothing. -/
def Lexes (test : Char → Bool) (characters : List Char) (lexemes : List Lexeme) : Prop :=
  ∀ rest, Ends test rest → Spelled rest (characters ++ rest) lexemes

namespace Lexes

variable {test other : Char → Bool} {left right : List Char} {lefts rights : List Lexeme}

theorem length_le (lexes : Lexes test left lefts) : lefts.length ≤ left.length := by
  simpa using (lexes [] (ends_nil _)).length_le

theorem nil : Lexes test [] [] := fun _ _ => .nil

/-- Two texts of which the second always ends the first. -/
theorem chain (first : Lexes test left lefts) (second : Lexes other right rights)
    (ends : ∀ rest, Ends other rest → Ends test (right ++ rest)) :
    Lexes other (left ++ right) (lefts ++ rights) := by
  intro rest follows
  rw [List.append_assoc]
  exact (first _ (ends rest follows)).append (second rest follows)

/-- A text that may be followed by anything, before another. -/
theorem cons (first : Lexes anything left lefts) (second : Lexes other right rights) :
    Lexes other (left ++ right) (lefts ++ rights) :=
  first.chain second fun _ _ => ends_anything _

/-- Texts with something between them that is no token and joins none of them. -/
theorem intercalate {α : Type} {text : α → List Char} {lexemes : α → List Lexeme}
    {separator : List Char} (gap : Lexes anything separator []) (some : separator ≠ [])
    (ends : Ends test separator) (items : List α)
    (each : ∀ item ∈ items, Lexes test (text item) (lexemes item)) :
    Lexes test (separator.intercalate (items.map text)) (items.flatMap lexemes) := by
  induction items with
  | nil => exact nil
  | cons item items ih =>
    have others := ih (List.forall_mem_cons.mp each).2
    have first := each item List.mem_cons_self
    have written := intercalate_cons_append separator (text item) [] (items.map text)
    rw [List.append_nil, List.append_nil] at written
    rw [List.map_cons, written, List.flatMap_cons]
    cases items with
    | nil => exact first.chain nil fun _ follows => follows
    | cons second items =>
      cases separator with
      | nil => exact absurd rfl some
      | cons character rest =>
        exact first.chain (gap.cons others) fun _ _ => ends_cons _ (ends character rfl)

/-- A text that is closed by a character. -/
theorem close {last : Char} (first : Lexes test left lefts)
    (second : Lexes anything [last] rights) (other : test last = false) :
    Lexes anything (left ++ [last]) (lefts ++ rights) :=
  first.chain second fun rest _ => ends_cons rest other

theorem weaken (lexes : Lexes test left lefts)
    (fewer : ∀ character, other character = false → test character = false) :
    Lexes other left lefts :=
  fun rest ends => lexes rest (ends.weaken fewer)

theorem spelling {lexeme : Lexeme} (spells : Spelling test left lexeme) :
    Lexes test left [lexeme] :=
  fun _ ends => .token spells ends .nil

theorem word {name : String} (named : IsName name) : Lexes isJoining name.toList [.word name] :=
  spelling (.word named)

theorem blank (isBlank : character ∈ [' ', ',']) : Lexes anything [character] [] :=
  fun _ _ => .blank isBlank .nil

variable {rest : List Char} {lexemes : List Lexeme}

theorem mark_cons {kind : TokenKind} (found : punctuation? character = some kind)
    (lexes : Lexes test rest lexemes) : Lexes test (character :: rest) (.mark kind :: lexemes) :=
  (spelling (.mark found)).cons lexes

theorem blank_cons (isBlank : character ∈ [' ', ',']) (lexes : Lexes test rest lexemes) :
    Lexes test (character :: rest) lexemes :=
  (blank isBlank).cons lexes

/-- A text between brackets may be followed by anything. -/
theorem enclosed {opening close : Char} {openingKind closeKind : TokenKind}
    (opens : punctuation? opening = some openingKind) (closes : punctuation? close = some closeKind)
    (lexes : Lexes isJoining rest lexemes) :
    Lexes anything (opening :: (rest ++ [close]))
      (Lexeme.enclosed openingKind closeKind lexemes) :=
  mark_cons opens (lexes.close (spelling (.mark closes)) (not_isJoining_of_punctuation? closes))

end Lexes

/-! ## Texts that join nothing before them -/

/-- Whether a text has given lexemes, also after another word. -/
structure Trails (test : Char → Bool) (characters : List Char) (lexemes : List Lexeme) : Prop where
  toLexes : Lexes test characters lexemes
  ends : ∀ rest, Ends test rest → Ends isJoining (characters ++ rest)

namespace Trails

variable {test : Char → Bool} {left right : List Char} {lefts rights : List Lexeme}

theorem nil : Trails isJoining [] [] := ⟨.nil, fun _ follows => follows⟩

theorem blank (lexes : Lexes test right rights) : Trails test (' ' :: right) rights :=
  ⟨.blank_cons (by decide) lexes, fun _ _ => ends_cons _ (by decide)⟩

theorem mark {kind : TokenKind} (found : punctuation? character = some kind)
    (lexes : Lexes test right rights) : Trails test (character :: right) (.mark kind :: rights) :=
  ⟨.mark_cons found lexes, fun _ _ => ends_cons _ (not_isJoining_of_punctuation? found)⟩

theorem append (first : Trails isJoining left lefts) (second : Trails test right rights) :
    Trails test (left ++ right) (lefts ++ rights) where
  toLexes := first.toLexes.chain second.toLexes second.ends
  ends rest follows := by
    rw [List.append_assoc]
    exact first.ends _ (second.ends rest follows)

end Trails

/-- A text and another that does not join it. -/
theorem Lexes.trail {test : Char → Bool} {left right : List Char} {lefts rights : List Lexeme}
    (first : Lexes isJoining left lefts) (second : Trails test right rights) :
    Lexes test (left ++ right) (lefts ++ rights) :=
  first.chain second.toLexes second.ends

end Lexer

end QueryTree
