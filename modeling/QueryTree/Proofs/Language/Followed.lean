import Mathlib.Tactic.SplitIfs
import QueryTree.Proofs.Language.Lexeme
import QueryTree.Proofs.Language.Span

/-!
# Text that is followed by other text

A token does not depend on what follows it, as long as it does not join the token.  So
what the lexer finds in a text it also finds if the text goes on after a blank or a line
feed.
-/

namespace QueryTree.Lexer

open QueryTree.Text

/-- Whether a text is empty or begins with a blank or a line feed. -/
def IsGap (tail : List Char) : Prop := Ends (fun c => !(c == ' ' || c == '\n')) tail

variable {tail content rest characters front others raw text left : List Char} {width : Nat}
variable {first : Char} {cursor after : Cursor} {kind : TokenKind} {source : String} {token : Token}

theorem IsGap.ends (gap : IsGap tail) (test : Char → Bool) (blank : test ' ' = false)
    (line : test '\n' = false) : Ends test tail := by
  intro first member
  have isGap := gap first member
  simp only [Bool.not_eq_false', Bool.or_eq_true, beq_iff_eq] at isGap
  rcases isGap with rfl | rfl
  · exact blank
  · exact line

/-- A text can go on after a gap without joining what stands before it. -/
theorem IsGap.follows (gap : IsGap tail) {test : Char → Bool} (blank : test ' ' = false)
    (line : test '\n' = false) (rest : List Char) : Follows test rest (rest ++ tail) := by
  cases rest with
  | nil => exact .inr (gap.ends test blank line)
  | cons first others => exact .inl rfl

/-! ## Strings -/

theorem StringScan.push_eq_closed {scan : StringScan} {character : Char} {total : Nat}
    (closed : scan.push character width = .closed content total rest) :
    ∃ inner count, scan = .closed inner count rest ∧ content = character :: inner ∧
      total = width + count := by
  cases scan with
  | closed inner count others =>
    cases closed
    exact ⟨inner, count, rfl, rfl, rfl⟩
  | failed => cases closed

/-- A string that is closed does not depend on what follows it. -/
theorem stringBody_front (read : stringBody characters = .closed content width rest) :
    ∃ front, characters = front ++ rest ∧
      ∀ other, stringBody (front ++ other) = .closed content width other := by
  fun_induction stringBody characters generalizing content width with
  | case1 | case3 | case4 | case5 | case7 | case8 | case10 => cases read
  | case2 others =>
    cases read
    refine ⟨['"'], rfl, fun other => ?_⟩
    rw [List.singleton_append, stringBody.eq_def]
    simp
  | case6 a b c d next others code isCode _ _ _ ih =>
    obtain ⟨inner, count, inside, rfl, rfl⟩ := StringScan.push_eq_closed read
    obtain ⟨front, cut, same⟩ := ih inside
    refine ⟨'\\' :: 'u' :: a :: b :: c :: d :: front, by rw [cut]; rfl, fun other => ?_⟩
    -- A code is read if a character follows it, and the closing quote is still to come.
    cases front with
    | nil => cases same []
    | cons first front =>
      have again := same other
      rw [List.cons_append] at again
      simp [stringBody, isCode, again, StringScan.push]
  | case9 letter others notCode character isEscape _ _ _ ih =>
    obtain ⟨inner, count, inside, rfl, rfl⟩ := StringScan.push_eq_closed read
    obtain ⟨front, rfl, same⟩ := ih inside
    refine ⟨'\\' :: letter :: front, rfl, fun other => ?_⟩
    rw [List.cons_append, List.cons_append, stringBody.eq_def]
    simp [notCode, isEscape, same other, StringScan.push]
  | case11 character others notQuote notLine notControl notEscape ih =>
    obtain ⟨inner, count, inside, rfl, rfl⟩ := StringScan.push_eq_closed read
    obtain ⟨front, rfl, same⟩ := ih inside
    refine ⟨character :: front, rfl, fun other => ?_⟩
    rw [List.cons_append, stringBody.eq_def]
    simp only [notQuote, notLine, notControl, notEscape, if_false, same other, StringScan.push]

/-- What follows a string does not make it a block string, unless it begins with a quote. -/
theorem startsTripleQuote_replaced {other : List Char} (nonempty : front ≠ [])
    (follows : Follows isJoining rest other)
    (noQuotes : startsTripleQuote ('"' :: (front ++ rest)) = false) :
    startsTripleQuote ('"' :: (front ++ other)) = false := by
  rcases front with _ | ⟨first, _ | ⟨second, front⟩⟩
  · exact absurd rfl nonempty
  · have quoted (text : List Char) : startsTripleQuote ('"' :: ([first] ++ text)) = true ↔
        first = '"' ∧ text.head? = some '"' := by
      cases text <;> simp [startsTripleQuote]
    rw [Bool.eq_false_iff, ne_eq, quoted, not_and] at noQuotes ⊢
    intro isQuote
    have restEnds : Ends (· == '"') rest := fun found member =>
      beq_eq_false_iff_ne.mpr fun same => noQuotes isQuote (same ▸ member)
    have otherEnds := follows.ends (fun character refused => by
      simp only [isJoining, Bool.or_eq_false_iff] at refused
      exact refused.2) restEnds
    intro isHead
    exact absurd (otherEnds '"' isHead) (by decide)
  · simpa [startsTripleQuote] using noQuotes

/-! ## Block strings -/

theorem startsTripleQuote_append (long : 3 ≤ front.length) (other : List Char) :
    startsTripleQuote (front ++ other) = startsTripleQuote front := by
  rw [startsTripleQuote, List.take_append_of_le_length long]
  rfl

theorem eq_of_startsTripleQuote (quotes : startsTripleQuote (first :: others) = true) :
    ∃ rest, first = '"' ∧ others = '"' :: '"' :: rest := by
  rcases others with _ | ⟨second, _ | ⟨third, rest⟩⟩
  · simp [startsTripleQuote] at quotes
  · simp [startsTripleQuote] at quotes
  · simp only [startsTripleQuote, List.take_succ_cons, List.take_zero, beq_iff_eq,
      List.cons.injEq, and_true] at quotes
    obtain ⟨rfl, rfl, rfl⟩ := quotes
    exact ⟨rest, rfl, rfl⟩

theorem BlockScan.push_eq_closed {scan : BlockScan}
    (closed : scan.push characters = .closed raw cursor rest) :
    ∃ inner, scan = .closed inner cursor rest ∧ raw = characters ++ inner := by
  cases scan with
  | closed inner other others =>
    cases closed
    exact ⟨inner, rfl, rfl⟩
  | failed => cases closed

/-- A backslash stands for itself unless three quotes follow. -/
theorem blockBody_backslash (noQuotes : startsTripleQuote rest = false) (cursor : Cursor) :
    blockBody cursor ('\\' :: rest) = (blockBody (cursor.advance 1) rest).push ['\\'] := by
  rw [blockBody.eq_def]
  match rest with
  | [] | [_] | [_, _] => simp [startsTripleQuote]
  | a :: b :: c :: rest =>
    have notQuoted : startsTripleQuote [a, b, c] = false := by
      simpa [startsTripleQuote] using noQuotes
    simp [notQuoted]

/-- Whether a block string with given content ends with a text, wherever it stands and
whatever follows. -/
structure ReadsBlock (front raw : List Char) : Prop where
  long : 3 ≤ front.length
  reads : ∀ other start, ∃ stop, Cursor.Reaches start stop ∧
    blockBody start (front ++ other) = .closed raw stop other

/-- Characters of the content before the rest of a block string. -/
theorem ReadsBlock.push {pushed : List Char} (reads : ReadsBlock front raw) (written : List Char)
    (step : ∀ other start, ∃ next, Cursor.Reaches start next ∧
      blockBody start (written ++ (front ++ other)) =
        (blockBody next (front ++ other)).push pushed) :
    ReadsBlock (written ++ front) (pushed ++ raw) where
  long := by
    have long := reads.long
    rw [List.length_append]
    omega
  reads other start := by
    obtain ⟨next, reaches, stepped⟩ := step other start
    obtain ⟨stop, reachesStop, read⟩ := reads.reads other next
    refine ⟨stop, reaches.trans reachesStop, ?_⟩
    rw [List.append_assoc, stepped, read, BlockScan.push]

/-- A block string that is closed does not depend on what follows it. -/
theorem blockBody_front {closing : Cursor}
    (read : blockBody cursor characters = .closed raw closing rest) :
    ∃ front, characters = front ++ rest ∧ ReadsBlock front raw := by
  -- At most three characters are looked at, and the closing quotes are as many.
  fun_induction blockBody cursor characters generalizing raw with
  | case1 | case5 | case7 => cases read
  | case2 cursor character others isEnd =>
    obtain ⟨rest, rfl, rfl⟩ := eq_of_startsTripleQuote isEnd.2
    cases read
    refine ⟨['"', '"', '"'], rfl, Nat.le_refl 3, fun other start => ⟨start, .refl start, ?_⟩⟩
    simp [blockBody, startsTripleQuote]
  | case3 cursor others notEnd ih =>
    obtain ⟨inner, inside, rfl⟩ := BlockScan.push_eq_closed read
    obtain ⟨front, rfl, reads⟩ := ih inside
    refine ⟨'\r' :: '\n' :: front, rfl, reads.push ['\r', '\n'] fun other start => ?_⟩
    refine ⟨(start.advance 2).beginLine, start.reaches_line 2, ?_⟩
    rw [List.cons_append, blockBody.eq_def]
    simp
  | case4 cursor next others notLine notEnd ih =>
    obtain ⟨inner, inside, rfl⟩ := BlockScan.push_eq_closed read
    obtain ⟨front, cut, reads⟩ := ih inside
    refine ⟨'\r' :: front, by rw [cut]; rfl, reads.push ['\r'] fun other start => ?_⟩
    refine ⟨(start.advance 1).beginLine, start.reaches_line 1, ?_⟩
    cases front with
    | nil => exact absurd reads.long (by decide)
    | cons first front =>
      obtain ⟨rfl, _⟩ := List.cons.inj cut
      rw [List.singleton_append, List.cons_append, blockBody.eq_def]
      simp [notLine]
  | case6 cursor others notEnd notReturn ih =>
    obtain ⟨inner, inside, rfl⟩ := BlockScan.push_eq_closed read
    obtain ⟨front, rfl, reads⟩ := ih inside
    refine ⟨'\n' :: front, rfl, reads.push ['\n'] fun other start => ?_⟩
    refine ⟨(start.advance 1).beginLine, start.reaches_line 1, ?_⟩
    rw [List.singleton_append, blockBody.eq_def]
    simp
  | case8 cursor a b c others quotes _ _ _ _ ih =>
    obtain ⟨inner, inside, rfl⟩ := BlockScan.push_eq_closed read
    obtain ⟨front, rfl, reads⟩ := ih inside
    refine ⟨'\\' :: a :: b :: c :: front, rfl, reads.push ['\\', a, b, c] fun other start => ?_⟩
    refine ⟨start.advance 4, start.reaches_advance 4, ?_⟩
    rw [List.cons_append, blockBody.eq_def]
    simp [quotes]
  | case9 cursor a b c others noQuotes _ _ _ _ ih =>
    obtain ⟨inner, inside, rfl⟩ := BlockScan.push_eq_closed read
    obtain ⟨front, cut, reads⟩ := ih inside
    refine ⟨'\\' :: front, by rw [cut]; rfl, reads.push ['\\'] fun other start => ?_⟩
    refine ⟨start.advance 1, start.reaches_advance 1, ?_⟩
    rw [List.singleton_append]
    refine blockBody_backslash ?_ start
    rw [startsTripleQuote_append reads.long, ← startsTripleQuote_append reads.long rest, ← cut]
    simpa [startsTripleQuote] using noQuotes
  | case10 cursor others short _ _ _ _ ih =>
    obtain ⟨inner, inside, rfl⟩ := BlockScan.push_eq_closed read
    obtain ⟨front, rfl, reads⟩ := ih inside
    have long := reads.long
    rcases front with _ | ⟨a, _ | ⟨b, _ | ⟨c, front⟩⟩⟩
    · exact absurd long (by decide)
    · exact absurd long (by simp)
    · exact absurd long (by simp)
    · exact (short a b c (front ++ rest) rfl).elim
  | case11 cursor character others notEnd notReturn notLine notControl notEscape ih =>
    obtain ⟨inner, inside, rfl⟩ := BlockScan.push_eq_closed read
    obtain ⟨front, rfl, reads⟩ := ih inside
    refine ⟨character :: front, rfl, reads.push [character] fun other start => ?_⟩
    refine ⟨start.advance 1, start.reaches_advance 1, ?_⟩
    have long : 3 ≤ (character :: front).length := Nat.le_succ_of_le reads.long
    rw [← List.cons_append, startsTripleQuote_append long,
      ← startsTripleQuote_append long other, List.cons_append] at notEnd
    rw [List.singleton_append, blockBody.eq_def]
    simp only [notReturn, notLine, notControl, notEscape, if_false]
    rw [if_neg notEnd]

/-! ## Tokens -/

/-- The characters that would be joined to a token of a given kind if they followed it. -/
def joins (kind : TokenKind) : Char → Bool :=
  if kind = .comment then isCommentChar else isJoining

/-- Whether a text is a token of a given lexeme, wherever it stands and whatever takes the place
of the rest behind it. -/
structure Spells (spelling : List Char) (lexeme : Lexeme) (rest : List Char) : Prop where
  notFinal : isFinal lexeme.kind = false
  some : spelling ≠ []
  comment : lexeme.kind = .comment → lexeme.text.toList = spelling
  step : ∀ other, Follows (joins lexeme.kind) rest other → ∀ source cursor, ∃ token after,
    nextToken source cursor (spelling ++ other) = (token, after, other) ∧
      token.lexeme = lexeme ∧ Span source cursor [token] after

theorem nextToken_of_not_ignored (notIgnored : isIgnored first = false) (source : String)
    (cursor : Cursor) (rest : List Char) :
    nextToken source cursor (first :: rest) = tokenStep source cursor first rest := by
  rw [nextToken, skipIgnored_of_not notIgnored]

/-- A token of one line. -/
theorem Spells.plain (width shift : Nat) (notFinal : isFinal kind = false)
    (notIgnored : isIgnored first = false) (wide : 0 < width)
    (comment : kind = .comment → text = first :: others)
    (same : ∀ other, Follows (joins kind) rest other → ∀ source cursor,
      tokenStep source cursor first (others ++ other) =
        plainStep source kind text width (cursor.advance shift) other) :
    Spells (first :: others) ⟨kind, String.ofList text⟩ rest where
  notFinal := notFinal
  some := List.cons_ne_nil _ _
  comment isComment := by rw [String.toList_ofList, comment isComment]
  step other follows source cursor := by
    rw [List.cons_append, nextToken_of_not_ignored notIgnored, same other follows]
    refine ⟨_, _, rfl, rfl, ?_, ?_⟩
    · exact (cursor.reaches_advance shift).trans (Cursor.reaches_advance _ width)
    · intro token member _
      rw [List.mem_singleton.mp member]
      exact ⟨cursor.advance shift, rfl, cursor.reaches_advance shift, Cursor.advance_reaches wide⟩

/-- A block string. -/
theorem Spells.block (reads : ReadsBlock front raw) (rest : List Char) :
    Spells ('"' :: '"' :: '"' :: front) ⟨.blockString, String.ofList (blockValue raw)⟩ rest where
  notFinal := rfl
  some := List.cons_ne_nil _ _
  comment := nofun
  step other _ source cursor := by
    obtain ⟨stop, reaches, read⟩ := reads.reads other (cursor.advance 3)
    have step : nextToken source cursor ('"' :: '"' :: '"' :: (front ++ other)) =
        blockStep source cursor (front ++ other) := by
      rw [nextToken_of_not_ignored (by decide), tokenStep]
      rfl
    rw [List.cons_append, List.cons_append, List.cons_append, step, blockStep, read]
    refine ⟨_, _, rfl, rfl, ?_, ?_⟩
    · exact ((cursor.reaches_advance 3).trans reaches).trans (Cursor.reaches_advance _ 3)
    · intro token member notBlock
      rw [List.mem_singleton.mp member] at notBlock
      exact absurd rfl notBlock

theorem mark_spells (isMark : punctuation? first = some kind) (rest : List Char) :
    Spells [first] ⟨kind, String.ofList []⟩ rest := by
  have plain : isFinal kind = false ∧ kind ≠ .comment ∧ isIgnored first = false := by
    unfold punctuation? at isMark
    split at isMark <;> cases isMark <;> decide
  apply Spells.plain 1 0 plain.1 plain.2.2 Nat.one_pos fun isComment => absurd isComment plain.2.1
  intro other _ source cursor
  rw [tokenStep, isMark]
  rfl

theorem spread_spells (rest : List Char) :
    Spells ['.', '.', '.'] ⟨.spread, String.ofList []⟩ rest :=
  .plain 3 0 rfl (by decide) (by decide) nofun fun _ _ _ _ => rfl

theorem comment_spells (all : text.all isCommentChar = true) (ends : Ends isCommentChar rest) :
    Spells ('#' :: text) ⟨.comment, String.ofList ('#' :: text)⟩ rest := by
  apply Spells.plain (text.length + 1) 0 rfl (by decide) (Nat.succ_pos _) fun _ => rfl
  intro other follows source cursor
  have taken := takeChars_append all (follows.ends (fun _ => id) ends)
  simp only [tokenStep, punctuation?, taken]
  rfl

theorem name_spells (isName : isNameStart first = true) (all : text.all isNameRest = true)
    (ends : Ends isNameRest rest) :
    Spells (first :: text) ⟨.name, String.ofList (first :: text)⟩ rest := by
  obtain ⟨notIgnored, noMark, notDot, notComment⟩ :=
    plain_of_isLead (show isLead first = true by simp [isLead, isName])
  apply Spells.plain (text.length + 1) 0 rfl notIgnored (Nat.succ_pos _) (by simp)
  intro other follows source cursor
  have otherEnds : Ends isNameRest other := follows.ends (fun character refused => by
    simp only [joins, isJoining, reduceCtorEq, if_false, Bool.or_eq_false_iff] at refused
    exact refused.1.1) ends
  simp only [tokenStep, noMark, notDot, notComment, isName, if_false, if_true,
    takeChars_append all otherEnds]
  rfl

theorem number_spells {digits : List Char} {isFloat : Bool}
    (starts : first = '-' ∨ first.isDigit = true)
    (read : number (first :: others) = .done digits isFloat rest) :
    first :: others = digits ++ rest ∧
      Spells digits ⟨if isFloat then .float else .int, String.ofList digits⟩ rest := by
  have notName : isNameStart first = false := by
    refine Bool.eq_false_iff.mpr fun named => ?_
    have number := not_startsNumber_of_isNameStart named others
    simp [startsNumber] at number
    rcases starts with rfl | digit
    · exact number.1 rfl
    · rw [digit] at number
      exact Bool.noConfusion number.2
  have lead : isLead first = true := by rcases starts with rfl | digit <;> simp [isLead, *]
  obtain ⟨notIgnored, noMark, notDot, notComment⟩ := plain_of_isLead lead
  obtain ⟨added, cut, isDigits, same⟩ := number_continues read
  rw [List.nil_append] at isDigits
  subst isDigits
  refine ⟨cut, ?_⟩
  have looks := isNumberText_number read
  cases digits with
  | nil => cases looks
  | cons digit more =>
    obtain ⟨rfl, _⟩ := List.cons.inj cut
    apply Spells.plain (first :: more).length 0 (by cases isFloat <;> rfl) notIgnored
      (Nat.succ_pos _) (by cases isFloat <;> simp)
    intro other follows source cursor
    have again := same other (follows.weaken fun character refused => by
      cases isFloat <;>
        simp only [joins, isJoining, reduceCtorEq, if_false, Bool.or_eq_false_iff, if_true,
          Bool.false_eq_true] at refused <;> exact refused.1.2)
    rw [List.cons_append] at again
    simp only [tokenStep, noMark, notDot, notComment, notName, starts, if_false, if_true,
      Bool.false_eq_true, numberStep, again]
    rfl

theorem string_spells (noQuotes : startsTripleQuote ('"' :: (front ++ rest)) = false)
    (same : ∀ other, stringBody (front ++ other) = .closed content width other) :
    Spells ('"' :: front) ⟨.string, String.ofList content⟩ rest := by
  have nonempty : front ≠ [] := by
    rintro rfl
    cases same []
  apply Spells.plain (width + 1) 1 rfl (by decide) (Nat.succ_pos _) (by simp)
  intro other follows source cursor
  rw [tokenStep, startsTripleQuote_replaced nonempty follows noQuotes]
  simp only [punctuation?, stringStep, same other]
  rfl

/-- Whether a step finds an invalid token, or one that is spelled by the text before the rest. -/
def Finds (characters : List Char) (step : Step) : Prop :=
  (∃ fault, step.1.lexeme = .mark (.invalid fault)) ∨
    ∃ spelling, characters = spelling ++ step.2.2 ∧ Spells spelling step.1.lexeme step.2.2

theorem invalidStep_finds (source : String) (fault : LexicalFault) (cursor : Cursor) :
    Finds characters (invalidStep source fault cursor) :=
  .inl ⟨fault, rfl⟩

theorem numberStep_finds (starts : first = '-' ∨ first.isDigit = true) (source : String)
    (cursor : Cursor) :
    Finds (first :: others) (numberStep source cursor (first :: others)) := by
  unfold numberStep
  split
  next found => exact .inr ⟨_, number_spells starts found⟩
  next => exact invalidStep_finds source _ _

theorem stringStep_finds (noQuotes : startsTripleQuote ('"' :: others) = false) (source : String)
    (cursor : Cursor) : Finds ('"' :: others) (stringStep source cursor others) := by
  unfold stringStep
  split
  next found =>
    obtain ⟨front, rfl, same⟩ := stringBody_front found
    exact .inr ⟨'"' :: front, rfl, string_spells noQuotes same⟩
  next => exact invalidStep_finds source _ _

theorem blockStep_finds (source : String) (cursor : Cursor) (inner : List Char) :
    Finds ('"' :: '"' :: '"' :: inner) (blockStep source cursor inner) := by
  unfold blockStep
  split
  next found =>
    obtain ⟨front, rfl, reads⟩ := blockBody_front found
    exact .inr ⟨'"' :: '"' :: '"' :: front, rfl, .block reads _⟩
  next => exact invalidStep_finds source _ _

theorem tokenStep_finds (source : String) (cursor : Cursor) (first : Char) (others : List Char) :
    Finds (first :: others) (tokenStep source cursor first others) := by
  unfold tokenStep
  split
  next kind isMark => exact .inr ⟨[first], rfl, mark_spells isMark _⟩
  next =>
    split_ifs with isDot isSpread isComment isName starts isQuote quotes
    · subst isDot
      rcases others with _ | ⟨second, _ | ⟨third, others⟩⟩
      · cases isSpread
      · cases isSpread
      · cases isSpread
        exact .inr ⟨['.', '.', '.'], rfl, spread_spells others⟩
    · exact invalidStep_finds source _ _
    · subst isComment
      obtain ⟨text, rest, taken, rfl, all, ends⟩ := takeChars_cut isCommentChar others
      rw [taken]
      exact .inr ⟨'#' :: text, rfl, comment_spells all ends⟩
    · obtain ⟨text, rest, taken, rfl, all, ends⟩ := takeChars_cut isNameRest others
      rw [taken]
      exact .inr ⟨first :: text, rfl, name_spells isName all ends⟩
    · exact numberStep_finds starts source cursor
    · obtain ⟨inner, rfl, rfl⟩ := eq_of_startsTripleQuote quotes
      exact blockStep_finds source cursor inner
    · subst isQuote
      exact stringStep_finds (Bool.eq_false_iff.mpr quotes) source cursor
    · exact invalidStep_finds source _ _

/-- What begins with a character that is not skipped is a token or invalid. -/
theorem tokenStep_cases (read : tokenStep source cursor first others = (token, after, rest)) :
    (∃ fault, token.lexeme = .mark (.invalid fault)) ∨
      ∃ spelling, first :: others = spelling ++ rest ∧ Spells spelling token.lexeme rest := by
  have finds := tokenStep_finds source cursor first others
  rw [read] at finds
  exact finds

/-! ## What is skipped -/

/-- Whether everything before some text is skipped, also if other text follows.  If nothing
is left, the first character of the gap is skipped, too: a line feed may belong to the
carriage return before it. -/
def Skips (characters left : List Char) : Prop :=
  left <:+ characters ∧ ∀ tail, IsGap tail → ∀ start, ∃ stop, Cursor.Reaches start stop ∧
    (left = [] → skipIgnored start (characters ++ tail) = skipIgnored stop (tail.drop 1)) ∧
    (left ≠ [] → skipIgnored start (characters ++ tail) = skipIgnored stop (left ++ tail))

theorem Skips.push (skips : Skips characters left) (front : List Char)
    (step : ∀ tail, ∀ start, ∃ next, Cursor.Reaches start next ∧
      skipIgnored start (front ++ (characters ++ tail)) = skipIgnored next (characters ++ tail)) :
    Skips (front ++ characters) left := by
  obtain ⟨suffix, same⟩ := skips
  refine ⟨suffix.trans (List.suffix_append _ _), fun tail gap start => ?_⟩
  obtain ⟨next, reaches, stepped⟩ := step tail start
  obtain ⟨stop, reachesStop, atEnd, before⟩ := same tail gap next
  rw [List.append_assoc, stepped]
  exact ⟨stop, reaches.trans reachesStop, atEnd, before⟩

theorem skipIgnored_gap (gap : IsGap tail) (start : Cursor) :
    ∃ stop, start.Reaches stop ∧ skipIgnored start tail = skipIgnored stop (tail.drop 1) := by
  cases tail with
  | nil => exact ⟨start, .refl start, rfl⟩
  | cons first others =>
    have isGap := gap first rfl
    simp only [Bool.not_eq_false', Bool.or_eq_true, beq_iff_eq] at isGap
    rcases isGap with rfl | rfl
    · exact ⟨start.advance 1, start.reaches_advance 1, skipIgnored_blank (by decide) start others⟩
    · exact ⟨(start.advance 1).beginLine, start.reaches_line 1, skipIgnored_line start others⟩

/-- A carriage return at the end of a text.  A line feed after it begins no further line. -/
theorem skips_return : Skips ['\r'] [] := by
  refine ⟨List.nil_suffix, fun tail gap start => ?_⟩
  have reaches := start.reaches_line 1
  cases tail with
  | nil =>
    refine ⟨(start.advance 1).beginLine, reaches, fun _ => ?_, by simp⟩
    rw [List.append_nil, skipIgnored.eq_def]
    simp [skipIgnored]
  | cons first others =>
    refine ⟨(start.advance 1).beginLine.advance 1,
      reaches.trans (Cursor.reaches_advance _ 1), fun _ => ?_, by simp⟩
    have isGap := gap first rfl
    simp only [Bool.not_eq_false', Bool.or_eq_true, beq_iff_eq] at isGap
    rw [List.cons_append, skipIgnored.eq_def]
    rcases isGap with rfl | rfl
    · exact skipIgnored_blank (by decide) (start.advance 1).beginLine others
    · simp

theorem skipIgnored_skips (read : skipIgnored cursor characters = (after, left)) :
    Skips characters left := by
  fun_induction skipIgnored cursor characters with
  | case1 =>
    cases read
    refine ⟨List.suffix_refl _, fun tail gap start => ?_⟩
    obtain ⟨stop, reaches, same⟩ := skipIgnored_gap gap start
    exact ⟨stop, reaches, fun _ => same, fun some => absurd rfl some⟩
  | case2 cursor character others isBlank ih =>
    apply (ih read).push [character]
    intro tail start
    refine ⟨start.advance 1, start.reaches_advance 1, ?_⟩
    rw [List.singleton_append, skipIgnored.eq_def]
    simp only [isBlank, if_true]
  | case3 cursor others _ ih =>
    apply (ih read).push ['\n']
    intro tail start
    exact ⟨(start.advance 1).beginLine, start.reaches_line 1, skipIgnored_line start _⟩
  | case4 cursor others _ _ ih =>
    apply (ih read).push ['\r', '\n']
    intro tail start
    refine ⟨(start.advance 1).beginLine.advance 1, ?_, ?_⟩
    · exact (start.reaches_line 1).trans (Cursor.reaches_advance _ 1)
    · rw [List.cons_append, skipIgnored.eq_def]
      simp
  | case5 cursor next others notLine _ _ ih =>
    apply (ih read).push ['\r']
    intro tail start
    refine ⟨(start.advance 1).beginLine, start.reaches_line 1, ?_⟩
    rw [List.cons_append, skipIgnored.eq_def]
    simp [notLine]
  | case6 =>
    cases read
    exact skips_return
  | case7 =>
    cases read
    refine ⟨List.suffix_refl _, fun tail _ start => ?_⟩
    exact ⟨start, .refl start, by simp, fun _ => rfl⟩

/-- Whether a text begins with a token of a given lexeme before the rest, wherever the text
stands and whatever follows after a gap.  A comment at the end of the text goes on up to a
character that cannot stand in it. -/
structure StepsTo (characters : List Char) (lexeme : Lexeme) (rest : List Char) : Prop where
  notFinal : isFinal lexeme.kind = false
  suffix : rest <:+ characters
  shorter : rest.length < characters.length
  comment : lexeme.kind = .comment → lexeme.text.toList ++ rest <:+ characters
  step : ∀ tail, IsGap tail → (lexeme.kind = .comment → rest = [] → Ends isCommentChar tail) →
    ∀ source cursor, ∃ token after,
      nextToken source cursor (characters ++ tail) = (token, after, rest ++ tail) ∧
        token.lexeme = lexeme ∧ Span source cursor [token] after

/-- The next token of a text is its end, invalid, or a token before the rest. -/
theorem nextToken_cases (read : nextToken source cursor characters = (token, after, rest)) :
    (token.lexeme = .mark .endOfInput ∧ Skips characters []) ∨
      (∃ fault, token.lexeme = .mark (.invalid fault)) ∨ StepsTo characters token.lexeme rest := by
  unfold nextToken at read
  split at read
  next between skipped =>
    cases read
    exact .inl ⟨rfl, skipIgnored_skips skipped⟩
  next between first others skipped =>
    rcases tokenStep_cases read with invalid | ⟨spelling, cut, spells⟩
    · exact .inr (.inl invalid)
    · obtain ⟨suffix, same⟩ := skipIgnored_skips skipped
      rw [cut] at suffix same
      have nonempty : 0 < spelling.length := List.length_pos_iff.mpr spells.some
      have shorter := suffix.length_le
      rw [List.length_append] at shorter
      refine .inr (.inr ⟨spells.notFinal, (List.suffix_append _ _).trans suffix, by omega,
        fun isComment => ?_, fun tail gap ends target start => ?_⟩)
      · rw [spells.comment isComment]
        exact suffix
      · have follows : Follows (joins token.kind) rest (rest ++ tail) := by
          unfold joins
          split
          next isComment =>
            cases rest with
            | nil => exact .inr (ends isComment rfl)
            | cons => exact .inl rfl
          next => exact gap.follows rfl rfl rest
        obtain ⟨stop, reaches, _, before⟩ := same tail gap start
        obtain ⟨found, final, isFound, isLexeme, span⟩ :=
          spells.step (rest ++ tail) follows target stop
        refine ⟨found, final, ?_, isLexeme, (Span.nil reaches).append span⟩
        rw [← isFound, nextToken, before (by simp [spells.some]), List.append_assoc, nextToken]

end QueryTree.Lexer
