import QueryTree.Proofs.Language.Lexeme

/-!
# Reading given lexemes

A parser `Reads` given lexemes if it takes exactly the tokens that spell them and
succeeds, provided that the token after them is of a kind that does not continue
what is read.  The rules follow the combinators of the parser; a sequence asks
that the second part, or what follows if it is empty, does not continue the first.
-/

namespace QueryTree.Parser

variable {α β γ : Type}

/-- The kind of the next token. -/
def nextKind (tokens : List Token) : TokenKind := (tokens.headD .missing).kind

/-- The kind of the first lexeme, or else of what follows. -/
def headKind : List Lexeme → TokenKind → TokenKind
  | [], kind => kind
  | lexeme :: _, _ => lexeme.kind

theorem nextKind_append (tokens rest : List Token) :
    nextKind (tokens ++ rest) = headKind (tokens.map Token.lexeme) (nextKind rest) := by
  cases tokens <;> rfl

/-- Whether a parser takes tokens with given lexemes, if what follows is of an
allowed kind, and gives a result with a property. -/
def Reads (parser : Parser α) (lexemes : List Lexeme) (follows : TokenKind → Prop)
    (good : α → Prop) : Prop :=
  ∀ tokens rest, tokens.map Token.lexeme = lexemes → follows (nextKind rest) →
    ∃ value, parser (tokens ++ rest) = .ok (value, rest) ∧ good value

/-- Every kind is allowed. -/
def anyKind : TokenKind → Prop := fun _ => True

namespace Reads

variable {lefts rights lexemes : List Lexeme} {lexeme : Lexeme}
variable {allowed follows : TokenKind → Prop} {good : α → Prop} {fine : β → Prop}
variable {first : Parser α} {second : α → Parser β}

theorem pure {value : α} (holds : good value) : Reads (Pure.pure value) [] follows good := by
  intro tokens rest spelled _
  rw [List.map_eq_nil_iff.mp spelled]
  exact ⟨value, rfl, holds⟩

theorem pureBind {value : α} (reads : Reads (second value) lexemes follows fine) :
    Reads (Pure.pure value >>= second) lexemes follows fine :=
  reads

theorem bind (before : Reads first lefts allowed good)
    (after : ∀ value, good value → Reads (second value) rights follows fine)
    (fits : ∀ kind, follows kind → allowed (headKind rights kind)) :
    Reads (first >>= second) (lefts ++ rights) follows fine := by
  intro tokens rest spelled allows
  obtain ⟨left, right, rfl, isLeft, isRight⟩ := List.map_eq_append_iff.mp spelled
  have between : allowed (nextKind (right ++ rest)) := by
    rw [nextKind_append, isRight]
    exact fits _ allows
  obtain ⟨value, read, holds⟩ := before left (right ++ rest) isLeft between
  obtain ⟨result, readNext, holdsNext⟩ := after value holds right rest isRight allows
  refine ⟨result, ?_, holdsNext⟩
  change Except.bind (first _) (fun found => second found.1 found.2) = _
  rw [List.append_assoc, read]
  exact readNext

/-- Something that takes one token, before something else. -/
theorem cons (before : Reads first [lexeme] anyKind good)
    (after : ∀ value, good value → Reads (second value) rights follows fine) :
    Reads (first >>= second) (lexeme :: rights) follows fine :=
  bind before after fun _ _ => trivial

/-- Something that takes nothing, before something else. -/
theorem free (before : Reads first [] anyKind good)
    (after : ∀ value, good value → Reads (second value) rights follows fine) :
    Reads (first >>= second) rights follows fine :=
  bind before after fun _ _ => trivial

theorem weaken {other : α → Prop} {fewer : TokenKind → Prop}
    (reads : Reads first lexemes follows good) (stronger : ∀ kind, fewer kind → follows kind)
    (weaker : ∀ value, good value → other value) : Reads first lexemes fewer other := by
  intro tokens rest spelled allows
  obtain ⟨value, read, holds⟩ := reads tokens rest spelled (stronger _ allows)
  exact ⟨value, read, weaker value holds⟩

/-- Something that only changes the result of what is read. -/
theorem last (before : Reads first lexemes follows good)
    (after : ∀ value, good value → Reads (second value) [] follows fine) :
    Reads (first >>= second) lexemes follows fine := by
  rw [← List.append_nil lexemes]
  exact bind before after fun _ allows => allows

theorem map (image : α → β) (reads : Reads first lexemes follows fun value => fine (image value)) :
    Reads (image <$> first) lexemes follows fine :=
  last reads fun _ holds => pure holds

variable {condition : Prop}

theorem pos [Decidable condition] {yes no : Parser α} (holds : condition)
    (reads : Reads yes lexemes follows good) :
    Reads (if condition then yes else no) lexemes follows good := by
  rw [if_pos holds]
  exact reads

theorem neg [Decidable condition] {yes no : Parser α} (fails : ¬condition)
    (reads : Reads no lexemes follows good) :
    Reads (if condition then yes else no) lexemes follows good := by
  rw [if_neg fails]
  exact reads

/-- Looking at the next token, which is the first one that is to be read. -/
theorem peek {inspect : Token → Parser β} {others : List Lexeme}
    (starts : lexemes = lexeme :: others)
    (after : ∀ position comment, Reads (inspect ⟨lexeme.kind, lexeme.text, position, comment⟩)
      lexemes follows fine) :
    Reads (Parser.peek >>= inspect) lexemes follows fine := by
  intro tokens rest spelled allows
  obtain ⟨token, others, rfl, isFirst, areOthers⟩ := List.map_eq_cons_iff.mp (spelled.trans starts)
  subst isFirst
  exact after token.position token.comment (token :: others) rest spelled allows

/-- Looking at the next token if nothing is left to be read. -/
theorem peekAfter {inspect : Token → Parser β}
    (after : ∀ token, follows token.kind → Reads (inspect token) [] follows fine) :
    Reads (Parser.peek >>= inspect) [] follows fine := by
  intro tokens rest spelled allows
  rw [List.map_eq_nil_iff.mp spelled]
  exact after _ allows [] rest rfl allows

end Reads

/-! ## Single tokens -/

variable {token : Token} {lexeme : Lexeme}

theorem next_cons (real : token.lexeme.isReal = true) (tokens : List Token) :
    next (token :: tokens) = .ok (token, tokens) := by
  rw [next_apply]
  split
  next fault invalid =>
    change token.kind = _ at invalid
    simp [Lexeme.isReal, Token.lexeme, invalid, Lexer.isFinal] at real
  next => rfl

theorem next_reads (real : lexeme.isReal = true) :
    Reads next [lexeme] anyKind fun token => token.lexeme = lexeme := by
  intro tokens rest spelled _
  obtain ⟨token, rfl, isLexeme⟩ := List.map_eq_singleton_iff.mp spelled
  subst isLexeme
  exact ⟨token, next_cons real rest, rfl⟩

theorem expect_reads (lexeme : Lexeme) (real : lexeme.isReal = true) :
    Reads (expect lexeme.kind) [lexeme] anyKind fun token => token.lexeme = lexeme :=
  .peek rfl fun _ _ => .pos rfl (next_reads real)

theorem expectWord_cons {word : String} (isWord : token.lexeme = .word word) (tokens : List Token) :
    expectWord word (token :: tokens) = .ok (token, tokens) := by
  change (if token.kind = .name ∧ token.text = word then next
    else failAt token (.expectedWord word token.kind token.text)) (token :: tokens) = _
  rw [if_pos ⟨congrArg Lexeme.kind isWord, congrArg Lexeme.text isWord⟩]
  exact next_cons (by rw [isWord]; rfl) tokens

theorem expectWord_reads (word : String) :
    Reads (expectWord word) [.word word] anyKind fun token => token.lexeme = .word word :=
  .peek rfl fun _ _ => .pos ⟨rfl, rfl⟩ (next_reads rfl)

theorem name_reads (word : String) : Reads name [.word word] anyKind (· = word) :=
  (expect_reads (.word word) rfl).last fun _ isWord => .pure (congrArg Lexeme.text isWord)

theorem position_reads : Reads position [] anyKind fun _ => True :=
  .peekAfter fun _ _ => .pure trivial

theorem skip_reads {kind : TokenKind} (real : (Lexeme.mark kind).isReal = true) :
    Reads (skip kind) [.mark kind] anyKind (· = true) :=
  .peek rfl fun _ _ => .pos rfl ((next_reads real).last fun _ _ => .pure rfl)

theorem skip_reads_nothing (kind : TokenKind) : Reads (skip kind) [] (· ≠ kind) (· = false) :=
  .peekAfter fun _ other => .neg other (.pure rfl)

/-! ## Groups -/

/-- Every item takes at least one token. -/
theorem length_le_flatMap_of_ne_nil {lexemes : α → List Lexeme} {values : List α}
    (some : ∀ value ∈ values, lexemes value ≠ []) :
    values.length ≤ (values.flatMap lexemes).length := by
  induction values with
  | nil => exact Nat.le_refl 0
  | cons value values ih =>
    have rest := ih (List.forall_mem_cons.mp some).2
    have first := List.length_pos_iff.mpr (some value List.mem_cons_self)
    rw [List.flatMap_cons, List.length_append, List.length_cons]
    omega

/-- How the items of a group are read: each of them up to its image, which the next
item or the closing token does not continue. -/
structure Items (item : Parser α) (close : TokenKind) (follows : TokenKind → Prop)
    (lexemes : α → List Lexeme) (image : α → γ) (values : List α) : Prop where
  reads : ∀ value ∈ values, Reads item (lexemes value) follows fun found =>
    image found = image value
  starts : ∀ value ∈ values, ∃ lexeme others, lexemes value = lexeme :: others ∧
    follows lexeme.kind ∧ lexeme.kind ≠ close
  closes : follows close

section Groups

variable {item : Parser α} {opening close : TokenKind} {follows : TokenKind → Prop}
variable {lexemes : α → List Lexeme} {image : α → γ} {values : List α}

theorem Items.tail {value : α} (items : Items item close follows lexemes image (value :: values)) :
    Items item close follows lexemes image values where
  reads value member := items.reads value (List.mem_cons_of_mem _ member)
  starts value member := items.starts value (List.mem_cons_of_mem _ member)
  closes := items.closes

variable (items : Items item close follows lexemes image values)

include items

/-- The items of a group, or its end, do not continue what stands before. -/
theorem Items.follow : follows (headKind (values.flatMap lexemes) close) := by
  cases values with
  | nil => exact items.closes
  | cons value values =>
    obtain ⟨lexeme, others, written, allows, _⟩ := items.starts value List.mem_cons_self
    rw [List.flatMap_cons, written]
    exact allows

theorem Items.length_le : values.length ≤ (values.flatMap lexemes).length := by
  refine length_le_flatMap_of_ne_nil fun value member => ?_
  obtain ⟨lexeme, others, written, _⟩ := items.starts value member
  rw [written]
  exact List.cons_ne_nil _ _

theorem itemsUntil_reads {bound : Nat} (enough : values.length < bound) :
    Reads (itemsUntil close item bound) (values.flatMap lexemes) (· = close) fun found =>
      found.map image = values.map image := by
  induction values generalizing bound with
  | nil =>
    cases bound with
    | zero => cases enough
    | succ bound => exact .peekAfter fun _ isClose => .pos isClose (.pure rfl)
  | cons value values ih =>
    cases bound with
    | zero => cases enough
    | succ bound =>
      obtain ⟨lexeme, others, written, _, notClose⟩ := items.starts value List.mem_cons_self
      have first := items.reads value List.mem_cons_self
      have rest := ih items.tail (Nat.lt_of_succ_lt_succ enough)
      have starts : lexemes value ++ values.flatMap lexemes =
          lexeme :: (others ++ values.flatMap lexemes) := by rw [written, List.cons_append]
      rw [List.flatMap_cons]
      refine .peek starts fun _ _ => .neg notClose <| first.bind
        (fun found same => rest.last fun founds sames => .pure ?_) ?_
      · rw [List.map_cons, List.map_cons, same, sames]
      · rintro kind rfl
        exact items.tail.follow

theorem items_reads :
    Reads (Parser.items close item) (values.flatMap lexemes) (· = close) fun found =>
      found.map image = values.map image := by
  intro tokens rest spelled allows
  have enough : values.length < (tokens ++ rest).length + 1 := by
    have bound := items.length_le
    rw [← spelled, List.length_map] at bound
    rw [List.length_append]
    omega
  exact itemsUntil_reads items enough tokens rest spelled allows

theorem group_reads (opens : (Lexeme.mark opening).isReal = true)
    (closes : (Lexeme.mark close).isReal = true) :
    Reads (group opening close item)
      (Lexeme.enclosed opening close (values.flatMap lexemes)) anyKind fun found =>
        found.map image = values.map image :=
  .cons (skip_reads opens) fun _ isOpen => .pos isOpen <|
    (items_reads items).bind (fun _ same => (next_reads closes).last fun _ _ => .pure same)
      fun _ _ => rfl

theorem groupOfSome_reads (some : values ≠ []) (opens : (Lexeme.mark opening).isReal = true)
    (closes : (Lexeme.mark close).isReal = true) :
    Reads (groupOfSome opening close item)
      (Lexeme.enclosed opening close (values.flatMap lexemes)) anyKind fun found =>
        found.map image = values.map image := by
  refine .cons (skip_reads opens) fun _ isOpen => .pos isOpen <|
    (items_reads items).bind (fun found same => .peek rfl fun _ _ => .neg ?_
      ((next_reads closes).last fun _ _ => .pure same)) fun _ _ => rfl
  rw [List.isEmpty_iff]
  rintro rfl
  exact some (List.map_eq_nil_iff.mp same.symm)

/-- A group that is left out if it is empty. -/
theorem groupOfSome_reads_group (opens : (Lexeme.mark opening).isReal = true)
    (closes : (Lexeme.mark close).isReal = true) :
    Reads (groupOfSome opening close item) (Lexeme.group opening close lexemes values)
      (· ≠ opening) fun found => found.map image = values.map image := by
  cases values with
  | nil =>
    exact (skip_reads_nothing opening).last fun _ isClosed => .neg (by simp [isClosed]) (.pure rfl)
  | cons value values =>
    exact (groupOfSome_reads items (by simp) opens closes).weaken (fun _ _ => trivial)
      fun _ same => same

end Groups

/-! ## Where something begins -/

/-- Whether a parser reads given lexemes, with a property that concerns the position
of the first token. -/
def ReadsAt (parser : Parser α) (lexemes : List Lexeme) (follows : TokenKind → Prop)
    (good : Position → α → Prop) : Prop :=
  ∀ tokens rest, tokens.map Token.lexeme = lexemes → follows (nextKind rest) →
    ∃ value, parser (tokens ++ rest) = .ok (value, rest) ∧
      good (tokens.headD .missing).position value

/-- Something that begins with a token that is taken as it is. -/
theorem ReadsAt.cons {first : Parser Token} {second : Token → Parser β} {lexeme : Lexeme}
    {lexemes : List Lexeme} {follows : TokenKind → Prop} {good : Position → β → Prop}
    (takes : ∀ token rest, token.lexeme = lexeme → first (token :: rest) = .ok (token, rest))
    (after : ∀ token, Reads (second token) lexemes follows (good token.position)) :
    ReadsAt (first >>= second) (lexeme :: lexemes) follows good := by
  intro tokens rest spelled allows
  obtain ⟨token, others, rfl, isFirst, areOthers⟩ := List.map_eq_cons_iff.mp spelled
  obtain ⟨value, read, holds⟩ := after token others rest areOthers allows
  refine ⟨value, ?_, holds⟩
  change Except.bind (first (token :: (others ++ rest))) (fun found => second found.1 found.2) = _
  rw [takes token _ isFirst]
  exact read

/-- What a parser reads is both of the things that it reads some lexemes as, alone or
with more lexemes after them. -/
theorem ReadsAt.exists_common {parser : Parser α} {lexemes others : List Lexeme}
    {follows : TokenKind → Prop} {good otherGood : Position → α → Prop}
    (reads : ReadsAt parser lexemes follows good)
    (readsMore : ReadsAt parser (lexemes ++ others) follows otherGood)
    (allows : ∀ kind, follows kind) :
    ∃ value position otherPosition, good position value ∧ otherGood otherPosition value := by
  let token (lexeme : Lexeme) : Token := ⟨lexeme.kind, lexeme.text, .unknown, none⟩
  have spelled (lexemes : List Lexeme) : (lexemes.map token).map Token.lexeme = lexemes := by
    rw [List.map_map]
    exact List.map_id lexemes
  obtain ⟨value, read, holds⟩ := reads (lexemes.map token) (others.map token) (spelled _) (allows _)
  obtain ⟨found, readMore, otherHolds⟩ :=
    readsMore ((lexemes ++ others).map token) [] (spelled _) (allows _)
  rw [List.append_nil, List.map_append, read] at readMore
  have same : value = found := congrArg Prod.fst (Except.ok.inj readMore)
  exact ⟨value, _, _, holds, same ▸ otherHolds⟩

end QueryTree.Parser
