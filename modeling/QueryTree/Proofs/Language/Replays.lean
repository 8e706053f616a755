import QueryTree.Proofs.Language.Reads

/-!
# Reading tokens again

What a parser reads depends on the lexemes of the tokens and not on their places, nor
on the tokens behind those that it takes and looks at.  A parser `Replays` another one if
it succeeds wherever that one did before on tokens that are seen to be the same, possibly
with more tokens behind them.  One either sees the style of strings or not.  A closed
parser does not look at the token after those that it takes.
-/

namespace QueryTree

/-- Whether a lexeme stands for more than an end: it is of another kind or has a text. -/
def Lexeme.isSolid (lexeme : Lexeme) : Bool :=
  !Lexer.isFinal lexeme.kind || lexeme.text != ""

/-- Whether tokens of a kind are seen to be of this kind whatever the style of strings, and stand
for something that is read. -/
def TokenKind.isPlain (kind : TokenKind) : Bool :=
  !Lexer.isFinal kind && kind ≠ .string && kind ≠ .blockString

namespace Token

variable {styled : Bool} {token other : Token} {kind : TokenKind}

/-- What is seen of a token, with or without the style of strings. -/
def seen : Bool → Token → Lexeme
  | true => lexeme
  | false => fun token => token.lexeme.sense

theorem kind_seen (plain : kind.isPlain = true) :
    (token.seen styled).kind = kind ↔ token.kind = kind := by
  cases styled with
  | true => rfl
  | false =>
    simp only [TokenKind.isPlain, Bool.and_eq_true, decide_eq_true_eq] at plain
    by_cases isBlock : token.kind = .blockString
    · simp [seen, Lexeme.sense, lexeme, isBlock, Ne.symm plain.1.2, Ne.symm plain.2]
    · simp [seen, Lexeme.sense, lexeme, isBlock]

theorem text_seen (token : Token) : (token.seen styled).text = token.text := by
  cases styled with
  | true => rfl
  | false => by_cases isBlock : token.kind = .blockString <;>
      simp [seen, Lexeme.sense, lexeme, isBlock]

theorem isSolid_seen (token : Token) : (token.seen styled).isSolid = token.lexeme.isSolid := by
  cases styled with
  | true => rfl
  | false => by_cases isBlock : token.kind = .blockString <;>
      simp [seen, Lexeme.sense, Lexeme.isSolid, lexeme, isBlock, Lexer.isFinal]

theorem kind_iff_of_seen (plain : kind.isPlain = true)
    (same : other.seen styled = token.seen styled) : other.kind = kind ↔ token.kind = kind := by
  rw [← kind_seen plain, same, kind_seen plain]

theorem text_eq_of_seen (same : other.seen styled = token.seen styled) :
    other.text = token.text := by
  rw [← text_seen other, same, text_seen]

/-- Tokens that are seen to be the same are of one kind, or both of them are strings. -/
theorem kind_eq_or_of_seen (same : other.seen styled = token.seen styled) :
    other.kind = token.kind ∨ styled = false ∧ (token.kind = .string ∨ token.kind = .blockString) ∧
      (other.kind = .string ∨ other.kind = .blockString) := by
  have kinds := congrArg Lexeme.kind same
  cases styled with
  | true => exact .inl kinds
  | false =>
    by_cases isBlock : token.kind = .blockString <;>
      by_cases otherBlock : other.kind = .blockString <;>
        simp only [seen, Lexeme.sense, lexeme, isBlock, otherBlock, if_true, if_false] at kinds
    · exact .inl (otherBlock.trans isBlock.symm)
    · exact .inr ⟨rfl, .inr isBlock, .inl kinds⟩
    · exact .inr ⟨rfl, .inl kinds.symm, .inr otherBlock⟩
    · exact .inl kinds

end Token

namespace Parser

variable {α β γ δ : Type} {styled : Bool}

/-- The lexeme of the next token. -/
def nextLexeme (styled : Bool) (tokens : List Token) : Lexeme :=
  (tokens.headD .missing).seen styled

/-- Every lexeme is allowed. -/
def anyLexeme : Lexeme → Prop := fun _ => True

variable {rest tokens : List Token} {kind : TokenKind}

theorem nextLexeme_append {taken others after : List Token}
    (same : others.map (Token.seen styled) = taken.map (Token.seen styled))
    (sameNext : taken = [] → nextLexeme styled after = nextLexeme styled rest) :
    nextLexeme styled (others ++ after) = nextLexeme styled (taken ++ rest) := by
  cases taken with
  | nil =>
    rw [List.map_eq_nil_iff.mp same]
    exact sameNext rfl
  | cons token taken =>
    obtain ⟨other, others, rfl, isFirst, _⟩ := List.map_eq_cons_iff.mp same
    exact isFirst

/-- Tokens that are spelled alike are as many. -/
theorem length_append_le {taken others after : List Token}
    (spelled : others.map (Token.seen styled) = taken.map (Token.seen styled))
    (longer : rest.length ≤ after.length) :
    (taken ++ rest).length ≤ (others ++ after).length := by
  have lengths := congrArg List.length spelled
  simp only [List.length_map, List.length_append] at lengths ⊢
  omega

theorem bind_eq_ok {first : Parser α} {second : α → Parser β} {value : β} :
    (first >>= second) tokens = .ok (value, rest) ↔ ∃ found between,
      first tokens = .ok (found, between) ∧ second found between = .ok (value, rest) := by
  change Except.bind (first tokens) (fun result => second result.1 result.2) = _ ↔ _
  cases first tokens with
  | error fault => simp [Except.bind]
  | ok result =>
    constructor
    · intro read
      exact ⟨result.1, result.2, rfl, read⟩
    · rintro ⟨found, between, same, read⟩
      cases same
      exact read

/-- Whether a parser reads again what another one has read, up to an image, if the next
token has an allowed lexeme.  A parser takes solid tokens only, and a closed one takes at
least one of them. -/
structure Replays (styled : Bool) (allowed : Lexeme → Prop) (closed : Bool) (first again : Parser α)
    (image : α → γ) : Prop where
  leaves : ∀ {tokens rest : List Token} {value : α}, allowed (nextLexeme styled tokens) →
    first tokens = .ok (value, rest) → ∃ taken, tokens = taken ++ rest ∧
      (∀ token ∈ taken, token.lexeme.isSolid = true) ∧ (closed = true → taken ≠ [])
  replay : ∀ {taken rest others after : List Token} {value : α},
    allowed (nextLexeme styled (taken ++ rest)) → first (taken ++ rest) = .ok (value, rest) →
      others.map (Token.seen styled) = taken.map (Token.seen styled) →
        (closed = false → nextLexeme styled after = nextLexeme styled rest) →
          rest.length ≤ after.length →
            ∃ found, again (others ++ after) = .ok (found, after) ∧ image found = image value

namespace Replays

variable {allowed fewer : Lexeme → Prop} {closed ends : Bool} {image : α → γ} {target : β → δ}
variable {first again : Parser α} {second secondAgain : α → Parser β}

theorem pure {value other : α} (same : image other = image value) :
    Replays styled allowed false (Pure.pure value) (Pure.pure other) image where
  leaves _ read := by
    cases read
    exact ⟨[], rfl, by simp, by simp⟩
  replay {taken rest others after found} _ read spelled _ _ := by
    have isPure : (Except.ok (value, taken ++ rest) : Except SyntaxError _) = .ok (found, rest) :=
      read
    simp at isPure
    obtain ⟨rfl, rfl⟩ := isPure
    rw [List.map_eq_nil_iff.mp spelled]
    exact ⟨other, rfl, same⟩

theorem failAt {token : Token} {fault : SyntaxFault} :
    Replays styled allowed closed (Parser.failAt token fault) again image where
  leaves _ read := nomatch read
  replay _ read := nomatch read

theorem refuseNext : Replays styled allowed closed Parser.refuseNext again image where
  leaves _ read := nomatch read
  replay _ read := nomatch read

theorem weaken (replays : Replays styled allowed closed first again image)
    (more : ∀ lexeme, fewer lexeme → allowed lexeme) :
    Replays styled fewer closed first again image where
  leaves allows := replays.leaves (more _ allows)
  replay allows := replays.replay (more _ allows)

/-- A parser that may be in front of every token. -/
theorem any (replays : Replays styled anyLexeme closed first again image) :
    Replays styled allowed closed first again image :=
  replays.weaken fun _ _ => trivial

/-- A closed parser may also be followed by the same token. -/
theorem opens (replays : Replays styled allowed closed first again image) :
    Replays styled allowed false first again image where
  leaves allows read := by
    obtain ⟨taken, cut, solid, _⟩ := replays.leaves allows read
    exact ⟨taken, cut, solid, by simp⟩
  replay allows read spelled next longer :=
    replays.replay allows read spelled (fun _ => next rfl) longer

/-- Something before something else that may rely on the token in front of which the first
stops. -/
theorem bindBefore (before : Replays styled allowed closed first again image)
    (stops : Lexeme → Prop)
    (stop : ∀ {tokens rest value}, first tokens = .ok (value, rest) →
      stops (nextLexeme styled rest))
    (after : ∀ value other, image other = image value →
      Replays styled stops ends (second value) (secondAgain other) target) :
    Replays styled allowed ends (first >>= second) (again >>= secondAgain) target where
  leaves allows read := by
    obtain ⟨found, between, isFound, isResult⟩ := bind_eq_ok.mp read
    obtain ⟨taken, rfl, solid, _⟩ := before.leaves allows isFound
    obtain ⟨others, rfl, otherSolid, some⟩ := (after found found rfl).leaves (stop isFound) isResult
    refine ⟨taken ++ others, (List.append_assoc ..).symm, ?_, ?_⟩
    · rw [List.forall_mem_append]
      exact ⟨solid, otherSolid⟩
    · intro isClosed none
      exact some isClosed (List.append_eq_nil_iff.mp none).2
  replay {taken rest others following value} allows read spelled next longer := by
    obtain ⟨found, between, isFound, isResult⟩ := bind_eq_ok.mp read
    obtain ⟨front, cut, _, _⟩ := before.leaves allows isFound
    obtain ⟨back, rfl, _, some⟩ := (after found found rfl).leaves (stop isFound) isResult
    rw [← List.append_assoc] at cut
    have cut := List.append_cancel_right cut
    subst cut
    obtain ⟨left, right, rfl, isLeft, isRight⟩ := List.map_eq_append_iff.mp (spelled.trans
      (List.map_append ..))
    rw [List.append_assoc] at allows isFound
    -- The first part looks at the token behind it, which is beyond both if the second takes none.
    have sameNext : nextLexeme styled (right ++ following) = nextLexeme styled (back ++ rest) := by
      apply nextLexeme_append isRight
      intro none
      apply next
      cases ends with
      | false => rfl
      | true => exact absurd none (some rfl)
    obtain ⟨middle, readLeft, sameMiddle⟩ :=
      before.replay allows isFound isLeft (fun _ => sameNext) (length_append_le isRight longer)
    obtain ⟨result, readRight, sameResult⟩ :=
      (after found middle sameMiddle).replay (stop isFound) isResult isRight next longer
    refine ⟨result, ?_, sameResult⟩
    rw [List.append_assoc]
    exact bind_eq_ok.mpr ⟨middle, _, readLeft, readRight⟩

theorem bind (before : Replays styled allowed closed first again image)
    (after : ∀ value other, image other = image value →
      Replays styled anyLexeme ends (second value) (secondAgain other) target) :
    Replays styled allowed ends (first >>= second) (again >>= secondAgain) target :=
  before.bindBefore anyLexeme (fun _ => trivial) after

/-- The rule for something that is read again as it was. -/
theorem bindSame (before : Replays styled allowed closed first again id)
    (after : ∀ value, Replays styled anyLexeme ends (second value) (secondAgain value) target) :
    Replays styled allowed ends (first >>= second) (again >>= secondAgain) target :=
  before.bind fun value other same => (show other = value from same) ▸ after other

/-- The next token has the same lexeme when it is read again. -/
theorem sameNext (replays : Replays styled allowed closed first again image)
    {taken rest others following : List Token} {value : α}
    (allows : allowed (nextLexeme styled (taken ++ rest)))
    (read : first (taken ++ rest) = .ok (value, rest))
    (spelled : others.map (Token.seen styled) = taken.map (Token.seen styled))
    (next : closed = false → nextLexeme styled following = nextLexeme styled rest) :
    nextLexeme styled (others ++ following) = nextLexeme styled (taken ++ rest) := by
  apply nextLexeme_append spelled
  intro none
  apply next
  cases closed with
  | false => rfl
  | true =>
    obtain ⟨front, cut, _, some⟩ := replays.leaves allows read
    have same := List.append_cancel_right cut
    exact absurd (same.symm.trans none) (some rfl)

/-- Parsers that do the same in front of an allowed token. -/
theorem congr {other otherAgain : Parser α}
    (replays : Replays styled allowed closed other otherAgain image)
    (same : ∀ tokens, allowed (nextLexeme styled tokens) → first tokens = other tokens)
    (sameAgain : ∀ tokens, allowed (nextLexeme styled tokens) → again tokens = otherAgain tokens) :
    Replays styled allowed closed first again image where
  leaves allows read := by
    rw [same _ allows] at read
    exact replays.leaves allows read
  replay allows read spelled next longer := by
    rw [same _ allows] at read
    have isNext := replays.sameNext allows read spelled next
    obtain ⟨found, isFound, sameValue⟩ := replays.replay allows read spelled next longer
    refine ⟨found, ?_, sameValue⟩
    rw [sameAgain _ (isNext ▸ allows)]
    exact isFound

/-- Something that only changes the result of what is read. -/
theorem last {result resultAgain : α → β}
    (replays : Replays styled allowed closed first again image)
    (same : ∀ value other, image other = image value →
      target (resultAgain other) = target (result value)) :
    Replays styled allowed closed (first >>= fun value => Pure.pure (result value))
      (again >>= fun value => Pure.pure (resultAgain value)) target where
  leaves allows read := by
    obtain ⟨found, between, isFound, isResult⟩ := bind_eq_ok.mp read
    cases isResult
    exact replays.leaves allows isFound
  replay allows read spelled next longer := by
    obtain ⟨found, between, isFound, isResult⟩ := bind_eq_ok.mp read
    cases isResult
    obtain ⟨other, isOther, sameValue⟩ := replays.replay allows isFound spelled next longer
    exact ⟨resultAgain other, bind_eq_ok.mpr ⟨other, _, isOther, rfl⟩, same found other sameValue⟩

theorem lastSame {result resultAgain : α → β}
    (replays : Replays styled allowed closed first again id)
    (same : ∀ value, target (resultAgain value) = target (result value)) :
    Replays styled allowed closed (first >>= fun value => Pure.pure (result value))
      (again >>= fun value => Pure.pure (resultAgain value)) target :=
  replays.last fun value other equal => (show other = value from equal) ▸ same other

theorem map {result : α → β} (replays : Replays styled allowed closed first again image)
    (same : ∀ value other, image other = image value →
      target (result other) = target (result value)) :
    Replays styled allowed closed (result <$> first) (result <$> again) target :=
  replays.last same

variable {condition : Prop} {noClosed : Bool} {yes no yesAgain noAgain : Parser α}

theorem ite [Decidable condition]
    (whenTrue : condition → Replays styled allowed closed yes yesAgain image)
    (whenFalse : ¬condition → Replays styled allowed closed no noAgain image) :
    Replays styled allowed closed (if condition then yes else no)
      (if condition then yesAgain else noAgain) image := by
  by_cases holds : condition
  · rw [if_pos holds, if_pos holds]
    exact whenTrue holds
  · rw [if_neg holds, if_neg holds]
    exact whenFalse holds

/-- Two ways to read the same thing, which is then used in one way. -/
theorem branch [Decidable condition]
    (whenTrue : condition → Replays styled allowed closed yes yesAgain image)
    (whenFalse : ¬condition → Replays styled allowed noClosed no noAgain image)
    (after : ∀ value other, image other = image value →
      Replays styled anyLexeme ends (second value) (secondAgain other) target) :
    Replays styled allowed ends (if condition then yes >>= second else no >>= second)
      (if condition then yesAgain >>= secondAgain else noAgain >>= secondAgain) target :=
  ite (fun holds => (whenTrue holds).bind after) fun fails => (whenFalse fails).bind after

theorem branchSame [Decidable condition]
    (whenTrue : condition → Replays styled allowed closed yes yesAgain id)
    (whenFalse : ¬condition → Replays styled allowed noClosed no noAgain id)
    (after : ∀ value, Replays styled anyLexeme ends (second value) (secondAgain value) target) :
    Replays styled allowed ends (if condition then yes >>= second else no >>= second)
      (if condition then yesAgain >>= secondAgain else noAgain >>= secondAgain) target :=
  ite (fun holds => (whenTrue holds).bindSame after) fun fails => (whenFalse fails).bindSame after

/-- A choice that is made in the same way when something is read again. -/
theorem iteOf {conditionAgain : Prop} [Decidable condition] [Decidable conditionAgain]
    (same : conditionAgain ↔ condition)
    (whenTrue : condition → Replays styled allowed closed yes yesAgain image)
    (whenFalse : ¬condition → Replays styled allowed closed no noAgain image) :
    Replays styled allowed closed (if condition then yes else no)
      (if conditionAgain then yesAgain else noAgain) image := by
  simp only [same]
  exact ite whenTrue whenFalse

/-- Looking at the next token, which stays in place. -/
theorem peek {inspect inspectAgain : Token → Parser α}
    (after : ∀ token other : Token, other.seen styled = token.seen styled →
      allowed (token.seen styled) →
        Replays styled (· = token.seen styled) closed (inspect token) (inspectAgain other) image) :
    Replays styled allowed closed (Parser.peek >>= inspect) (Parser.peek >>= inspectAgain)
      image where
  leaves {tokens _ _} allows read :=
    (after (tokens.headD .missing) (tokens.headD .missing) rfl allows).leaves rfl read
  replay {taken rest others following value} allows read spelled next longer := by
    let token := (taken ++ rest).headD .missing
    have isNext := (after token token rfl allows).sameNext rfl read spelled next
    exact (after token ((others ++ following).headD .missing) isNext allows).replay rfl read
      spelled next longer

theorem position {locate locateAgain : Position → Parser α}
    (after : ∀ place other,
      Replays styled allowed closed (locate place) (locateAgain other) image) :
    Replays styled allowed closed (Parser.position >>= locate) (Parser.position >>= locateAgain)
      image where
  leaves {tokens _ _} allows read :=
    (after (tokens.headD .missing).position (tokens.headD .missing).position).leaves allows read
  replay {taken rest others following _} allows read spelled next longer :=
    (after ((taken ++ rest).headD .missing).position
      ((others ++ following).headD .missing).position).replay allows read spelled next longer

/-- Reading that is bounded by the number of tokens. -/
theorem sized {bounded boundedAgain : Nat → Parser α}
    (each : ∀ bound more, bound ≤ more →
      Replays styled allowed closed (bounded bound) (boundedAgain more) image) :
    Replays styled allowed closed (do bounded (← get).length) (do boundedAgain (← get).length)
      image where
  leaves {tokens _ _} allows read := (each tokens.length _ (Nat.le_refl _)).leaves allows read
  replay {taken rest others following _} allows read spelled next longer := by
    exact (each _ _ (length_append_le spelled longer)).replay allows read spelled next longer

end Replays

/-! ## Single tokens -/

theorem next_cons_of_valid {token : Token} (valid : ∀ fault, token.kind ≠ .invalid fault)
    (tokens : List Token) : next (token :: tokens) = .ok (token, tokens) := by
  rw [next_apply]
  split
  next fault invalid => exact absurd invalid (valid fault)
  next => rfl

/-- Taking a solid token. -/
theorem next_replays {allowed : Lexeme → Prop}
    (solid : ∀ lexeme, allowed lexeme → lexeme.isSolid = true) :
    Replays styled allowed true next next (Token.seen styled) where
  leaves {tokens rest value} allows read := by
    obtain ⟨rfl, rfl, _⟩ := next_eq_ok read
    have isSolid := solid _ allows
    rw [nextLexeme, Token.isSolid_seen] at isSolid
    cases tokens with
    | nil => cases isSolid
    | cons token tokens =>
      refine ⟨[token], rfl, ?_, by simp⟩
      intro other member
      rw [List.mem_singleton.mp member]
      exact isSolid
  replay {taken rest others following value} allows read spelled _ _ := by
    obtain ⟨rfl, isRest, valid⟩ := next_eq_ok read
    cases taken with
    | nil =>
      have none : rest = [] := by
        cases rest with
        | nil => rfl
        | cons token rest => exact absurd (congrArg List.length isRest) (by simp)
      have isSolid := solid _ allows
      rw [none, nextLexeme, Token.isSolid_seen] at isSolid
      cases isSolid
    | cons token taken =>
      have single : taken = [] := by simpa using isRest
      subst single
      obtain ⟨other, rfl, isOther⟩ := List.map_eq_singleton_iff.mp spelled
      have otherValid : ∀ fault, other.kind ≠ .invalid fault := by
        intro fault
        rcases Token.kind_eq_or_of_seen isOther with same | ⟨_, _, isString | isString⟩
        · rw [same]
          exact valid fault
        · rw [isString]
          nofun
        · rw [isString]
          nofun
      exact ⟨other, next_cons_of_valid otherValid following, isOther⟩

theorem next_replays_of_kind (plain : kind.isPlain = true) :
    Replays styled (fun lexeme => lexeme.kind = kind) true next next (Token.seen styled) := by
  apply next_replays
  intro lexeme isKind
  simp only [TokenKind.isPlain, Bool.and_eq_true, Bool.not_eq_true'] at plain
  simp [Lexeme.isSolid, isKind, plain.1.1]

theorem next_replays_of_text {text : String} (some : text ≠ "") :
    Replays styled (fun lexeme => lexeme.text = text) true next next (Token.seen styled) := by
  apply next_replays
  intro lexeme isText
  simp [Lexeme.isSolid, isText, some]

theorem expect_replays (kind : TokenKind) (plain : kind.isPlain = true) :
    Replays styled anyLexeme true (expect kind) (expect kind) (Token.seen styled) := by
  refine .peek fun _ _ same _ => .iteOf (Token.kind_iff_of_seen plain same) (fun isKind => ?_)
    fun _ => .failAt
  apply (next_replays_of_kind plain).weaken
  rintro _ rfl
  exact (Token.kind_seen plain).mpr isKind

theorem expectWord_replays (word : String) :
    Replays styled anyLexeme true (expectWord word) (expectWord word) (Token.seen styled) := by
  have plain : TokenKind.isPlain .name = true := rfl
  refine .peek fun _ _ same _ => .iteOf ?_ (fun isWord => ?_) fun _ => .failAt
  · rw [Token.kind_iff_of_seen plain same, Token.text_eq_of_seen same]
  · apply (next_replays_of_kind plain).weaken
    rintro _ rfl
    exact (Token.kind_seen plain).mpr isWord.1

theorem name_replays : Replays styled anyLexeme true name name id :=
  (expect_replays .name rfl).last fun _ _ same => Token.text_eq_of_seen same

theorem skip_replays (plain : kind.isPlain = true) :
    Replays styled anyLexeme false (skip kind) (skip kind) id := by
  refine .peek fun _ _ same _ => .iteOf (Token.kind_iff_of_seen plain same) (fun isKind => ?_)
    fun _ => .pure rfl
  apply (((next_replays_of_kind plain).last fun _ _ _ => rfl).opens).weaken
  rintro _ rfl
  exact (Token.kind_seen plain).mpr isKind

/-- In front of a token that can be skipped. -/
theorem skip_bind_apply (plain : kind.isPlain = true) {second : Bool → Parser β}
    (isKind : (nextLexeme styled tokens).kind = kind) :
    (skip kind >>= second) tokens = (next >>= fun _ => second true) tokens := by
  have taken : skip kind tokens = (next >>= fun _ => Pure.pure true) tokens :=
    congrFun (if_pos ((Token.kind_seen plain).mp isKind)) tokens
  change Except.bind (skip kind tokens) (fun result => second result.1 result.2) = _
  rw [taken]
  change Except.bind (Except.bind (next tokens) _) _ = Except.bind (next tokens) _
  cases next tokens <;> rfl

/-! ## Groups -/

section Groups

variable {item itemAgain : Parser α} {closed : Bool} {image : α → γ} {opening close : TokenKind}
variable (replays : Replays styled anyLexeme closed item itemAgain image)

include replays

variable {bound : Nat} {rest tokens : List Token}

section

variable (closes : close.isPlain = true)

include closes

theorem itemsUntil_replays {more : Nat} (less : bound ≤ more) :
    Replays styled anyLexeme false (itemsUntil close item bound) (itemsUntil close itemAgain more)
      (List.map image) := by
  induction bound generalizing more with
  | zero => exact .refuseNext
  | succ bound ih =>
    cases more with
    | zero => cases less
    | succ more =>
      refine .peek fun _ _ same _ => .iteOf (Token.kind_iff_of_seen closes same)
        (fun _ => .pure rfl) fun _ => ?_
      refine replays.any.bind fun first other same => ?_
      refine (ih (Nat.le_of_succ_le_succ less)).last fun values others sames => ?_
      rw [List.map_cons, List.map_cons, same, sames]

theorem items_replays :
    Replays styled anyLexeme false (items close item) (items close itemAgain) (List.map image) :=
  .sized fun _ _ less => itemsUntil_replays replays closes (Nat.succ_le_succ less)

omit replays in
/-- Items are read up to the closing token. -/
theorem nextLexeme_itemsUntil {values : List α}
    (read : itemsUntil close item bound tokens = .ok (values, rest)) :
    (nextLexeme styled rest).kind = close := by
  induction bound generalizing tokens values with
  | zero => cases read
  | succ bound ih =>
    have read : (if (tokens.headD .missing).kind = close then Pure.pure [] else do
      let first ← item
      let others ← itemsUntil close item bound
      return first :: others) tokens = .ok (values, rest) := read
    split at read
    next isClose =>
      cases read
      exact (Token.kind_seen closes).mpr isClose
    next =>
      obtain ⟨first, between, _, read⟩ := bind_eq_ok.mp read
      obtain ⟨others, after, isOthers, read⟩ := bind_eq_ok.mp read
      cases read
      exact ih isOthers

omit replays in
theorem nextLexeme_items {values : List α} (read : items close item tokens = .ok (values, rest)) :
    (nextLexeme styled rest).kind = close :=
  nextLexeme_itemsUntil closes read

/-- What follows the opening token of a group. -/
theorem groupBody_replays :
    Replays styled anyLexeme true
      (do let values ← items close item
          let _ ← next
          return values)
      (do let values ← items close itemAgain
          let _ ← next
          return values) (List.map image) := by
  refine (items_replays replays closes).bindBefore (fun lexeme => lexeme.kind = close)
    (nextLexeme_items closes) fun values others same => ?_
  exact (next_replays_of_kind closes).last fun _ _ _ => same

/-- What follows the opening token of a group that has to hold something. -/
theorem groupOfSomeBody_replays :
    Replays styled anyLexeme true
      (do let values ← items close item
          let last ← peek
          if values.isEmpty then failAt last (.emptyGroup last.kind)
          else
            let _ ← next
            return values)
      (do let values ← items close itemAgain
          let last ← peek
          if values.isEmpty then failAt last (.emptyGroup last.kind)
          else
            let _ ← next
            return values) (List.map image) := by
  refine (items_replays replays closes).bindBefore (fun lexeme => lexeme.kind = close)
    (nextLexeme_items closes) fun values others same => ?_
  have alike : others.isEmpty = values.isEmpty := by
    have empty := congrArg List.isEmpty same
    rwa [List.isEmpty_map, List.isEmpty_map] at empty
  rw [alike]
  refine .peek fun _ _ _ isClose => .ite (fun _ => .failAt) fun _ => ?_
  apply ((next_replays_of_kind closes).last fun _ _ _ => same).weaken
  rintro _ rfl
  exact isClose

end

variable (opens : opening.isPlain = true) (closes : close.isPlain = true)

include opens closes

theorem group_replays :
    Replays styled anyLexeme false (group opening close item) (group opening close itemAgain)
      (List.map image) := by
  refine (skip_replays opens).bindSame fun opened => ?_
  exact .ite (fun _ => (groupBody_replays replays closes).opens) fun _ => .pure rfl

theorem groupOfSome_replays :
    Replays styled anyLexeme false (groupOfSome opening close item)
      (groupOfSome opening close itemAgain) (List.map image) := by
  refine (skip_replays opens).bindSame fun opened => ?_
  exact .ite (fun _ => (groupOfSomeBody_replays replays closes).opens) fun _ => .pure rfl

/-- A group that is there is read up to its closing token. -/
theorem groupOfSome_replays_closed :
    Replays styled (fun lexeme => lexeme.kind = opening) true (groupOfSome opening close item)
      (groupOfSome opening close itemAgain) (List.map image) := by
  have body := (next_replays_of_kind opens).bind fun _ _ _ =>
    groupOfSomeBody_replays replays closes
  exact body.congr (fun _ isOpening => skip_bind_apply opens isOpening)
    fun _ isOpening => skip_bind_apply opens isOpening

end Groups

end Parser

end QueryTree
