import QueryTree.Proofs.Document.Reads
import QueryTree.Proofs.Document.Replays
import QueryTree.Proofs.Language.Gives

/-!
# One definition after another

Reading a document is reading a definition of any kind, again and again up to the end of
the input.  A definition is placed at its first token and is read again wherever its
lexemes stand.
-/

namespace QueryTree

/-- Put a definition in front of the others. -/
def Document.push (first : Definition) (others : Document) : Document :=
  if first.kind.isOperation then { others with operations := first :: others.operations }
  else { others with fragments := first :: others.fragments }

theorem Document.ofDefinitions_cons (first : Definition) (others : List Definition) :
    ofDefinitions (first :: others) = (ofDefinitions others).push first := by
  unfold ofDefinitions push
  cases isOperation : first.kind.isOperation with
  | true | false => simp [isOperation]

namespace Grammar

open QueryTree.Parser

/-- A definition of the kind that its first token tells. -/
def definitionFrom (token : Token) (depth : Nat) : Parser Definition :=
  match token.kind with
  | .braceLeft => bareQuery depth
  | .name =>
    match operationKind? token.text with
    | some kind => operation kind depth
    | none => if token.text = "fragment" then fragment depth else refuse token
  | _ => refuse token

/-- A definition of any kind. -/
def definition (depth : Nat) : Parser Definition := do
  definitionFrom (← peek) depth

theorem peek_bind_apply {α : Type} (inspect : Token → Parser α) (tokens : List Token) :
    (peek >>= inspect) tokens = inspect (tokens.headD .missing) tokens := rfl

variable {depth more : Nat}

theorem definition_replays (styled : Bool) (less : depth ≤ more) :
    Replays styled anyLexeme true (definition depth) (definition more)
      (Definition.seen styled) := by
  refine .peek fun token other same _ => ?_
  unfold definitionFrom
  rcases Token.kind_eq_or_of_seen same with sameKind | ⟨rfl, isString, _⟩
  · rw [sameKind, Token.text_eq_of_seen same]
    cases isKind : token.kind with
    | braceLeft => exact (bareQuery_replays less).any
    | name =>
      dsimp only
      split
      next kind _ =>
        refine (operation_replays kind less).weaken ?_
        rintro _ rfl
        exact (Token.kind_seen rfl).mpr isKind
      next => exact .ite (fun _ => (fragment_replays less).any) fun _ => .failAt
    | _ => exact .failAt
  · rcases isString with isKind | isKind <;> rw [isKind] <;> exact .failAt

/-- Whether a definition of a kind begins at a position. -/
def Begins (kind : DefinitionKind) (position : Position) (found : Definition) : Prop :=
  found.kind = kind ∧ found.position = position

variable {found : Definition} {kind : DefinitionKind} {rest tokens : List Token} {bound : Nat}

theorem operation_begins (read : operation kind depth tokens = .ok (found, rest)) :
    Begins kind (tokens.headD .missing).position found := by
  obtain ⟨keyword, between, isKeyword, read⟩ := bind_eq_ok.mp read
  obtain ⟨rfl, _⟩ := next_eq_ok isKeyword
  refine Gives.after (fun _ => .ite (.after fun name => ?_) (.after fun name => ?_)) _ _ _ read
  all_goals exact .after fun _ => .after fun _ => .after fun _ => .pure ⟨rfl, rfl⟩

theorem bareQuery_begins (read : bareQuery depth tokens = .ok (found, rest)) :
    Begins .query (tokens.headD .missing).position found := by
  obtain ⟨position, between, isPosition, read⟩ := bind_eq_ok.mp read
  cases isPosition
  exact Gives.after (fun _ => .pure ⟨rfl, rfl⟩) _ _ _ read

theorem fragment_begins (read : fragment depth tokens = .ok (found, rest)) :
    Begins .fragment (tokens.headD .missing).position found := by
  obtain ⟨keyword, between, isKeyword, read⟩ := bind_eq_ok.mp read
  have isHead : keyword = tokens.headD .missing := by
    change (if _ then next else Parser.failAt _ _ : Parser Token) tokens = _ at isKeyword
    split at isKeyword
    next => exact (next_eq_ok isKeyword).1
    next => cases isKeyword
  subst isHead
  refine Gives.after (fun _ => .ite .failAt (.after fun _ => ?_)) _ _ _ read
  exact .after fun _ => .after fun _ => .after fun _ => .after fun _ => .after fun _ =>
    .pure ⟨rfl, rfl⟩

/-- A definition begins with the next token, which is a name or a brace. -/
theorem definition_begins (read : definition depth tokens = .ok (found, rest)) :
    found.position = (tokens.headD .missing).position ∧
      (nextKind tokens = .name ∨ nextKind tokens = .braceLeft) := by
  unfold nextKind
  change definitionFrom (tokens.headD .missing) depth tokens = _ at read
  generalize isToken : tokens.headD .missing = token at read ⊢
  obtain ⟨kind, text, position, comment⟩ := token
  cases kind with
  | braceLeft =>
    rw [(bareQuery_begins read).2, isToken]
    exact ⟨rfl, .inr rfl⟩
  | name =>
    refine ⟨?_, .inl rfl⟩
    dsimp only [definitionFrom] at read
    cases isOperation : operationKind? text with
    | some kind =>
      rw [isOperation] at read
      rw [(operation_begins read).2, isToken]
    | none =>
      rw [isOperation] at read
      dsimp only at read
      split at read
      next => rw [(fragment_begins read).2, isToken]
      next => cases read
  | _ => cases read

/-- Reading something and putting it in front of what is read after it. -/
theorem bind_push_eq_ok {first : Parser Definition} {second : Parser Document}
    {put : Definition → Document → Document} {document : Document}
    (isPush : ∀ found between, first tokens = .ok (found, between) →
      ∀ others, put found others = others.push found) :
    (do
      let found ← first
      let others ← second
      return put found others) tokens = .ok (document, rest) ↔
    ∃ found between others, first tokens = .ok (found, between) ∧
      second between = .ok (others, rest) ∧ document = others.push found := by
  constructor
  · intro read
    obtain ⟨found, between, isFound, read⟩ := bind_eq_ok.mp read
    obtain ⟨others, left, areOthers, read⟩ := bind_eq_ok.mp read
    cases read
    exact ⟨found, between, others, isFound, areOthers, isPush found between isFound others⟩
  · rintro ⟨found, between, others, isFound, areOthers, rfl⟩
    rw [← isPush found between isFound others]
    exact bind_bind_pure put isFound areOthers

theorem push_of_begins {position : Position} (begins : Begins kind position found)
    (isOperation : kind.isOperation = true) (others : Document) :
    { others with operations := found :: others.operations } = others.push found := by
  rw [Document.push, if_pos (begins.1 ▸ isOperation)]

/-- Before the end of the input, a definition is read and then the others. -/
theorem definitionsUpTo_eq_ok {document : Document} (notEnd : nextKind tokens ≠ .endOfInput) :
    definitionsUpTo depth (bound + 1) tokens = .ok (document, rest) ↔
      ∃ first between others, definition depth tokens = .ok (first, between) ∧
        definitionsUpTo depth bound between = .ok (others, rest) ∧
          document = others.push first := by
  have refused {token : Token} : (refuse token : Parser Document) tokens = .ok (document, rest) ↔
      ∃ first between others, (refuse token : Parser Definition) tokens = .ok (first, between) ∧
        definitionsUpTo depth bound between = .ok (others, rest) ∧
          document = others.push first := by
    constructor
    · intro read
      cases read
    · rintro ⟨_, _, _, read, _⟩
      cases read
  rw [definitionsUpTo, definition, peek_bind_apply, peek_bind_apply, definitionFrom]
  cases isKind : (tokens.headD .missing).kind with
  | endOfInput => exact absurd isKind notEnd
  | braceLeft =>
    exact bind_push_eq_ok fun found between read => push_of_begins (bareQuery_begins read) rfl
  | name =>
    dsimp only
    cases isOperation : operationKind? (tokens.headD .missing).text with
    | some kind =>
      exact bind_push_eq_ok fun found between read =>
        push_of_begins (operation_begins read) (isOperation_of_operationKind? isOperation)
    | none =>
      dsimp only
      split
      next =>
        refine bind_push_eq_ok fun found between read others => ?_
        rw [Document.push, (fragment_begins read).1]
        rfl
      next => exact refused
  | _ => exact refused

theorem definitionsUpTo_end (isEnd : nextKind tokens = .endOfInput) :
    definitionsUpTo depth (bound + 1) tokens = .ok (⟨[], []⟩, tokens) := by
  rw [definitionsUpTo, peek_bind_apply, show (tokens.headD .missing).kind = .endOfInput from isEnd]
  rfl

end Grammar

end QueryTree
