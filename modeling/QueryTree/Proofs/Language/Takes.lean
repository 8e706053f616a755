import QueryTree.Proofs.Language.WellFormed

/-!
# Parsers that take the next token

A parser that looks at the next token knows what it reads next.  Such a parser
yields a property from a given token, and it takes the token if it goes on with the
tokens after it.
-/

namespace QueryTree.Parser

variable {α β : Type} {token : Token} {good : α → Prop} {fine : β → Prop}

/-- Everything that a parser reads from well spelled tokens with a given first one
has a property, and what it takes is valid. -/
def YieldsFrom (token : Token) (parser : Parser α) (good : α → Prop) : Prop :=
  ∀ tokens : List Token, (∀ token ∈ tokens, token.isSpelled = true) →
    tokens.headD .missing = token →
      ∀ value rest, parser tokens = .ok (value, rest) → good value ∧ Leaves tokens rest

/-- A parser that yields a property takes the given first token. -/
def Takes (token : Token) (parser : Parser α) (good : α → Prop) : Prop :=
  ∀ tokens : List Token, (∀ token ∈ tokens, token.isSpelled = true) →
    tokens.headD .missing = token → ∀ value rest, parser tokens = .ok (value, rest) →
      good value ∧ (∀ fault, token.kind ≠ .invalid fault) ∧ Leaves tokens.tail rest

theorem Leaves.ofTail {tokens rest : List Token}
    (valid : ∀ fault, (tokens.headD .missing).kind ≠ .invalid fault)
    (leaves : Leaves tokens.tail rest) : Leaves tokens rest := by
  cases tokens with
  | nil => exact leaves
  | cons first others =>
    obtain ⟨taken, same, allValid⟩ := leaves
    exact ⟨first :: taken, congrArg (first :: ·) same, List.forall_mem_cons.mpr ⟨valid, allValid⟩⟩

namespace YieldsFrom

theorem ofYields {parser : Parser α} (yields : Yields parser good) :
    YieldsFrom token parser good :=
  fun tokens spelled _ => yields tokens spelled

theorem ofTakes {parser : Parser α} (takes : Takes token parser good) :
    YieldsFrom token parser good := by
  intro tokens spelled isFirst value rest read
  obtain ⟨holds, valid, leaves⟩ := takes tokens spelled isFirst value rest read
  exact ⟨holds, leaves.ofTail (isFirst ▸ valid)⟩

theorem ite {condition : Prop} [Decidable condition] {yes no : Parser α}
    (whenTrue : condition → YieldsFrom token yes good)
    (whenFalse : ¬condition → YieldsFrom token no good) :
    YieldsFrom token (if condition then yes else no) good := by
  by_cases holds : condition
  · rw [if_pos holds]
    exact whenTrue holds
  · rw [if_neg holds]
    exact whenFalse holds

end YieldsFrom

/-- Looking at the next token, which stays in place. -/
theorem Yields.peek {second : Token → Parser α}
    (after : ∀ token, token.isSpelled = true → YieldsFrom token (second token) good) :
    Yields (Parser.peek >>= second) good :=
  fun tokens spelled => after _ (isSpelled_headD spelled) tokens spelled rfl

theorem Yields.ofTakes {parser : Parser α} (takes : ∀ token, Takes token parser good) :
    Yields parser good :=
  fun tokens spelled => YieldsFrom.ofTakes (takes _) tokens spelled rfl

namespace Takes

theorem bind {first : Parser α} {second : α → Parser β} (before : Takes token first good)
    (after : ∀ value, good value → Yields (second value) fine) :
    Takes token (first >>= second) fine := by
  intro tokens spelled isFirst found rest read
  obtain ⟨⟨value, between⟩, isValue, isSecond⟩ := exists_of_bind_eq_ok read
  obtain ⟨holds, valid, left⟩ := before tokens spelled isFirst value between isValue
  obtain ⟨holdsNext, leftNext⟩ := after value holds between
    (fun token member => spelled token (List.mem_of_mem_tail (left.subset member))) found rest
    isSecond
  exact ⟨holdsNext, valid, left.trans leftNext⟩

theorem weaken {parser : Parser α} {other : α → Prop} (takes : Takes token parser good)
    (weaker : ∀ value, good value → other value) : Takes token parser other := by
  intro tokens spelled isFirst value rest read
  obtain ⟨holds, valid, leaves⟩ := takes tokens spelled isFirst value rest read
  exact ⟨weaker value holds, valid, leaves⟩

theorem peek {second : Token → Parser α} (after : Takes token (second token) good) :
    Takes token (Parser.peek >>= second) good := by
  intro tokens spelled isFirst
  subst isFirst
  exact after tokens spelled rfl

theorem position {second : Position → Parser α}
    (after : ∀ place, Takes token (second place) good) :
    Takes token (Parser.position >>= second) good :=
  fun tokens spelled isFirst => after _ tokens spelled isFirst

theorem pos {condition : Prop} [Decidable condition] {yes no : Parser α} (holds : condition)
    (takes : Takes token yes good) : Takes token (if condition then yes else no) good := by
  rw [if_pos holds]
  exact takes

theorem ite {condition : Prop} [Decidable condition] {yes no : Parser α}
    (whenTrue : condition → Takes token yes good) (whenFalse : ¬condition → Takes token no good) :
    Takes token (if condition then yes else no) good := by
  by_cases holds : condition
  · exact pos holds (whenTrue holds)
  · rw [if_neg holds]
    exact whenFalse holds

theorem failAt (other : Token) (fault : SyntaxFault) :
    Takes token (Parser.failAt other fault) good := by
  intro tokens spelled _ value rest read
  cases read

end Takes

theorem next_takes : Takes token next fun found => found = token ∧ found.isSpelled = true := by
  intro tokens spelled isFirst found rest read
  obtain ⟨rfl, rfl, valid⟩ := next_eq_ok read
  exact ⟨⟨isFirst, isSpelled_headD spelled⟩, isFirst ▸ valid, .refl _⟩

theorem expectWord_takes (word : String) :
    Takes token (expectWord word) fun found => found = token ∧ found.isSpelled = true :=
  .peek (.ite (fun _ => next_takes) fun _ => .failAt _ _)

theorem name_takes : Takes token name fun name => name = token.text ∧ IsName name := by
  refine .bind (.peek (.ite (fun isName => next_takes.weaken fun found holds => ?_)
    fun _ => .failAt _ _)) fun found holds => .pure holds
  obtain ⟨rfl, spelled⟩ := holds
  exact ⟨rfl, Token.isName_text isName spelled⟩

theorem skip_takes {kind : TokenKind} (isKind : token.kind = kind) :
    Takes token (skip kind) (· = true) :=
  .peek (.pos isKind (next_takes.bind fun _ _ => .pure rfl))

/-- A group that begins holds something. -/
theorem groupOfSome_takes {item : Parser α} (reads : Yields item good) {opening : TokenKind}
    (close : TokenKind) (opens : token.kind = opening) :
    Takes token (groupOfSome opening close item) fun items =>
      items ≠ [] ∧ ∀ value ∈ items, good value := by
  refine (skip_takes opens).bind fun opened isOpen => .ite (fun _ => ?_) fun isClosed =>
    absurd isOpen isClosed
  refine .bind (items_yields reads close) fun items every => .bind peek_yields fun last _ =>
    .ite (fun _ => .failAt _ _) fun some => .bind next_yields fun _ _ => .pure ⟨?_, every⟩
  rintro rfl
  exact some rfl

end QueryTree.Parser
