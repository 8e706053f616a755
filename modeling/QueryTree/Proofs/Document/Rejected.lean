import QueryTree.Proofs.Diagnostic.Success
import QueryTree.Proofs.Document.Readable
import QueryTree.Proofs.Document.StringValue

/-!
# Text that breaks off is rejected

Tokens that break off at invalid text cannot be read as a document: what a
definition takes is valid, so that the invalid token stays in front of the reader
until it is met.  The canonical text of a definition with a foreign escape breaks
off in this way.
-/

namespace QueryTree

/-! ## Broken tokens -/

namespace Token

variable {tokens : List Token}

theorem Broken.leaves {rest : List Token} (broken : Broken tokens)
    (leaves : Parser.Leaves tokens rest) : Broken rest := by
  obtain ⟨⟨token, member, fault, invalid⟩, openEnded⟩ := broken
  obtain ⟨taken, rfl, valid⟩ := leaves
  refine ⟨⟨token, ?_, fault, invalid⟩, fun other isOther =>
    openEnded other (List.mem_append_right _ isOther)⟩
  exact (List.mem_append.mp member).resolve_left fun isTaken => valid token isTaken fault invalid

/-- Leaving out comments neither adds kinds of tokens nor loses others. -/
theorem exists_withoutComments_iff (kind : TokenKind) (notComment : kind ≠ .comment)
    (tokens : List Token) (pending : Option (String × Position)) :
    (∃ token ∈ withoutComments pending tokens, token.kind = kind) ↔
      ∃ token ∈ tokens, token.kind = kind := by
  induction tokens generalizing pending with
  | nil => simp [withoutComments]
  | cons first tokens ih =>
    by_cases isComment : first.kind = .comment
    · simp [withoutComments, isComment, ih, notComment.symm]
    · simp [withoutComments, isComment, ih]

theorem Broken.withoutComments (broken : Broken tokens) (pending : Option (String × Position)) :
    Broken (withoutComments pending tokens) := by
  obtain ⟨⟨token, member, fault, invalid⟩, openEnded⟩ := broken
  constructor
  · obtain ⟨other, isOther, same⟩ :=
      (exists_withoutComments_iff (.invalid fault) (by simp) tokens pending).mpr
        ⟨token, member, invalid⟩
    exact ⟨other, isOther, fault, same⟩
  · intro other isOther isEnd
    obtain ⟨ending, isEnding, same⟩ :=
      (exists_withoutComments_iff .endOfInput (by simp) tokens pending).mp ⟨other, isOther, isEnd⟩
    exact openEnded ending isEnding same

end Token

namespace Grammar

open QueryTree.Parser

/-- Whether a parser takes a token and later ends with another parser. -/
def EndsWith {β γ : Type} (second : Parser β) (token : Token) (parser : Parser γ) : Prop :=
  ∀ tokens rest value, (∀ other ∈ token :: tokens, other.isSpelled = true) →
    parser (token :: tokens) = .ok (value, rest) →
      ∃ between other, Leaves (token :: tokens) between ∧ between.length ≤ tokens.length ∧
        second between = .ok (other, rest)

variable {token : Token} {β γ : Type} {second : Parser β}

/-- What is read after something that takes the first token. -/
theorem endsWith_of_takes {α : Type} {first : Parser α} {good : α → Prop}
    (takes : Takes token first good) {join : α → β → γ} :
    EndsWith second token (do
      let found ← first
      let other ← second
      return join found other) := by
  intro tokens rest value spelled read
  have read : (first (token :: tokens) >>= fun found => second found.2 >>= fun result =>
    Except.ok (join found.1 result.1, result.2)) = .ok (value, rest) := read
  obtain ⟨found, taken, read⟩ := exists_of_bind_eq_ok read
  obtain ⟨result, after, read⟩ := exists_of_bind_eq_ok read
  cases read
  obtain ⟨_, valid, leaves⟩ := takes _ spelled rfl found.1 found.2 taken
  have shorter : found.2.length ≤ tokens.length := by
    obtain ⟨front, same, _⟩ := leaves
    have sizes := congrArg List.length same
    rw [List.tail_cons, List.length_append] at sizes
    omega
  exact ⟨found.2, result.1, leaves.ofTail valid, shorter, after⟩

theorem endsWith_peek {inspect : Token → Parser γ} (after : EndsWith second token (inspect token)) :
    EndsWith second token (peek >>= inspect) :=
  after

theorem endsWith_failAt (other : Token) (fault : SyntaxFault) :
    EndsWith second token (failAt other fault : Parser γ) :=
  fun _ _ _ _ read => nomatch read

/-- Every definition takes a token, and after it the other definitions are read. -/
theorem definitionsUpTo_endsWith (depth bound : Nat) (notEnd : token.kind ≠ .endOfInput) :
    EndsWith (definitionsUpTo depth bound) token (definitionsUpTo depth (bound + 1)) := by
  refine endsWith_peek ?_
  split
  next isEnd => exact absurd isEnd notEnd
  next => exact endsWith_of_takes (bareQuery_takes depth token)
  next =>
    split
    next kind found =>
      exact endsWith_of_takes (operation_takes (isOperation_of_operationKind? found) depth token)
    next =>
      split
      next => exact endsWith_of_takes (fragment_takes depth token)
      next => exact endsWith_failAt _ _
  next => exact endsWith_failAt _ _

theorem definitionsUpTo_broken {depth bound : Nat} {tokens : List Token}
    (broken : Token.Broken tokens) (spelled : ∀ token ∈ tokens, token.isSpelled = true)
    (enough : tokens.length ≤ bound) (result : Document × List Token) :
    definitionsUpTo depth bound tokens ≠ .ok result := by
  induction bound generalizing tokens result with
  | zero =>
    obtain ⟨⟨token, member, _⟩, _⟩ := broken
    rw [List.length_eq_zero_iff.mp (Nat.le_zero.mp enough)] at member
    cases member
  | succ bound ih =>
    intro read
    cases tokens with
    | nil =>
      obtain ⟨⟨token, member, _⟩, _⟩ := broken
      cases member
    | cons token tokens =>
      -- Definitions take valid tokens only, so what the first one leaves is broken, too.
      obtain ⟨between, others, leaves, shorter, after⟩ :=
        definitionsUpTo_endsWith depth bound (broken.2 token List.mem_cons_self) tokens
          result.2 result.1 spelled read
      exact ih (broken.leaves leaves)
        (fun other member => spelled other (leaves.subset member))
        (Nat.le_trans shorter (Nat.le_of_succ_le_succ enough)) _ after

end Grammar

namespace Definition

/-- The canonical text of a definition with a foreign escape breaks off. -/
theorem broken_lex_canonical {definition : Definition} (formed : definition.WellFormed)
    (foreign : definition.isForeign = true) (source : String) :
    Token.Broken (lex source definition.canonical) := by
  have lexes := definition.lexes_canonical formed
  rw [definition.isForeign_eq_any, List.any_eq_true] at foreign
  have broken := (lexes [] (Lexer.ends_anything _)).broken foreign source .start
    (definition.canonical.toList.length + 1 - definition.lexemes.length)
  have enough := lexes.length_le
  rw [List.append_nil, Nat.sub_add_cancel (by omega)] at broken
  exact broken

theorem parseAll_eq_error_of_broken {source text : String}
    (broken : Token.Broken (lex source text)) :
    ∃ diagnostic, Definition.parseAll source text = .error diagnostic := by
  cases read : Definition.parseAll source text with
  | error diagnostic => exact ⟨diagnostic, rfl⟩
  | ok definitions =>
    obtain ⟨document, rest, found, _⟩ := exists_of_parseAll read
    rw [Grammar.document_apply] at found
    exact absurd found (Grammar.definitionsUpTo_broken (broken.withoutComments none)
      (isSpelled_lex source text) (Nat.le_refl _) _)

end Definition

end QueryTree
