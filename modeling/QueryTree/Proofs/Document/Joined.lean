import QueryTree.Proofs.Document.Order
import QueryTree.Proofs.Document.Sequence
import QueryTree.Proofs.Language.Joined

/-!
# Definitions of joined texts

A definition that was read from a text of its own is read again from joined texts, up to
positions.  Its first token stands before those of the later texts, so that operations and
fragments come back in the order of the texts.
-/

namespace QueryTree

/-! ## Tokens without comments -/

namespace Token

variable (pending : Option (String × Position))

/-- Comments are left out part by part. -/
theorem exists_withoutComments_append (tokens : List Token) :
    ∃ later, ∀ others, withoutComments pending (tokens ++ others) =
      withoutComments pending tokens ++ withoutComments later others := by
  induction tokens generalizing pending with
  | nil => exact ⟨pending, fun _ => rfl⟩
  | cons token tokens ih =>
    by_cases isComment : token.kind = .comment
    · obtain ⟨later, same⟩ := ih (some (token.text, token.position))
      exact ⟨later, fun others => by simp [withoutComments, isComment, same]⟩
    · obtain ⟨later, same⟩ := ih none
      exact ⟨later, fun others => by simp [withoutComments, isComment, same]⟩

theorem map_lexeme_withoutComments (tokens : List Token) :
    (withoutComments pending tokens).map lexeme =
      (tokens.map lexeme).filter fun lexeme => lexeme.kind != .comment := by
  induction tokens generalizing pending with
  | nil => rfl
  | cons token tokens ih =>
    by_cases isComment : token.kind = .comment
    · simp [withoutComments, isComment, ih, lexeme]
    · simp [withoutComments, isComment, ih, lexeme]

/-- A token that is no comment keeps its kind and its position. -/
theorem exists_of_mem_withoutComments {pending : Option (String × Position)} {tokens : List Token}
    {token : Token} (member : token ∈ withoutComments pending tokens) :
    ∃ other ∈ tokens, other.kind = token.kind ∧ other.position = token.position := by
  induction tokens generalizing pending with
  | nil => cases member
  | cons first tokens ih =>
    rw [withoutComments] at member
    split at member
    · obtain ⟨other, isOther, same⟩ := ih member
      exact ⟨other, List.mem_cons_of_mem _ isOther, same⟩
    · rcases List.mem_cons.mp member with rfl | member
      · exact ⟨first, List.mem_cons_self, rfl, rfl⟩
      · obtain ⟨other, isOther, same⟩ := ih member
        exact ⟨other, List.mem_cons_of_mem _ isOther, same⟩

/-- Whether tokens are those of a group without its comments. -/
def IsPlain (group plain : List Token) : Prop := ∃ pending, plain = withoutComments pending group

/-- Comments are left out group by group. -/
theorem exists_withoutComments_flatten (groups : List (List Token)) :
    ∃ plain later, List.Forall₂ IsPlain groups plain ∧
        ∀ others, withoutComments pending (groups.flatten ++ others) =
          plain.flatten ++ withoutComments later others := by
  induction groups generalizing pending with
  | nil => exact ⟨[], pending, .nil, fun _ => rfl⟩
  | cons group groups ih =>
    obtain ⟨between, isFirst⟩ := exists_withoutComments_append pending group
    obtain ⟨plain, later, each, areOthers⟩ := ih between
    refine ⟨withoutComments pending group :: plain, later, .cons ⟨pending, rfl⟩ each, ?_⟩
    intro others
    rw [List.flatten_cons, List.append_assoc, isFirst, areOthers, List.flatten_cons,
      List.append_assoc]

end Token

/-! ## The definition of a text -/

namespace Document

theorem push_ne_empty (first : Definition) (others : Document) : others.push first ≠ ⟨[], []⟩ := by
  unfold push
  split
  · simp
  · simp

/-- A document with a single definition has nothing beside it. -/
theorem push_of_definitions_eq {first definition : Definition} {others : Document}
    (single : (others.push first).definitions = [definition]) :
    first = definition ∧ others = ⟨[], []⟩ := by
  have same : (others.push first).operations ++ (others.push first).fragments = [definition] := by
    apply List.perm_singleton.mp
    rw [← single]
    exact (List.mergeSort_perm _ _).symm
  obtain ⟨operations, fragments⟩ := others
  unfold push at same
  split at same
  · simpa using same
  · cases operations with
    | nil => simpa using same
    | cons operation operations => simp at same

end Document

namespace Grammar

open QueryTree.Parser

/-- Whether lexemes are those of a definition. -/
def Spells (lexemes : List Lexeme) (found : Definition) : Prop :=
  ∃ front last, front.map Token.lexeme = lexemes ∧
    definition (front.length + 1) (front ++ [last]) = .ok (found, [last])

variable {depth : Nat} {found : Definition} {front : List Token} {kind : TokenKind} {last : Token}

/-- A definition leaves the final token, which is not solid. -/
theorem definition_leaves {between : List Token} (isLast : last.lexeme = .mark kind)
    (final : Lexer.isFinal kind = true)
    (read : definition depth (front ++ [last]) = .ok (found, between)) :
    ∃ taken rest, taken ≠ [] ∧ front = taken ++ rest ∧ between = rest ++ [last] := by
  obtain ⟨taken, cut, solid, some⟩ :=
    (definition_replays true (Nat.le_refl depth)).leaves trivial read
  rcases List.append_eq_append_iff.mp cut with ⟨added, isTaken, ends⟩ | ⟨rest, isFront, isBetween⟩
  · cases added with
    | nil =>
      rw [List.append_nil] at isTaken
      exact ⟨taken, [], some rfl, by rw [isTaken, List.append_nil], ends.symm⟩
    | cons token added =>
      have isToken : last = token := (List.cons.inj ends).1
      have hasText := solid token (by rw [isTaken]; simp)
      rw [← isToken, isLast, Lexeme.isSolid, Lexeme.mark, final] at hasText
      simp at hasText
  · exact ⟨taken, rest, some rfl, isFront, isBetween⟩

/-- If tokens are read as a single definition, it takes all of them but the end. -/
theorem definition_of_single {rest : List Token} {document : Document} {bound : Nat}
    (notFinal : ∀ token ∈ front, Lexer.isFinal token.kind = false)
    (isLast : last.lexeme = .mark kind) (final : Lexer.isFinal kind = true)
    (enough : front.length < bound)
    (read : definitionsUpTo depth bound (front ++ [last]) = .ok (document, rest))
    (single : document.definitions = [found]) :
    kind = .endOfInput ∧ definition depth (front ++ [last]) = .ok (found, [last]) := by
  cases bound with
  | zero => cases enough
  | succ bound =>
    have notEnd : nextKind (front ++ [last]) ≠ .endOfInput := by
      intro isEnd
      rw [definitionsUpTo_end isEnd] at read
      cases read
      simp [Document.definitions] at single
    obtain ⟨first, between, others, isFirst, areOthers, rfl⟩ :=
      (definitionsUpTo_eq_ok notEnd).mp read
    obtain ⟨rfl, rfl⟩ := Document.push_of_definitions_eq single
    obtain ⟨taken, more, some, rfl, rfl⟩ := definition_leaves isLast final isFirst
    have length := List.length_pos_iff.mpr some
    rw [List.length_append] at enough
    cases bound with
    | zero => omega
    | succ bound =>
      -- Nothing is read after the definition, so it is followed by the end of the input.
      have isEnd : nextKind (more ++ [last]) = .endOfInput := by
        by_contra notEnd
        obtain ⟨_, _, _, _, _, same⟩ := (definitionsUpTo_eq_ok notEnd).mp areOthers
        exact Document.push_ne_empty _ _ same.symm
      cases more with
      | nil =>
        have sameKind : last.kind = kind := congrArg Lexeme.kind isLast
        exact ⟨sameKind.symm.trans isEnd, isFirst⟩
      | cons token more =>
        have real := notFinal token (by simp)
        rw [show token.kind = .endOfInput from isEnd] at real
        cases real

end Grammar

variable {text : String} {groups plain : List (List Token)} {definitions : List Definition}
variable {texts : List String}

theorem Definition.parseAll_of_parse {definition : Definition}
    (read : Definition.parse text = .ok definition) :
    Definition.parseAll "" text = .ok [definition] := by
  unfold Definition.parse at read
  cases parsed : Definition.parseAll "" text with
  | error found =>
    rw [parsed] at read
    cases read
  | ok definitions =>
    rw [parsed] at read
    match definitions with
    | [single] =>
      cases read
      rfl
    | [] => cases read
    | _ :: _ :: _ => cases read

/-- The lexemes of a text with one definition are those of the definition, comments aside. -/
theorem Definition.exists_lexemes_of_parse {definition : Definition}
    (read : Definition.parse text = .ok definition) :
    ∃ lexemes, HasLexemes text lexemes ∧
      Grammar.Spells (lexemes.filter fun lexeme => lexeme.kind != .comment) definition := by
  obtain ⟨document, rest, found, single⟩ := exists_of_parseAll (parseAll_of_parse read)
  obtain ⟨tokens, last, kind, isLex, isLast, final, notFinal⟩ :=
    @Lexer.tokens_eq_append "" .start text.toList _ (Nat.lt_succ_self _)
  have isLex : lex "" text = tokens ++ [last] := isLex
  have sameKind : last.kind = kind := congrArg Lexeme.kind isLast
  obtain ⟨later, same⟩ := Token.exists_withoutComments_append none tokens
  have plainLast : Token.withoutComments later [last] = [{ last with comment := later }] := by
    rw [Token.withoutComments, if_neg]
    · rfl
    · rw [sameKind]
      rintro rfl
      cases final
  rw [isLex, same, plainLast, Grammar.document_apply] at found
  have stillNotFinal : ∀ token ∈ Token.withoutComments none tokens,
      Lexer.isFinal token.kind = false := by
    intro token member
    obtain ⟨other, isOther, sameKind, _⟩ := Token.exists_of_mem_withoutComments member
    rw [← sameKind]
    exact notFinal other isOther
  have size : (Token.withoutComments none tokens).length <
      (Token.withoutComments none tokens ++ [{ last with comment := later }]).length := by
    rw [List.length_append]
    exact Nat.lt_succ_self _
  have stillLast : ({ last with comment := later } : Token).lexeme = .mark kind := isLast
  obtain ⟨rfl, isDefinition⟩ :=
    Grammar.definition_of_single stillNotFinal stillLast final size found single.symm
  rw [List.length_append, List.length_singleton] at isDefinition
  refine ⟨tokens.map Token.lexeme, ?_, _, _,
    Token.map_lexeme_withoutComments none tokens, isDefinition⟩
  rw [HasLexemes, isLex, List.map_append, List.map_singleton, isLast]

/-! ## The definitions of joined texts -/

namespace Grammar

open QueryTree.Parser

variable {depth : Nat}
variable {expected : Definition} {definitions : List Definition} {groups : List (List Token)}

theorem Spells.ne_nil {lexemes : List Lexeme} (spells : Spells lexemes expected) :
    lexemes ≠ [] := by
  rintro rfl
  obtain ⟨front, last, noLexemes, read⟩ := spells
  obtain ⟨taken, cut, _, some⟩ := (definition_replays true (Nat.le_refl _)).leaves trivial read
  rw [← List.append_cancel_right cut] at some
  exact some rfl (List.map_eq_nil_iff.mp noLexemes)

/-- Every definition is spelled by at least one token. -/
theorem length_le_of_spells
    (spelled : List.Forall₂ (fun group definition => Spells (group.map Token.lexeme) definition)
      groups definitions) : groups.length ≤ groups.flatten.length := by
  induction spelled with
  | nil => exact Nat.le_refl _
  | cons spells _ ih =>
    have some := List.length_pos_iff.mpr spells.ne_nil
    rw [List.length_map] at some
    rw [List.length_cons, List.flatten_cons, List.length_append]
    omega

/-- Lexemes of a definition are read as this definition, whatever follows. -/
theorem definition_of_spells {group : List Token}
    (spells : Spells (group.map Token.lexeme) expected) (deep : group.length < depth)
    {following : List Token} (some : following ≠ []) : ∃ found,
      found.unplaced = expected.unplaced ∧
        definition depth (group ++ following) = .ok (found, following) := by
  obtain ⟨front, last, sameLexemes, read⟩ := spells
  have sameLength : front.length = group.length := by
    simpa using congrArg List.length sameLexemes
  have less : front.length + 1 ≤ depth := by omega
  obtain ⟨found, isFound, same⟩ := (definition_replays true less).replay trivial read
    sameLexemes.symm nofun (List.length_pos_iff.mpr some)
  exact ⟨found, same, isFound⟩

/-- Groups of tokens with the lexemes of definitions are read as these definitions, each
at the first token of its group. -/
theorem definitionsUpTo_of_spells {bound : Nat}
    (spelled : List.Forall₂ (fun group definition => Spells (group.map Token.lexeme) definition)
      groups definitions) (deep : ∀ group ∈ groups, group.length < depth)
    (enough : groups.length < bound) {last : Token} (isEnd : last.kind = .endOfInput) :
    ∃ found, found.map Definition.unplaced = definitions.map Definition.unplaced ∧
      found.map Definition.position = groups.map (fun group => (group.headD .missing).position) ∧
      (∀ group ∈ groups, group.headD .missing ∈ group ∧ nextKind group ≠ .blockString) ∧
      definitionsUpTo depth bound (groups.flatten ++ [last]) =
        .ok (Document.ofDefinitions found, [last]) := by
  induction spelled generalizing bound with
  | nil =>
    cases bound with
    | zero => cases enough
    | succ bound => exact ⟨[], rfl, rfl, by simp, definitionsUpTo_end isEnd⟩
  | @cons group definition groups definitions spells _ ih =>
    cases bound with
    | zero => cases enough
    | succ bound =>
      obtain ⟨deepFirst, deepOthers⟩ := List.forall_mem_cons.mp deep
      obtain ⟨others, sames, places, starts, after⟩ := ih deepOthers (Nat.lt_of_succ_lt_succ enough)
      have notNil : groups.flatten ++ [last] ≠ [] := by simp
      obtain ⟨found, same, isFound⟩ := definition_of_spells spells deepFirst notNil
      obtain ⟨place, kind⟩ := definition_begins isFound
      cases group with
      | nil => exact absurd rfl spells.ne_nil
      | cons token group =>
        have kinds : token.kind = .name ∨ token.kind = .braceLeft := kind
        refine ⟨found :: others, ?_, ?_, ?_, ?_⟩
        · rw [List.map_cons, List.map_cons, same, sames]
        · rw [List.map_cons, List.map_cons, place, places]
          rfl
        · refine List.forall_mem_cons.mpr ⟨⟨List.mem_cons_self, fun isBlock => ?_⟩, starts⟩
          rw [show token.kind = .blockString from isBlock] at kinds
          simp at kinds
        · rw [Document.ofDefinitions_cons, List.flatten_cons, List.append_assoc]
          refine (definitionsUpTo_eq_ok fun isEnd => ?_).mpr ⟨found, _, _, isFound, after, rfl⟩
          rw [show token.kind = .endOfInput from isEnd] at kinds
          simp at kinds

end Grammar

/-- Every token of plain groups keeps its kind and its position. -/
theorem Token.exists_of_mem_plain (each : List.Forall₂ IsPlain groups plain) {later : List Token}
    (member : later ∈ plain) {token : Token} (isToken : token ∈ later) :
    ∃ group ∈ groups, ∃ other ∈ group,
      other.kind = token.kind ∧ other.position = token.position := by
  induction each with
  | nil => cases member
  | cons isFirst _ ih =>
    rcases List.mem_cons.mp member with rfl | member
    · obtain ⟨pending, rfl⟩ := isFirst
      exact ⟨_, List.mem_cons_self, exists_of_mem_withoutComments isToken⟩
    · obtain ⟨group, inGroups, found⟩ := ih member
      exact ⟨group, List.mem_cons_of_mem _ inGroups, found⟩

/-- Groups of tokens are in order without their comments. -/
theorem Ordered.withoutComments (ordered : Ordered groups)
    (each : List.Forall₂ Token.IsPlain groups plain) : Ordered plain := by
  induction each with
  | nil => exact .nil
  | cons isFirst each ih =>
    obtain ⟨before, others⟩ := List.pairwise_cons.mp ordered
    refine List.pairwise_cons.mpr ⟨fun later member token inFirst other inLater => ?_, ih others⟩
    obtain ⟨pending, rfl⟩ := isFirst
    obtain ⟨left, isLeft, leftKind, leftPlace⟩ := Token.exists_of_mem_withoutComments inFirst
    obtain ⟨group, inGroups, right, isRight, rightKind, rightPlace⟩ :=
      Token.exists_of_mem_plain each member inLater
    rw [← leftKind, ← rightKind, ← leftPlace, ← rightPlace]
    exact before group inGroups left isLeft right isRight

/-- Without their comments, groups spell what their lexemes do. -/
theorem Token.forall₂_spells (each : List.Forall₂ IsPlain groups plain)
    (spelled : List.Forall₂ (fun part definition =>
      Grammar.Spells (part.filter fun lexeme => lexeme.kind != .comment) definition)
      (groups.map (List.map Token.lexeme)) definitions) :
    List.Forall₂ (fun group definition => Grammar.Spells (group.map Token.lexeme) definition)
      plain definitions := by
  induction each generalizing definitions with
  | nil =>
    cases spelled
    exact .nil
  | cons isFirst _ ih =>
    obtain ⟨pending, rfl⟩ := isFirst
    cases spelled with
    | cons spells others =>
      refine .cons ?_ (ih others)
      rw [map_lexeme_withoutComments]
      exact spells

/-- What is read from ordered groups, each at its first token, is in order. -/
theorem Ordered.pairwise_precedes {found : List Definition} (ordered : Ordered groups)
    (starts : ∀ group ∈ groups, group.headD .missing ∈ group ∧ Parser.nextKind group ≠ .blockString)
    (places : found.map Definition.position =
      groups.map fun group => (group.headD .missing).position) :
    found.Pairwise fun left right => left.position.precedes right.position = true := by
  have heads : (groups.map fun group => (group.headD .missing).position).Pairwise
      fun left right => left.precedes right = true := by
    rw [List.pairwise_map]
    exact ordered.imp_of_mem fun isLeft isRight before =>
      before _ (starts _ isLeft).1 _ (starts _ isRight).1 (starts _ isLeft).2 (starts _ isRight).2
  rw [← places, List.pairwise_map] at heads
  exact heads

/-- Texts with one definition each have lexemes that spell their definitions. -/
theorem Definition.exists_lexemes_of_parse_each
    (accepted : List.Forall₂ (fun text definition => Definition.parse text = .ok definition) texts
      definitions) : ∃ lexemes, List.Forall₂ HasLexemes texts lexemes ∧
      List.Forall₂ (fun part definition =>
        Grammar.Spells (part.filter fun lexeme => lexeme.kind != .comment) definition)
        lexemes definitions := by
  induction accepted with
  | nil => exact ⟨[], .nil, .nil⟩
  | cons read _ ih =>
    obtain ⟨first, has, spells⟩ := exists_lexemes_of_parse read
    obtain ⟨lexemes, others, spelled⟩ := ih
    exact ⟨first :: lexemes, .cons has others, .cons spells spelled⟩

/-- A source whose tokens spell definitions, one after the other, has these definitions. -/
theorem Definition.parseAll_of_spells {source : String} {ending : Token}
    (tokens : Token.withoutComments none (lex source text) = groups.flatten ++ [ending])
    (isEnd : ending.kind = .endOfInput) (ordered : Ordered groups)
    (spelled : List.Forall₂ (fun group definition =>
      Grammar.Spells (group.map Token.lexeme) definition) groups definitions) :
    ∃ found, Definition.parseAll source text = .ok found ∧
      found.map Definition.unplaced = definitions.map Definition.unplaced := by
  have deep : ∀ group ∈ groups, group.length < (groups.flatten ++ [ending]).length := by
    intro group member
    have part := (List.sublist_flatten_of_mem member).length_le
    rw [List.length_append, List.length_singleton]
    omega
  have enough : groups.length < (groups.flatten ++ [ending]).length := by
    rw [List.length_append]
    exact Nat.lt_succ_of_le (Grammar.length_le_of_spells spelled)
  obtain ⟨found, sames, places, starts, read⟩ :=
    Grammar.definitionsUpTo_of_spells spelled deep enough isEnd
  rw [← Grammar.document_apply, ← tokens] at read
  have inOrder := ordered.pairwise_precedes starts places
  refine ⟨found, ?_, sames⟩
  rw [Definition.parseAll_eq_ok read, Document.definitions_ofDefinitions_of_precedes inOrder]

/-- Texts with one definition each are joined to a text with their definitions, in the
order of the texts. -/
theorem Joined.parseAll (joined : Joined texts text)
    (accepted : List.Forall₂ (fun text definition => Definition.parse text = .ok definition) texts
      definitions) (source : String) :
    ∃ found, Definition.parseAll source text = .ok found ∧
      found.map Definition.unplaced = definitions.map Definition.unplaced := by
  obtain ⟨lexemes, areLexemes, spelled⟩ := Definition.exists_lexemes_of_parse_each accepted
  obtain ⟨groups, last, rfl, grouped⟩ := joined.grouped areLexemes source .start
  obtain ⟨plain, later, each, same⟩ := Token.exists_withoutComments_flatten none groups
  have isEnd : last.kind = .endOfInput := congrArg Lexeme.kind grouped.isEnd
  have tokens : Token.withoutComments none (lex source text) =
      plain.flatten ++ [{ last with comment := later }] := by
    rw [grouped.lex, same, Token.withoutComments, if_neg (by simp [isEnd])]
    rfl
  exact Definition.parseAll_of_spells tokens isEnd (grouped.ordered.withoutComments each)
    (Token.forall₂_spells each spelled)

end QueryTree
