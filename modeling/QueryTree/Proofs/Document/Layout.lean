import Mathlib.Logic.Relation
import QueryTree.Proofs.Document.CanonicalStripped
import QueryTree.Proofs.Document.Joined
import QueryTree.Proofs.Language.Layout

/-!
# Layout does not matter

A source that is laid out anew has the same lexemes, up to the style of its strings, and
is read as the same definition, up to positions and that style.  Nothing of this is left in
canonical text.
-/

namespace QueryTree

open QueryTree.Lexer

/-- Lexemes keep their senses however often the layout of a text is changed. -/
theorem Lexer.lexemes_of_relaid {text other : List Char}
    (relaid : Relation.ReflTransGen Relaid text other) :
    (lexemes other).map Lexeme.sense = (lexemes text).map Lexeme.sense := by
  induction relaid with
  | refl => rfl
  | tail _ step ih => exact step.lexemes.trans ih

/-- The tokens of a source, comments aside, have the lexemes of its text. -/
theorem Token.map_lexeme_lex (text : String) :
    (withoutComments none (lex "" text)).map lexeme = lexemes text.toList := by
  rw [map_lexeme_withoutComments, lex, map_lexeme_tokens]
  rfl

/-- Where the lexemes of a text have the senses of given tokens up to its end, so do its tokens. -/
theorem Token.exists_of_sense {text : String} {front : List Token}
    (same : (lexemes text.toList).map Lexeme.sense =
      (front.map lexeme ++ [Lexeme.mark .endOfInput]).map Lexeme.sense) :
    ∃ others ending, withoutComments none (lex "" text) = others ++ [ending] ∧
      ending.kind = .endOfInput ∧ others.map (seen false) = front.map (seen false) := by
  have senses : (withoutComments none (lex "" text)).map (seen false) =
      front.map (seen false) ++ [missing.seen false] := by
    calc (withoutComments none (lex "" text)).map (seen false)
        = (lexemes text.toList).map Lexeme.sense := by
          rw [← map_lexeme_lex, List.map_map]
          rfl
      _ = front.map (seen false) ++ [missing.seen false] := by
          rw [same, List.map_append, List.map_map]
          rfl
  obtain ⟨others, ends, tokens, sameFront, sameEnds⟩ := List.map_eq_append_iff.mp senses
  obtain ⟨ending, rfl, sameEnding⟩ := List.map_eq_singleton_iff.mp sameEnds
  refine ⟨others, ending, tokens, ?_, sameFront⟩
  rcases kind_eq_or_of_seen sameEnding with sameKind | ⟨_, isString | isString, _⟩
  · exact sameKind
  · cases isString
  · cases isString

namespace Definition

variable {definition : Definition} {text : String}

theorem parse_of_parseAll (read : parseAll "" text = .ok [definition]) :
    parse text = .ok definition := by
  rw [parse, read]
  rfl

/-- Texts with the same lexemes, up to the style of strings, have the same definition, up to
positions and that style. -/
theorem exists_parse_of_sense {other : String} (read : parse text = .ok definition)
    (same : (Lexer.lexemes other.toList).map Lexeme.sense =
      (Lexer.lexemes text.toList).map Lexeme.sense) :
    ∃ found, parse other = .ok found ∧ found.stripped = definition.stripped := by
  obtain ⟨listed, has, front, last, areListed, isDefinition⟩ := exists_lexemes_of_parse read
  have ofText : Lexer.lexemes text.toList = front.map Token.lexeme ++ [.mark .endOfInput] := by
    rw [← Token.map_lexeme_lex, Token.map_lexeme_withoutComments, has, List.filter_append,
      areListed]
    rfl
  rw [ofText] at same
  obtain ⟨others, ending, tokens, isEnd, sameFront⟩ := Token.exists_of_sense same
  have sameLength : front.length = others.length := by
    simpa using (congrArg List.length sameFront).symm
  obtain ⟨again, isAgain, sameAgain⟩ := (Grammar.definition_replays false (Nat.le_refl _)).replay
    trivial isDefinition sameFront nofun (show [last].length ≤ [ending].length from Nat.le_refl 1)
  rw [sameLength] at isAgain
  have spells : Grammar.Spells (others.map Token.lexeme) again := ⟨others, ending, rfl, isAgain⟩
  have grouped : Token.withoutComments none (lex "" other) = [others].flatten ++ [ending] := by
    rw [tokens, List.flatten_singleton]
  obtain ⟨found, parsed, sameFound⟩ :=
    parseAll_of_spells grouped isEnd (List.pairwise_singleton _ _) (.cons spells .nil)
  obtain ⟨single, rfl, isSingle⟩ := List.map_eq_singleton_iff.mp sameFound
  refine ⟨single, parse_of_parseAll parsed, ?_⟩
  calc single.stripped = single.unplaced.stripped := (stripped_unplaced single).symm
    _ = again.unplaced.stripped := congrArg stripped isSingle
    _ = again.stripped := stripped_unplaced again
    _ = definition.stripped := sameAgain

/-- A source that is laid out anew is accepted, too, and its definition has the same canonical
text. -/
theorem parse_relaid {text other : String} {definition : Definition}
    (read : parse text = .ok definition)
    (relaid : Relation.ReflTransGen Relaid text.toList other.toList) :
    ∃ found, parse other = .ok found ∧ found.canonical = definition.canonical := by
  obtain ⟨found, parsed, same⟩ := exists_parse_of_sense read (lexemes_of_relaid relaid)
  refine ⟨found, parsed, ?_⟩
  rw [← canonical_stripped found, same, canonical_stripped]

end Definition

/-! ## A query that is laid out anew -/

namespace Sample

/-- The beginning of a query, up to the value of an argument. -/
def argumentTokens : List (List Char) := [['{'], ['a'], ['('], ['b'], [':']]

/-- A query with a given value of the argument. -/
def query (value : List Char) : String :=
  String.ofList (argumentTokens.flatten ++ (value ++ [')', '}']))

/-- A block string is written as an ordinary string, behind a comment that gives way to a
blank. -/
theorem query_relaid : Relation.ReflTransGen Relaid
    (query ['"', '"', '"', 'c', '"', '"', '"']).toList (query [' ', '"', 'c', '"']).toList := by
  have boundary {after : List Char} (all : areTokens argumentTokens after = true) :
      Boundary argumentTokens.flatten after := boundary_of_areTokens all
  have comment : Ignorable ('#' :: (['x'] ++ ['\n'])) := .comment (by decide) (.inl rfl) .nil
  have blank : Ignorable [' '] := .blank (by decide) .nil
  have restyled : Relaid
      (argumentTokens.flatten ++ '"' :: '"' :: '"' :: (['c', '"', '"', '"'] ++ [')', '}']))
      (argumentTokens.flatten ++ '"' :: (['c', '"'] ++ [')', '}'])) :=
    .restyle ⟨boundary (by decide), ['c'], _, _, rfl, rfl⟩ rfl
  have commented : Relaid (argumentTokens.flatten ++ '"' :: (['c', '"'] ++ [')', '}']))
      (argumentTokens.flatten ++ (['#', 'x', '\n'] ++ '"' :: (['c', '"'] ++ [')', '}']))) :=
    .insert (boundary (by decide)) (.inl comment)
  have blanked : Relaid
      (argumentTokens.flatten ++ (['#', 'x', '\n'] ++ '"' :: (['c', '"'] ++ [')', '}'])))
      (argumentTokens.flatten ++ ([' '] ++ '"' :: (['c', '"'] ++ [')', '}']))) :=
    .replace (boundary (by decide)) (by decide) (.inl comment) (by decide) (.inl blank)
  simp only [query, String.toList_ofList]
  exact .tail (.tail (.single restyled) commented) blanked

end Sample

/-- The query is read with the same canonical text in either layout. -/
theorem Definition.query_parse_relaid : ∃ definition found,
    Definition.parse (Sample.query ['"', '"', '"', 'c', '"', '"', '"']) = .ok definition ∧
      Definition.parse (Sample.query [' ', '"', 'c', '"']) = .ok found ∧
      found.canonical = definition.canonical := by
  obtain ⟨definition, read⟩ : ∃ definition, Definition.parse
      (Sample.query ['"', '"', '"', 'c', '"', '"', '"']) = .ok definition :=
    exists_of_isOk (by decide +kernel)
  obtain ⟨found, parsed, same⟩ := Definition.parse_relaid read Sample.query_relaid
  exact ⟨definition, found, read, parsed, same⟩

/-- An empty block string in front of a string cannot be written as an ordinary string. -/
theorem Definition.emptyBlock_not_restyled : ∃ before block string after,
    SameContent before block string after ∧
      (Definition.parse (String.ofList
        (before ++ '"' :: '"' :: '"' :: (block ++ after)))).toOption.isSome = true ∧
      (Definition.parse (String.ofList (before ++ '"' :: (string ++ after)))).toOption.isSome =
        false := by
  have boundary : Boundary (Sample.argumentTokens ++ [['[']]).flatten
      ['"', '"', '"', '"', '"', '"', '"', 'c', '"', ']', ')', '}'] :=
    boundary_of_areTokens (by decide)
  refine ⟨_, ['"', '"', '"'], ['"'], ['"', 'c', '"', ']', ')', '}'],
    ⟨boundary, [], _, _, rfl, rfl⟩, ?_, ?_⟩
  · decide +kernel
  · decide +kernel

end QueryTree
