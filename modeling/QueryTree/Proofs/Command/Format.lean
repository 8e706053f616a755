import QueryTree.Proofs.Command.Written
import QueryTree.Proofs.Document.CanonicalStripped
import QueryTree.Proofs.Document.Rejected

/-!
# Formatting and reading again

What the format command writes for files of definitions is read as the definitions of
all of them in their order, and formatting it again changes nothing.  This needs that
no string has a foreign escape: a definition with one has a canonical text that cannot
be read.
-/

namespace QueryTree

namespace FormatCommand

/-! ## The text of several files -/

theorem definitionsText_append (first : Bool) (lefts rights : List Definition) :
    definitionsText first (lefts ++ rights) =
      definitionsText first lefts ++ definitionsText (first && lefts.isEmpty) rights := by
  induction lefts generalizing first with
  | nil => simp [definitionsText]
  | cons definition lefts ih =>
    rw [List.cons_append, definitionsText, ih, definitionsText]
    simp [String.append_assoc]

theorem definitionsText_congr {lefts rights : List Definition}
    (same : lefts.map Definition.canonical = rights.map Definition.canonical) (first : Bool) :
    definitionsText first lefts = definitionsText first rights := by
  induction lefts generalizing rights first with
  | nil => rw [List.map_eq_nil_iff.mp same.symm]
  | cons left lefts ih =>
    obtain ⟨right, rights, rfl, head, tail⟩ := List.map_eq_cons_iff.mp same.symm
    rw [definitionsText, definitionsText, head, ih tail.symm]

variable {files : FileTable} {lists : List (List Definition)} {paths : List String}
variable {path text : String}

section

variable (read : paths.mapM (readDefinitions files) = .ok lists)

include read

/-- If all files can be read, their definitions are written one after the other. -/
theorem definitionsFrom_eq (first : Bool) :
    definitionsFrom files first paths = (definitionsText first lists.flatten, none) := by
  have related := forall₂_of_mapM_eq_ok read
  clear read
  induction related generalizing first with
  | nil => rfl
  | cons isFirst _ ih =>
    rw [definitionsFrom, isFirst, List.flatten_cons, definitionsText_append]
    dsimp only
    rw [ih]

theorem definitions_eq_wrote :
    definitions files paths = .wrote (definitionsText true lists.flatten) := by
  rw [definitions, definitionsFrom_eq read]
  rfl

/-- What is read from files is read from texts. -/
theorem exists_parseAll {definition : Definition} (member : definition ∈ lists.flatten) :
    ∃ source text definitions, Definition.parseAll source text = .ok definitions ∧
      definition ∈ definitions := by
  obtain ⟨definitions, isList, inList⟩ := List.mem_flatten.mp member
  obtain ⟨path, _, isRead⟩ := exists_of_mapM_eq_ok read isList
  obtain ⟨text, _, parsed⟩ := exists_of_bind_eq_ok isRead
  exact ⟨path, text, definitions, eq_ok_of_mapError parsed, inList⟩

end

theorem readDefinitions_eq_ok {definitions : List Definition} (isText : files.read path = .ok text)
    (parsed : Definition.parseAll path text = .ok definitions) :
    readDefinitions files path = .ok definitions := by
  simp only [readDefinitions, isText, bind, Except.bind, parsed, Except.mapError]

/-- A text that is read as given definitions, up to positions and the style of strings,
is formatted as they are. -/
theorem definitions_of_stripped {found expected : List Definition}
    (isText : files.read path = .ok text) (parsed : Definition.parseAll path text = .ok found)
    (same : found.map Definition.stripped = expected.map Definition.stripped) :
    definitions files [path] = .wrote (definitionsText true expected) := by
  have read : [path].mapM (readDefinitions files) = .ok [found] := by
    rw [List.mapM_cons, readDefinitions_eq_ok isText parsed, List.mapM_nil]
    rfl
  rw [definitions_eq_wrote read, List.flatten_singleton,
    definitionsText_congr (Definition.map_canonical_eq same)]

/-- Files without foreign escapes are formatted as a text that is read as their
definitions in the same order, equal up to positions and the style of strings, and that
is formatted as itself.  The canonical text of a definition with a foreign escape is
rejected. -/
theorem definitions_roundTrip :
    (∀ files paths lists, paths.mapM (readDefinitions files) = .ok lists →
      (∀ definition ∈ lists.flatten, definition.isForeign = false) →
      ∃ text, definitions files paths = .wrote text ∧
        (∀ source, ∃ found, Definition.parseAll source text = .ok found ∧
          found.map Definition.stripped = lists.flatten.map Definition.stripped) ∧
        ∀ others path, FileTable.read others path = .ok text →
          definitions others [path] = .wrote text) ∧
      ∀ source text definitions, Definition.parseAll source text = .ok definitions →
        ∀ definition ∈ definitions, definition.isForeign = true →
          ∀ name, ∃ diagnostic, Definition.parseAll name definition.canonical =
            .error diagnostic := by
  constructor
  · intro files paths lists read plain
    have formed : ∀ definition ∈ lists.flatten, definition.WellFormed := by
      intro definition member
      obtain ⟨_, _, _, parsed, isRead⟩ := exists_parseAll read member
      exact Definition.wellFormed_of_parseAll parsed definition isRead
    have readable : ∀ definition ∈ lists.flatten, definition.Readable := by
      intro definition member
      obtain ⟨_, _, _, parsed, isRead⟩ := exists_parseAll read member
      exact Definition.readable_of_parseAll parsed definition isRead
    have again := parseAll_definitionsText formed readable plain
    refine ⟨definitionsText true lists.flatten, definitions_eq_wrote read, again, ?_⟩
    intro others path isText
    obtain ⟨found, parsed, same⟩ := again path
    exact definitions_of_stripped isText parsed same
  · intro source text definitions parsed definition member foreign name
    have formed := Definition.wellFormed_of_parseAll parsed definition member
    exact Definition.parseAll_eq_error_of_broken
      (Definition.broken_lex_canonical formed foreign name)

/-- A table of two files. -/
def twoFiles (left right : String) : FileTable := ⟨[("a", left), ("b", right)], []⟩

theorem splitOn_letter : "a".splitOn "/" = ["a"] ∧ "b".splitOn "/" = ["b"] := by
  unfold String.splitOn
  constructor
  -- The kernel does not evaluate the recursion of `splitOnAux`.
  all_goals
    rw [if_neg (by decide +kernel), String.splitOnAux.eq_def, if_neg (by decide +kernel),
      if_neg (by decide +kernel), String.splitOnAux.eq_def, if_pos (by decide +kernel)]
    decide +kernel

theorem twoFiles_read (left right : String) :
    (twoFiles left right).read "a" = .ok left ∧ (twoFiles left right).read "b" = .ok right := by
  have sizes : "a".utf8ByteSize = 1 ∧ "b".utf8ByteSize = 1 := by decide
  constructor <;>
    simp [FileTable.read, FileTable.place, FileTable.walk, FileTable.ofParts, FileTable.pathLimit,
      FileTable.nameLimit, List.lookup_cons, twoFiles, splitOn_letter, sizes]

/-- A query with a block string and an escape. -/
def findText : String :=
  "query Find($text: String = \"\"\"a \\ b\"\"\") \x7b\n" ++
    "  found: find(text: $text, mark: \"\\u00e9\") \x7b ...Item \x7d\n\x7d"

/-- A fragment with an alias that says nothing and an inline fragment without a type. -/
def itemText : String := "fragment Item on Item \x7b name: name ... \x7b id \x7d \x7d # end"

/-- A query that rings a bell. -/
def bellText : String := "\x7b ring(text: \"\\u0007\") \x7d"

/-- The query and the fragment are formatted and read again; the bell cannot be. -/
theorem find_item_bell_roundTrip :
    ∃ find item bell, Definition.parseAll "a" findText = .ok [find] ∧
      Definition.parseAll "b" itemText = .ok [item] ∧
      Definition.parseAll "c" bellText = .ok [bell] ∧
      (∃ text, definitions (twoFiles findText itemText) ["a", "b"] = .wrote text ∧
        (∀ source, ∃ found, Definition.parseAll source text = .ok found ∧
          found.map Definition.stripped = [find.stripped, item.stripped]) ∧
        definitions (twoFiles text "") ["a"] = .wrote text) ∧
      ∃ diagnostic, Definition.parseAll "d" bell.canonical = .error diagnostic := by
  obtain ⟨find, isFind, plainFind⟩ : ∃ find, Definition.parseAll "a" findText = .ok [find] ∧
      find.isForeign = false := exists_singleton_of_map (by decide +kernel)
  obtain ⟨item, isItem, plainItem⟩ : ∃ item, Definition.parseAll "b" itemText = .ok [item] ∧
      item.isForeign = false := exists_singleton_of_map (by decide +kernel)
  obtain ⟨bell, isBell, foreign⟩ : ∃ bell, Definition.parseAll "c" bellText = .ok [bell] ∧
      bell.isForeign = true := exists_singleton_of_map (by decide +kernel)
  obtain ⟨findFile, itemFile⟩ := twoFiles_read findText itemText
  have read : ["a", "b"].mapM (readDefinitions (twoFiles findText itemText)) =
      .ok [[find], [item]] := by
    rw [List.mapM_cons, readDefinitions_eq_ok findFile isFind, List.mapM_cons,
      readDefinitions_eq_ok itemFile isItem, List.mapM_nil]
    rfl
  have plain : ∀ definition ∈ [[find], [item]].flatten, definition.isForeign = false := by
    simp [plainFind, plainItem]
  obtain ⟨text, wrote, again, stable⟩ := definitions_roundTrip.1 _ _ _ read plain
  refine ⟨find, item, bell, isFind, isItem, isBell,
    ⟨text, wrote, again, stable _ _ (twoFiles_read text "").1⟩, ?_⟩
  exact definitions_roundTrip.2 _ _ _ isBell bell List.mem_cons_self foreign "d"

end FormatCommand

end QueryTree
