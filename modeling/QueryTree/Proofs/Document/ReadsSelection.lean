import QueryTree.Proofs.Document.ReadsValue

/-!
# Selections are read from their lexemes

The grammar reads the lexemes of a selection as this selection, up to positions
and the style of strings.  Besides being well formed, a selection has to be
readable: what the grammar asks for beyond the spelling of words.
-/

namespace QueryTree

namespace Selection

mutual

/-- Whether a selection is one that can be read: an alias differs from the name, a
spread does not look like a type condition, an inline fragment selects something. -/
def Readable : Selection → Prop
  | .field head selections => head.alias? ≠ some head.name ∧ AllReadable selections
  | .spread head => head.name ≠ "on"
  | .inline _ selections => selections ≠ [] ∧ AllReadable selections

/-- Whether all selections of a selection set can be read. -/
def AllReadable : List Selection → Prop
  | [] => True
  | selection :: selections => Readable selection ∧ AllReadable selections

end

theorem allReadable_iff {selections : List Selection} :
    AllReadable selections ↔ ∀ selection ∈ selections, selection.Readable := by
  induction selections with
  | nil => simp [AllReadable]
  | cons selection selections ih => simp [AllReadable, ih]

end Selection

namespace Grammar

open QueryTree.Parser

/-- Whether a kind of token does not continue a field without its selections. -/
def endsField (kind : TokenKind) : Prop := kind ≠ .colon ∧ endsDirectives kind

instance (kind : TokenKind) : Decidable (endsField kind) := inferInstanceAs (Decidable (_ ∧ _))

/-- Whether a kind of token does not continue a selection. -/
def endsSelection (kind : TokenKind) : Prop := kind ≠ .braceLeft ∧ endsField kind

instance (kind : TokenKind) : Decidable (endsSelection kind) := inferInstanceAs (Decidable (_ ∧ _))

end Grammar

/-- The lexemes of a field without the selections below it. -/
def Field.lexemes (head : Field) : List Lexeme :=
  Selection.aliasLexemes head.alias? ++ .word head.name ::
    (Argument.lexemesAll head.arguments ++ head.directives.flatMap Directive.lexemes)

theorem Selection.lexemes_field (head : Field) (selections : List Selection) :
    (Selection.field head selections).lexemes =
      head.lexemes ++ Lexeme.group .braceLeft .braceRight Selection.lexemes selections := by
  simp [lexemes, Field.lexemes, Lexeme.group, lexemesAll_eq_flatMap]

/-- A field begins with a word. -/
theorem Field.lexemes_starts (head : Field) :
    ∃ name others, head.lexemes = .word name :: others := by
  unfold Field.lexemes
  cases head.alias? with
  | none | some other => exact ⟨_, _, rfl⟩

namespace Grammar

open QueryTree.Parser

variable {depth : Nat} {selections : List Selection}

/-- The arguments and the directives of a field, after its name. -/
theorem fieldTail_reads {arguments : List Argument} {directives : List Directive}
    (formed : Value.FieldsWellFormed arguments)
    (wellFormed : ∀ directive ∈ directives, directive.WellFormed)
    (deep : (Argument.lexemesAll arguments ++ directives.flatMap Directive.lexemes).length ≤ depth)
    {β : Type} {make : List Argument → List Directive → β} {good : β → Prop}
    (holds : ∀ found others, found.map Argument.stripped = arguments.map Argument.stripped →
      others.map Directive.stripped = directives.map Directive.stripped → good (make found others)) :
    Reads (do
      let found ← Grammar.arguments false depth
      let others ← Grammar.directives false depth
      return make found others)
      (Argument.lexemesAll arguments ++ directives.flatMap Directive.lexemes) endsDirectives
      good := by
  rw [List.length_append] at deep
  have few : (Argument.lexemesAll arguments).length ≤ depth := by omega
  have fewer : (directives.flatMap Directive.lexemes).length ≤ depth := by omega
  exact (arguments_reads formed few).bind (fun found same =>
    (directives_reads wellFormed fewer).last fun others sames =>
      .pure (holds found others same sames)) fun kind ends =>
        headKind_directives (· ≠ .parenLeft) (by decide) ends.2

theorem field_reads {head : Field} (formed : (Selection.field head selections).WellFormed)
    (fresh : head.alias? ≠ some head.name) (deep : head.lexemes.length ≤ depth + 1) :
    Reads (field depth) head.lexemes endsField fun found => found.stripped = head.stripped := by
  obtain ⟨_, _, arguments, directives, _⟩ := formed
  unfold Field.lexemes at deep ⊢
  rw [List.length_append, List.length_cons] at deep
  have few : (Argument.lexemesAll head.arguments ++
    head.directives.flatMap Directive.lexemes).length ≤ depth := by omega
  have other {kind : TokenKind} (notColon : kind ≠ .colon) :
      headKind (Argument.lexemesAll head.arguments ++
        head.directives.flatMap Directive.lexemes) kind ≠ .colon := by
    rw [headKind_append]
    exact headKind_group (· ≠ .colon) (by decide)
      (headKind_directives (· ≠ .colon) (by decide) notColon)
  refine position_reads.free fun position _ => ?_
  cases isAlias : head.alias? with
  | none =>
    refine (name_reads head.name).cons fun first isFirst =>
      (skip_reads_nothing .colon).bind (fun aliased isFalse => .neg (by simp [isFalse]) <|
        .pureBind <| (fieldTail_reads arguments directives few fun found others same sames =>
          ?_).weaken (fun _ ends => ends.2) fun _ holds => holds) fun kind ends => other ends.1
    simp [Field.stripped, isFirst, same, sames, isAlias]
  | some other =>
    have differs : other ≠ head.name := by
      rintro rfl
      exact fresh isAlias
    refine (name_reads other).cons fun first isFirst => (skip_reads rfl).cons
      fun aliased isTrue => .pos isTrue <| (name_reads head.name).cons fun name isName =>
        (fieldTail_reads arguments directives few fun found others same sames =>
          ?_).weaken (fun _ ends => ends.2) fun _ holds => holds
    simp [Field.stripped, isFirst, isName, same, sames, isAlias, differs]

/-- Whether a selection is read from its lexemes at a depth. -/
def IsRead (depth : Nat) (selection : Selection) : Prop :=
  Reads (Grammar.selection depth) selection.lexemes endsSelection fun found =>
    found.stripped = selection.stripped

theorem selection_items (reads : ∀ selection ∈ selections, IsRead depth selection) :
    Items (Grammar.selection depth) .braceRight endsSelection Selection.lexemes
      Selection.stripped selections where
  reads := reads
  starts selection _ := by
    cases selection with
    | field head selections =>
      obtain ⟨name, others, starts⟩ := head.lexemes_starts
      rw [Selection.lexemes_field, starts]
      exact ⟨_, _, rfl, show endsSelection .name by decide,
        show TokenKind.name ≠ .braceRight by decide⟩
    | spread head | inline head selections => exact ⟨_, _, rfl, by decide, by decide⟩
  closes := by decide

/-- The directives and the selections of an inline fragment, after its condition. -/
theorem inlineTail_reads {head : InlineFragment}
    (formed : ∀ directive ∈ head.directives, directive.WellFormed)
    (deep : (head.directives.flatMap Directive.lexemes).length ≤ depth) (some : selections ≠ [])
    (reads : ∀ selection ∈ selections, IsRead depth selection) (position : Position) :
    Reads (do
      let directives ← Grammar.directives false depth
      let brace ← peek
      if brace.kind = .braceLeft then
        let selections ← groupOfSome .braceLeft .braceRight (Grammar.selection depth)
        return Selection.inline ⟨head.condition, directives, position⟩ selections
      else failAt brace (.expectedKind .braceLeft brace.kind))
      (head.directives.flatMap Directive.lexemes ++
        Lexeme.enclosed .braceLeft .braceRight (selections.flatMap Selection.lexemes))
      endsSelection fun found => found.stripped = (Selection.inline head selections).stripped := by
  have block : Reads (groupOfSome .braceLeft .braceRight (Grammar.selection depth))
      (Lexeme.enclosed .braceLeft .braceRight (selections.flatMap Selection.lexemes)) endsSelection
      fun found => found.map Selection.stripped = selections.map Selection.stripped :=
    (groupOfSome_reads (selection_items reads) some rfl rfl).weaken (fun _ _ => trivial)
      fun _ same => same
  refine (directives_reads formed deep).bind (fun found same => .peek rfl fun _ _ =>
    .pos rfl <| block.last fun others sames => .pure ?_)
      fun _ _ => show endsDirectives .braceLeft by decide
  rw [Selection.stripped, Selection.stripped, InlineFragment.stripped, InlineFragment.stripped,
    same, Selection.strippedAll_eq_map, Selection.strippedAll_eq_map, sames]

/-- An inline fragment without a condition goes on with punctuation. -/
theorem inlineTail_starts (directives : List Directive) (selections : List Selection) :
    ∃ kind others, directives.flatMap Directive.lexemes ++
        Lexeme.enclosed .braceLeft .braceRight (selections.flatMap Selection.lexemes) =
      .mark kind :: others ∧ kind ≠ .name := by
  cases directives with
  | nil | cons directive directives => exact ⟨_, _, rfl, by decide⟩

section Cases

variable {depth : Nat} {selections : List Selection}

theorem isRead_field {head : Field} (formed : (Selection.field head selections).WellFormed)
    (fresh : head.alias? ≠ some head.name)
    (deep : (Selection.field head selections).lexemes.length ≤ depth)
    (below : ∀ selection ∈ selections, ∀ depth, selection.lexemes.length ≤ depth →
      IsRead depth selection) : IsRead depth (.field head selections) := by
  obtain ⟨name, after, starts⟩ := head.lexemes_starts
  have notEmpty : 0 < head.lexemes.length := by simp [starts]
  unfold IsRead
  rw [Selection.lexemes_field] at deep ⊢
  rw [List.length_append] at deep
  cases depth with
  | zero => omega
  | succ depth =>
    have reads : ∀ selection ∈ selections, IsRead depth selection := by
      intro selection member
      have fits : selection.lexemes.length ≤ (Lexeme.group .braceLeft .braceRight
        Selection.lexemes selections).length := group_deep member
      exact below selection member depth (by omega)
    have block : Reads (groupOfSome .braceLeft .braceRight (Grammar.selection depth))
        (Lexeme.group .braceLeft .braceRight Selection.lexemes selections) endsSelection
        fun found => found.map Selection.stripped = selections.map Selection.stripped :=
      (groupOfSome_reads_group (selection_items reads) rfl rfl).weaken
        (fun _ ends => ends.1) fun _ same => same
    refine (skip_reads_nothing .spread).bind (fun isFragment isFalse => .neg (by simp [isFalse])
      <| (field_reads formed fresh (by omega)).bind
        (fun found same => block.last fun others sames => .pure ?_) fun kind ends => ?_)
      fun kind ends => ?_
    · rw [Selection.stripped, Selection.stripped, same, Selection.strippedAll_eq_map,
        Selection.strippedAll_eq_map, sames]
    · exact headKind_group endsField (by decide) ends.2
    · rw [starts]
      exact show TokenKind.name ≠ .spread by decide

theorem isRead_spread {head : Spread} (formed : (Selection.spread head).WellFormed)
    (notOn : head.name ≠ "on") (deep : (Selection.spread head).lexemes.length ≤ depth) :
    IsRead depth (.spread head) := by
  cases depth with
  | zero => cases deep
  | succ depth =>
    have few : (head.directives.flatMap Directive.lexemes).length ≤ depth := by
      rw [Selection.lexemes, List.length_cons, List.length_cons] at deep
      omega
    refine (skip_reads rfl).cons fun isFragment isTrue => .pos isTrue <|
      .peek rfl fun position _ => .pos ⟨rfl, notOn⟩ <| (name_reads head.name).cons
        fun name isName => ((directives_reads formed.2 few).weaken (fun _ ends => ends.2.2)
          fun _ same => same).last fun directives same => .pure ?_
    rw [isName, Selection.stripped, Selection.stripped, Spread.stripped, Spread.stripped, same]

theorem isRead_inline {head : InlineFragment}
    (formed : ∀ directive ∈ head.directives, directive.WellFormed) (some : selections ≠ [])
    (deep : (Selection.inline head selections).lexemes.length ≤ depth)
    (below : ∀ selection ∈ selections, ∀ depth, selection.lexemes.length ≤ depth →
      IsRead depth selection) : IsRead depth (.inline head selections) := by
  unfold IsRead
  cases depth with
  | zero => cases deep
  | succ depth =>
    rw [Selection.lexemes, Selection.lexemesAll_eq_flatMap] at deep ⊢
    rw [List.length_cons, List.length_append, List.length_append] at deep
    have reads : ∀ selection ∈ selections, IsRead depth selection := by
      intro selection member
      have fits : (Lexeme.enclosed .braceLeft .braceRight
        (selections.flatMap Selection.lexemes)).length ≤ depth + 1 := by omega
      exact below selection member depth (enclosed_deep fits member)
    have few : (head.directives.flatMap Directive.lexemes).length ≤ depth := by omega
    have tail := inlineTail_reads formed few some reads
    refine (skip_reads rfl).cons fun isFragment isTrue => .pos isTrue ?_
    cases isCondition : head.condition with
    | some condition =>
      rw [isCondition] at tail
      have conditionReads : Reads (Option.some <$> name) [.word condition] anyKind
          (· = Option.some condition) :=
        .map _ ((name_reads condition).weaken (fun _ any => any) fun _ same =>
          congrArg Option.some same)
      refine .peek rfl fun position _ => .neg (fun isSpread => isSpread.2 rfl) <|
        .pos rfl <| (next_reads rfl).cons fun _ _ => conditionReads.cons fun found isFound => ?_
      rw [isFound]
      exact tail position
    | none =>
      rw [isCondition] at tail
      obtain ⟨kind, others, starts, notName⟩ := inlineTail_starts head.directives selections
      exact .peek starts fun position _ => .neg (fun isSpread => notName isSpread.1) <|
        .neg (show ¬ "" = "on" by decide) <| .pureBind (tail position)

end Cases

/-- A selection is read from its lexemes. -/
theorem selection_reads {selection : Selection} (formed : selection.WellFormed)
    (readable : selection.Readable) (deep : selection.lexemes.length ≤ depth) :
    IsRead depth selection := by
  induction selection using Selection.induction generalizing depth with
  | field head selections ih =>
    obtain ⟨fresh, below⟩ := readable
    exact isRead_field formed fresh deep fun selection member _ => ih selection member
      (Selection.allWellFormed_iff.mp formed.2.2.2.2 selection member)
      (Selection.allReadable_iff.mp below selection member)
  | spread head => exact isRead_spread formed readable deep
  | inline head selections ih =>
    obtain ⟨_, directives, formed⟩ := formed
    obtain ⟨some, below⟩ := readable
    exact isRead_inline directives some deep fun selection member _ => ih selection member
      (Selection.allWellFormed_iff.mp formed selection member)
      (Selection.allReadable_iff.mp below selection member)

end Grammar

end QueryTree
