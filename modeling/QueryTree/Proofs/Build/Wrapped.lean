import Mathlib.Logic.Relation
import QueryTree.Proofs.Build.Buildable
import QueryTree.Proofs.Document.Rule

/-!
# Inline fragments without a condition

An inline fragment without a type condition and without directives changes nothing
about whether a definition has a tree: what can be built within it can be built in its
place, and the other way round.
-/

namespace QueryTree

/-- Whether a selection set becomes another one when a part of it, or of a set that it
encloses, is put into an inline fragment without condition and directives. -/
inductive Selection.Wraps : List Selection → List Selection → Prop
  | here {before part after : List Selection} {head : InlineFragment}
      (noCondition : head.condition = none) (noDirectives : head.directives = []) :
      Wraps (before ++ part ++ after) (before ++ .inline head part :: after)
  | field {before after inner wrapped : List Selection} {head : Field}
      (inside : Wraps inner wrapped) :
      Wraps (before ++ .field head inner :: after) (before ++ .field head wrapped :: after)
  | inline {before after inner wrapped : List Selection} {head : InlineFragment}
      (inside : Wraps inner wrapped) :
      Wraps (before ++ .inline head inner :: after) (before ++ .inline head wrapped :: after)

/-- A definition with another selection set. -/
def Definition.withSelections (definition : Definition) (selections : List Selection) :
    Definition :=
  { definition with selections := selections }

/-- Whether a part of what a definition selects is put into such a fragment: anywhere in a
fragment, below the root field of an operation. -/
inductive Definition.Wraps : Definition → Definition → Prop
  | fragment {definition : Definition} {wrapped : List Selection}
      (isFragment : definition.kind = .fragment)
      (inside : Selection.Wraps definition.selections wrapped) :
      Wraps definition (definition.withSelections wrapped)
  | operation {definition : Definition} {before after inner wrapped : List Selection}
      {head : Field} (isOperation : definition.kind.isOperation = true)
      (written : definition.selections = before ++ .field head inner :: after)
      (inside : Selection.Wraps inner wrapped) :
      Wraps definition (definition.withSelections (before ++ .field head wrapped :: after))

variable {wrapped : List Selection} {schema : Schema}

/-- The rules for the fields of a connection look through inline fragments. -/
theorem Selection.Wraps.subfields_eq {selections : List Selection}
    (wraps : Wraps selections wrapped) : Rule.subfields selections = Rule.subfields wrapped := by
  induction wraps with
  | here noCondition noDirectives =>
    simp [Rule.subfields_eq_flatMap, Rule.subfieldsOf]
  | field inside ih => simp [Rule.subfields_eq_flatMap, Rule.subfieldsOf]
  | inline inside ih =>
    rw [Rule.subfields_eq_flatMap, Rule.subfields_eq_flatMap]
    simp [Rule.subfieldsOf, ih]

theorem Selection.Wraps.keeps_iff {pattern : Bool} {parent : SchemaType} {head : Field}
    {inner : List Selection} {declared : SchemaField} (wraps : Wraps inner wrapped) :
    head.Keeps schema pattern parent inner declared ↔
      head.Keeps schema pattern parent wrapped declared := by
  have same : Rule.connectionSubfields schema head inner declared.type pattern =
      Rule.connectionSubfields schema head wrapped declared.type pattern := by
    unfold Rule.connectionSubfields
    rw [wraps.subfields_eq]
  constructor
  · rintro ⟨node, pages⟩
    exact ⟨node, same ▸ pages⟩
  · rintro ⟨node, pages⟩
    exact ⟨node, same ▸ pages⟩

/-! ## Demands -/

namespace Demanded

variable {schema : Schema} {kind : NodeKind} {type : SchemaType} {selected others : List String}
  {name : String}

theorem mono (subset : selected ⊆ others) (demanded : Demanded schema kind type selected name) :
    Demanded schema kind type others name := by
  rcases iff_pageInfo.mp demanded with always | ⟨connection, edges, rfl⟩
  · exact iff_pageInfo.mpr (.inl always)
  · exact .pageInfo connection (subset edges)

/-- What is demanded of a fragment is demanded of every node of the same type. -/
theorem of_fragment (demanded : Demanded schema .fragment type selected name) :
    Demanded schema kind type selected name := by
  cases demanded with
  | id has => exact .id has
  | typeName isAbstract => exact .typeName isAbstract
  | pageInfo connection edges => exact .pageInfo connection edges
  | hasNextPage isField | hasPreviousPage isField | cursor isField | node isField => cases isField
  | clientId operation => cases operation

end Demanded

/-- A node can be supplied exactly if it can without a part of what it selects, and a
fragment that selects this part can. -/
theorem Schema.canSupply_part_iff {kind : NodeKind} {type : SchemaType}
    {before part after : List String} :
    schema.CanSupply kind type (before ++ part ++ after) ↔
      schema.CanSupply kind type (before ++ after) ∧ schema.CanSupply .fragment type part := by
  constructor
  · intro supplied
    have rest : before ++ after ⊆ before ++ part ++ after := by grind
    have inside : part ⊆ before ++ part ++ after := by grind
    exact ⟨⟨fun name demanded => supplied.fields name (demanded.mono rest), supplied.onNode⟩,
      ⟨fun name demanded => supplied.fields name (demanded.of_fragment.mono inside),
        supplied.onNode⟩⟩
  · rintro ⟨rest, inside⟩
    refine ⟨fun name demanded => ?_, rest.onNode⟩
    rcases Demanded.iff_pageInfo.mp demanded with always | ⟨connection, edges, rfl⟩
    · exact rest.fields name (Demanded.iff_pageInfo.mpr (.inl always))
    · by_cases inPart : schema.names.edges ∈ part
      · exact inside.fields _ (.pageInfo connection inPart)
      · exact rest.fields _ (.pageInfo connection (by simpa [inPart] using edges))

/-! ## Selection sets -/

namespace Selection

variable {context : Context} {kind : NodeKind} {type : SchemaType}

theorem selectedNames_append (selections others : List Selection) :
    selectedNames (selections ++ others) = selectedNames selections ++ selectedNames others := by
  simp [selectedNames, fields]

theorem selectedNames_cons (selection : Selection) (selections : List Selection) :
    selectedNames (selection :: selections) =
      selectedNames [selection] ++ selectedNames selections :=
  selectedNames_append [selection] selections

variable {selections after before part : List Selection} {head : InlineFragment}

theorem allBuildable_iff :
    AllBuildable context kind type selections ↔
      context.schema.CanSupply kind type (selectedNames selections) ∧
        ∀ selection ∈ selections, selection.Buildable context type := by
  constructor
  · exact fun all => ⟨all.supplied, all.each⟩
  · rintro ⟨supplied, each⟩
    exact ⟨supplied, each⟩

/-- A selection can be replaced by one that is as buildable and selects the same field, or
no field either. -/
theorem allBuildable_replace_iff {selection other : Selection}
    (sameName : selectedNames [selection] = selectedNames [other])
    (same : selection.Buildable context type ↔ other.Buildable context type) :
    AllBuildable context kind type (before ++ selection :: after) ↔
      AllBuildable context kind type (before ++ other :: after) := by
  simp only [allBuildable_iff, selectedNames_append, selectedNames_cons selection after,
    selectedNames_cons other after, sameName, List.forall_mem_append, List.forall_mem_cons, same]

/-- What an inline fragment selects does not matter for the type that it applies to. -/
theorem inline_opens_iff {schema : Schema} {parent type : SchemaType}
    {inner others : List Selection} :
    (Selection.inline head inner).Opens schema parent type inner ↔
      (Selection.inline head others).Opens schema parent type others := by
  constructor <;>
    · intro opens
      cases opens with
      | inline isNone => exact .inline isNone
      | condition isCondition found => exact .condition isCondition found

theorem buildable_wrapper_iff (noCondition : head.condition = none)
    (noDirectives : head.directives = []) :
    (Selection.inline head part).Buildable context type ↔
      AllBuildable context .fragment type part := by
  rw [buildable_inline_iff]
  constructor
  · rintro ⟨other, opens, all, _⟩
    cases opens with
    | inline => exact all
    | condition isCondition =>
      rw [noCondition] at isCondition
      cases isCondition
  · intro all
    exact ⟨type, .inline noCondition, all, noDirectives ▸ Directive.valid_nil _⟩

/-- The part of a selection set that is wrapped demands what it demanded before. -/
theorem allBuildable_wrapper_iff (noCondition : head.condition = none)
    (noDirectives : head.directives = []) :
    AllBuildable context kind type (before ++ part ++ after) ↔
      AllBuildable context kind type (before ++ .inline head part :: after) := by
  have noName : selectedNames [Selection.inline head part] = [] := rfl
  simp only [allBuildable_iff, selectedNames_append, selectedNames_cons (.inline head part) after,
    noName, List.nil_append, Schema.canSupply_part_iff, List.forall_mem_append,
    List.forall_mem_cons, buildable_wrapper_iff noCondition noDirectives]
  tauto

/-- Wrapping a part of a selection set leaves it buildable, or not. -/
theorem Wraps.allBuildable_iff {wrapped : List Selection} (wraps : Wraps selections wrapped) :
    AllBuildable context kind type selections ↔ AllBuildable context kind type wrapped := by
  induction wraps generalizing kind type with
  | here noCondition noDirectives => exact allBuildable_wrapper_iff noCondition noDirectives
  | field inside ih =>
    refine allBuildable_replace_iff rfl ?_
    simp only [buildable_field_iff, inside.keeps_iff, ih]
  | inline inside ih =>
    refine allBuildable_replace_iff rfl ?_
    simp only [buildable_inline_iff, ih]
    exact exists_congr fun type => and_congr_left fun _ => inline_opens_iff

end Selection

/-! ## Definitions -/

namespace Definition

variable {schema : Schema} {options : BuildOptions} {definition wrapped : Definition}

/-- The root field of an operation stays the same, whatever is selected below it. -/
theorem first?_withSelections {before after inner : List Selection} {head : Field}
    (written : definition.selections = before ++ .field head inner :: after)
    (others : List Selection) :
    ∃ field found replaced, definition.first? = some ⟨field, found⟩ ∧
      (definition.withSelections (before ++ .field head others :: after)).first? =
        some ⟨field, replaced⟩ ∧ (found = replaced ∨ found = inner ∧ replaced = others) := by
  simp only [first?, written, withSelections, Selection.fields, List.filterMap_append,
    List.filterMap_cons, Selection.field?]
  cases before.filterMap Selection.field? with
  | nil => exact ⟨head, inner, others, rfl, rfl, .inr ⟨rfl, rfl⟩⟩
  | cons selected fields =>
    exact ⟨selected.field, selected.selections, selected.selections, rfl, rfl, .inl rfl⟩

theorem Wraps.buildable_iff (wraps : Wraps definition wrapped) :
    definition.Buildable schema options ↔ wrapped.Buildable schema options := by
  cases wraps with
  | @fragment selections isFragment inside =>
    have ofWrapped : (definition.withSelections selections).kind = .fragment := isFragment
    rw [buildable_fragment_iff isFragment, buildable_fragment_iff ofWrapped]
    simp only [inside.allBuildable_iff]
    rfl
  | @operation before after inner others head isOperation written inside =>
    obtain ⟨field, found, replaced, isFirst, isReplaced, which⟩ :=
      first?_withSelections written others
    have sameBelow (kind : NodeKind) (type : SchemaType) :
        Selection.AllBuildable (definition.context schema options) kind type found ↔
          Selection.AllBuildable (definition.context schema options) kind type replaced := by
      rcases which with rfl | ⟨rfl, rfl⟩
      · rfl
      · exact inside.allBuildable_iff
    have sameCount : Rule.rootFieldCount definition = Rule.rootFieldCount
        (definition.withSelections (before ++ .field head others :: after)) := by
      simp only [Rule.rootFieldCount, written, withSelections, List.length_append, List.length_cons]
    have ofWrapped : (definition.withSelections
      (before ++ .field head others :: after)).kind.isOperation = true := isOperation
    rw [buildable_operation_iff isOperation, buildable_operation_iff ofWrapped]
    simp only [isFirst, isReplaced, sameCount, Option.some.injEq, and_assoc, exists_and_left,
      exists_eq_left', sameBelow]
    rfl

theorem buildable_iff_of_wraps (wraps : Relation.ReflTransGen Wraps definition wrapped) :
    definition.Buildable schema options ↔ wrapped.Buildable schema options := by
  induction wraps with
  | refl => rfl
  | tail _ step ih => exact ih.trans step.buildable_iff

/-- Inline fragments without condition and directives do not change whether a definition
has a tree, with or without validation. -/
theorem build_wrapped (wraps : Relation.ReflTransGen Wraps definition wrapped) :
    (∃ root, definition.build schema options = .ok root) ↔
      ∃ root, wrapped.build schema options = .ok root :=
  succeeds_build_iff.trans ((buildable_iff_of_wraps wraps).trans succeeds_build_iff.symm)

end Definition

/-! ## A feed in inline fragments -/

namespace Sample

/-- An inline fragment that applies to everything. -/
def plainFragment : InlineFragment := ⟨none, [], .unknown⟩

/-- A query for something of a feed without a limit. -/
def feedSelecting (selections : List Selection) : Definition :=
  endlessQuery.withSelections
    [.field (Build.bareField "viewer") [.field (Build.bareField "feed") selections]]

/-- The query for the edges of the feed, where they stand in two inline fragments. -/
def wrappedQuery : Definition :=
  feedSelecting
    [.inline plainFragment [.inline plainFragment [.field (Build.bareField "edges") []]]]

theorem wraps_feedSelecting (selections : List Selection) :
    (feedSelecting selections).Wraps (feedSelecting [.inline plainFragment selections]) := by
  have whole : Selection.Wraps ([] ++ selections ++ []) [.inline plainFragment selections] :=
    .here rfl rfl
  rw [List.append_nil] at whole
  exact @Definition.Wraps.operation (feedSelecting selections) [] [] _ _ _ rfl rfl
    (@Selection.Wraps.field [] [] _ _ _ whole)

end Sample

/-- With validation a limit is still missing, without it the page info is still
generated. -/
theorem Definition.wrappedQuery_built :
    Relation.ReflTransGen Wraps Sample.endlessQuery Sample.wrappedQuery ∧
      (∃ root, Sample.wrappedQuery.build Sample.viewerSchema (Sample.options false) = .ok root) ∧
      ¬ ∃ root, Sample.wrappedQuery.build Sample.viewerSchema (Sample.options true) =
        .ok root := by
  have wraps : Relation.ReflTransGen Wraps Sample.endlessQuery Sample.wrappedQuery :=
    .tail (.single (Sample.wraps_feedSelecting [.field (Build.bareField "edges") []]))
      (Sample.wraps_feedSelecting _)
  have accepted : (Sample.endlessQuery.build Sample.viewerSchema
      (Sample.options false)).isOk = true := by decide +kernel
  have refused : (Sample.endlessQuery.build Sample.viewerSchema
      (Sample.options true)).isOk = false := by decide +kernel
  refine ⟨wraps, (Definition.build_wrapped wraps).mp ?_, fun built => ?_⟩
  · exact exists_of_isOk accepted
  · obtain ⟨root, built⟩ := (Definition.build_wrapped wraps).mpr built
    rw [built] at refused
    cases refused

end QueryTree
