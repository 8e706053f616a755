import Mathlib.Algebra.Order.Group.Multiset
import Mathlib.Data.List.Induction
import Mathlib.Tactic.Abel
import QueryTree.Proofs.Normal.Accepted
import QueryTree.Proofs.Normal.Clash
import QueryTree.Proofs.Normal.Variables

/-!
# The tables of a normal form are exact

The slots of a normal form have the names of its spreads, each once and in order of
first appearance.  A slot tells what the first spread of its name asks for, and its
mask is that of the last one.  The variables are those of the values that are kept or
bound, again each once and in order of first appearance.
-/

namespace QueryTree

/-! ## Order of first appearance -/

namespace Tables

variable (names : List String)

theorem eraseDups_concat (name : String) :
    (names ++ [name]).eraseDups = note names.eraseDups name := by
  have isKnown : name ∈ names.eraseDups ↔ name ∈ names := List.mem_eraseDups
  rw [List.eraseDups_append, note]
  by_cases known : name ∈ names
  · rw [if_pos (isKnown.mpr known)]
    simp [List.removeAll, known]
  · rw [if_neg (mt isKnown.mp known)]
    simp [List.removeAll, known, List.eraseDups_cons]

/-- What is noted step by step is listed in order of first appearance. -/
theorem foldl_note_eq_eraseDups : names.foldl note [] = names.eraseDups := by
  induction names using List.reverseRecOn with
  | nil => rfl
  | append_singleton names name ih =>
    rw [List.foldl_append, ih, eraseDups_concat, List.foldl_cons, List.foldl_nil]

theorem nodup_eraseDups : names.eraseDups.Nodup := by
  rw [← foldl_note_eq_eraseDups]
  exact nodup_foldl_note List.nodup_nil names

end Tables

/-! ## Masks -/

/-- The truth of a value that is written as a boolean. -/
def Value.boolean? : Value → Option Bool
  | .boolean truth _ => some truth
  | _ => none

/-- The mask that an argument asks for. -/
def Argument.mask? (argument : Argument) : Option Bool :=
  if argument.name = "mask" then argument.value.boolean? else none

/-- Whether a spread of this mode masks its fragment. -/
def SpreadMode.masked : SpreadMode → Bool
  | .plain masked => masked
  | .bound _ => true

namespace Spread

/-- Whether a spread masks its fragment: the last mask of its `@relay` tells, and
without one it does. -/
def masked (spread : Spread) : Bool :=
  (((Directive.find? relayName spread.directives).elim [] (·.arguments)).filterMap
    Argument.mask?).getLast?.getD true

theorem eq_getLast?_of_mask {spread : Spread} {start masked : Bool} {arguments : List Argument}
    (accepted : spread.mask start arguments = .ok masked) :
    masked = (arguments.filterMap Argument.mask?).getLast?.getD start := by
  induction arguments generalizing start with
  | nil =>
    cases accepted
    rfl
  | cons argument arguments ih =>
    rw [mask] at accepted
    split at accepted
    case isFalse => cases accepted
    case isTrue named =>
        split at accepted
        · next truth position isTruth =>
            have isMask : Argument.mask? argument = some truth := by
              rw [Argument.mask?, if_pos named, isTruth]
              rfl
            rw [List.filterMap_cons, isMask, List.getLast?_cons, Option.getD_some]
            exact ih accepted
        · cases accepted

theorem masked_of_mode {spread : Spread} {mode : SpreadMode} (accepted : spread.mode = .ok mode) :
    spread.masked = mode.masked := by
  obtain ⟨none, rfl⟩ | ⟨directive, only, ⟨binds, rfl⟩ | ⟨relays, masked, isMasked, rfl⟩⟩ :=
    mode_cases accepted
  · simp [Spread.masked, none, Directive.find?, SpreadMode.masked]
  · have unmasked : directive.name ≠ relayName := by
      rw [binds]
      decide
    simp [Spread.masked, only, Directive.find?, unmasked, SpreadMode.masked]
  · rw [SpreadMode.masked, eq_getLast?_of_mask isMasked]
    simp [Spread.masked, only, Directive.find?, relays]

end Spread

/-! ## Slots -/

namespace Slot

/-- Whether a slot tells all that a spread asks for. -/
structure Answers (slot : Slot) (spread : Spread) : Prop where
  fragment : slot.fragment = spread.name
  arguments : slot.arguments = spread.bindings?
  masked : slot.masked = spread.masked
  position : slot.position = spread.position

/-- Whether a slot has the fragment, the bindings and the position of the first spread
of its name, and the mask of the last one. -/
structure Records (slot : Slot) (named : List (String × Spread)) : Prop where
  first : ∃ spread, named.lookup slot.name = some spread ∧ slot.fragment = spread.name ∧
    slot.arguments = spread.bindings? ∧ slot.position = spread.position
  last : ∃ spread, named.reverse.lookup slot.name = some spread ∧ slot.masked = spread.masked

variable {slot : Slot} {named : List (String × Spread)} {spread : Spread}

/-- A spread of another name does not concern a slot. -/
theorem Records.other (records : slot.Records named) {name : String} (other : slot.name ≠ name) :
    slot.Records (named ++ [(name, spread)]) := by
  obtain ⟨⟨first, isFirst, asFirst⟩, last, isLast, asLast⟩ := records
  constructor
  · refine ⟨first, ?_, asFirst⟩
    rw [List.lookup_append, isFirst, Option.some_or]
  · refine ⟨last, ?_, asLast⟩
    rw [List.reverse_append, List.reverse_singleton, List.singleton_append, List.lookup_cons,
      beq_false_of_ne other]
    exact isLast

/-- A further spread of its name gives a slot its mask. -/
theorem Records.again (records : slot.Records named) :
    { slot with masked := spread.masked }.Records (named ++ [(slot.name, spread)]) := by
  obtain ⟨first, isFirst, asFirst⟩ := records.first
  constructor
  · refine ⟨first, ?_, asFirst⟩
    rw [List.lookup_append, isFirst, Option.some_or]
  · refine ⟨spread, ?_, rfl⟩
    rw [List.reverse_append, List.reverse_singleton, List.singleton_append, List.lookup_cons_self]

/-- The first spread of its name gives a slot all it tells. -/
theorem Answers.records (answers : slot.Answers spread) (unknown : slot.name ∉ named.map (·.1)) :
    slot.Records (named ++ [(slot.name, spread)]) := by
  have notFound : named.lookup slot.name = none := by
    rw [List.lookup_eq_none_iff]
    intro entry member
    rw [bne_iff_ne]
    rintro same
    exact unknown (List.mem_map.mpr ⟨entry, member, same.symm⟩)
  constructor
  · refine ⟨spread, ?_, answers.fragment, answers.arguments, answers.position⟩
    rw [List.lookup_append, notFound, Option.none_or, List.lookup_cons_self]
  · refine ⟨spread, ?_, answers.masked⟩
    rw [List.reverse_append, List.reverse_singleton, List.singleton_append, List.lookup_cons_self]

end Slot

namespace Tables

/-- Whether the slots are those of named spreads: each name once, in order of first
appearance. -/
structure Records (tables : Tables) (named : List (String × Spread)) : Prop where
  names : tables.slotNames = (named.map (·.1)).eraseDups
  slots : ∀ slot ∈ tables.slots, slot.Records named

variable {tables next : Tables} {named : List (String × Spread)} {spread : Spread} {slot : Slot}

theorem Records.congr (records : tables.Records named) (same : next.slots = tables.slots) :
    next.Records named where
  names := by
    rw [slotNames, same]
    exact records.names
  slots := by
    rw [same]
    exact records.slots

theorem Records.addSlot (records : tables.Records named) (answers : slot.Answers spread) :
    (tables.addSlot slot).Records (named ++ [(slot.name, spread)]) where
  names := by
    rw [slotNames_addSlot, List.map_append, List.map_singleton, eraseDups_concat, records.names]
    rfl
  slots := by
    intro other member
    unfold Tables.addSlot at member
    split at member
    next =>
      -- Only the slot of the same name takes over the mask.
      obtain ⟨known, isKnown, rfl⟩ := List.mem_map.mp member
      have recorded := records.slots known isKnown
      by_cases same : known.name = slot.name
      · rw [if_pos same, answers.masked, ← same]
        exact recorded.again
      · rw [if_neg same]
        exact recorded.other same
    next new =>
      rcases List.mem_append.mp member with isKnown | isNew
      · apply (records.slots other isKnown).other
        intro same
        exact new (List.any_eq_true.mpr ⟨other, isKnown, decide_eq_true same⟩)
      · rw [List.mem_singleton.mp isNew]
        apply answers.records
        rw [← List.mem_eraseDups, ← records.names]
        intro isKnown
        obtain ⟨known, isSlot, same⟩ := List.mem_map.mp isKnown
        exact new (List.any_eq_true.mpr ⟨known, isSlot, decide_eq_true same⟩)

theorem answers_of_addSpread (added : Normal.addSpread spread tables = .ok (slot, next)) :
    slot.Answers spread := by
  obtain ⟨mode, accepted, added⟩ := exists_of_bind_eq_ok added
  have bindings := Spread.bindings?_of_mode accepted
  have masked := Spread.masked_of_mode accepted
  cases mode with
  | plain truth | bound arguments =>
    cases added
    exact ⟨rfl, bindings.symm, masked.symm, rfl⟩

/-- Normalizing keeps the slots of the spreads that were met.  The counts come along,
since they tell the names of further slots. -/
theorem tracks_records :
    Tracks fun tables met _ => tables.Follows met ∧ tables.Records (Spread.entries [] met) where
  arguments arguments := by
    rintro ⟨follows, records⟩
    exact ⟨follows.addArguments arguments, records.congr (addArguments_slots_counts _ arguments).1⟩
  spread {tables next met made spread slot} := by
    rintro ⟨follows, records⟩ added
    obtain ⟨named, followed⟩ := follows.addSpread added
    refine ⟨followed, ?_⟩
    rw [Spread.entries_append, List.nil_append, Spread.entries, Spread.entries, ← named]
    exact (records.addSlot (answers_of_addSpread added)).congr (slots_addSpread added)

end Tables

namespace Definition

variable {definition : Definition} {form : NormalForm}

/-- The spreads of a definition as they are written, each under its name in a normal
form. -/
def namedSpreads (definition : Definition) (form : NormalForm) : List (String × Spread) :=
  (definition.spreadPairs form).map fun pair => (pair.2.name, pair.1)

/-- The slots of a normal form are those of the spreads under their names in it. -/
theorem records_of_normalize (normal : definition.normalize = .ok form) :
    ∃ tables : Tables, tables.Records (definition.namedSpreads form) ∧
      form.slots = tables.slots := by
  have start : Tables.empty.Records [] := ⟨rfl, fun _ member => (List.not_mem_nil member).elim⟩
  obtain ⟨tables, ⟨-, records⟩, slots⟩ :=
    tracked_of_normalize Tables.tracks_records ⟨Tables.follows_empty, start⟩ normal
  rw [← spreadPairs_entries normal] at records
  exact ⟨tables, records, slots⟩

/-- The slots of a normal form have the names of its spreads, in order of first
appearance. -/
theorem slotNames_of_normalize (normal : definition.normalize = .ok form) :
    form.slots.map (·.name) =
      ((Selection.spreads form.definition.selections).map (·.name)).eraseDups := by
  obtain ⟨tables, records, slots⟩ := records_of_normalize normal
  have names : (definition.namedSpreads form).map (·.1) =
      (Selection.spreads form.definition.selections).map (·.name) := by
    rw [namedSpreads, spreadPairs_entries normal, (slots_of_normalize normal).1]
  rw [slots, ← names]
  exact records.names

/-- The slots of a normal form are listed by their names, each once and in order of
first appearance.  A slot has the fragment, the bindings and the position of the first
spread of its name, and the mask of the last one. -/
theorem normalize_slots_exact (normal : definition.normalize = .ok form) :
    (form.slots.map (·.name)).Nodup ∧
      form.slots.map (·.name) =
        ((Selection.spreads form.definition.selections).map (·.name)).eraseDups ∧
      (Selection.spreads form.definition.selections).length =
        (Selection.spreads definition.selections).length ∧
      ∀ slot ∈ form.slots, slot.Records (definition.namedSpreads form) := by
  refine ⟨nodup_slots normal, slotNames_of_normalize normal, length_spreads_normalize normal, ?_⟩
  obtain ⟨tables, records, slots⟩ := records_of_normalize normal
  rw [slots]
  exact records.slots

end Definition

namespace Sample

/-- An argument that is a variable. -/
def reference (name variableName : String) : Argument :=
  ⟨name, .variable variableName .unknown, .unknown⟩

/-- The size of a photo, with two variables in an object. -/
def photoSize : Argument :=
  ⟨"size", .object [reference "width" "width", reference "height" "height"] .unknown,
    .unknown⟩

/-- A fragment with directives of all kinds that spreads a fragment twice with
arguments and another one twice without. -/
def albumFragment : Definition where
  kind := .fragment
  name := "Album"
  condition := "User"
  variableDefinitions := []
  directives :=
    [⟨argumentDefinitionsName, [reference "size" "declared"], .unknown⟩,
      ⟨connectionName, [reference "key" "hidden"], .unknown⟩,
      ⟨"marked", [⟨"by", .list [.variable "height" .unknown, .variable "count" .unknown] .unknown,
        .unknown⟩], .unknown⟩]
  selections :=
    [.field ⟨some "pals", "friends", [reference "first" "count"],
        [⟨connectionName, [reference "key" "hidden"], .unknown⟩,
          ⟨"include", [reference "if" "shown"], .unknown⟩], ⟨2, 3, ""⟩⟩
        [.spread ⟨"Photo", [⟨argumentsName, [photoSize], .unknown⟩], ⟨3, 5, ""⟩⟩,
          .inline ⟨none, [⟨connectionName, [], .unknown⟩], ⟨4, 5, ""⟩⟩
            [.spread ⟨"Title", [], ⟨4, 11, ""⟩⟩]],
      .spread ⟨"Photo", [⟨argumentsName, [], .unknown⟩], ⟨6, 3, ""⟩⟩,
      .spread ⟨"Title", [⟨relayName, [⟨"mask", .boolean true .unknown, .unknown⟩,
        ⟨"mask", .boolean false .unknown, .unknown⟩], .unknown⟩], ⟨7, 3, ""⟩⟩]
  position := ⟨1, 1, ""⟩

/-- The normal form of that fragment. -/
def albumForm : NormalForm where
  definition :=
    { albumFragment with
      directives := [⟨"marked", [⟨"by", .list [.variable "height" .unknown,
        .variable "count" .unknown] .unknown, .unknown⟩], .unknown⟩]
      selections :=
        [.field ⟨some "pals", "friends", [reference "first" "count"],
            [⟨"include", [reference "if" "shown"], .unknown⟩], ⟨2, 3, ""⟩⟩
            [.spread ⟨"Photo_args1", [], ⟨3, 5, ""⟩⟩,
              .inline ⟨none, [], ⟨4, 5, ""⟩⟩ [.spread ⟨"Title", [], ⟨4, 11, ""⟩⟩]],
          .spread ⟨"Photo_args2", [], ⟨6, 3, ""⟩⟩, .spread ⟨"Title", [], ⟨7, 3, ""⟩⟩] }
  slots :=
    [⟨"Photo_args1", "Photo", some [photoSize], true, ⟨3, 5, ""⟩⟩,
      ⟨"Title", "Title", none, false, ⟨4, 11, ""⟩⟩,
      ⟨"Photo_args2", "Photo", some [], true, ⟨6, 3, ""⟩⟩]
  variableNames := ["height", "count", "shown", "width"]
  argumentDefinitions := [reference "size" "declared"]

theorem albumFragment_normal : albumFragment.normalize = .ok albumForm := rfl

end Sample

namespace Definition

/-- The slot of `Title` has the place of the first spread and the mask of the second. -/
theorem albumFragment_slots_exact : Sample.albumFragment.normalize = .ok Sample.albumForm ∧
    (Sample.albumForm.slots.map (·.name)).Nodup ∧
      Sample.albumForm.slots.map (·.name) =
        ((Selection.spreads Sample.albumForm.definition.selections).map (·.name)).eraseDups ∧
      (Selection.spreads Sample.albumForm.definition.selections).length =
        (Selection.spreads Sample.albumFragment.selections).length ∧
      ∀ slot ∈ Sample.albumForm.slots,
        slot.Records (Sample.albumFragment.namedSpreads Sample.albumForm) :=
  ⟨Sample.albumFragment_normal, normalize_slots_exact Sample.albumFragment_normal⟩

end Definition

/-! ## Variables -/

/-- Directives with a property and those without it have all values. -/
theorem Directive.valuesOf_partition (property : Directive → Bool) (directives : List Directive) :
    (valuesOf (directives.filter property) : Multiset Value) +
      valuesOf (directives.filter fun directive => !property directive) = valuesOf directives := by
  rw [Multiset.coe_add, ← valuesOf_append, Multiset.coe_eq_coe]
  exact (List.filter_append_perm property directives).flatMap_right _

namespace Selection

mutual

/-- The values in a selection whose variables are not noted: those of `@connection`, and
those of a directive of a spread that binds nothing. -/
def dropped : Selection → List Value
  | .field head selections =>
    Directive.valuesOf (head.directives.filter (·.name = connectionName)) ++
      droppedOf selections
  | .spread head => Directive.valuesOf (head.directives.filter (·.name ≠ argumentsName))
  | .inline head selections =>
    Directive.valuesOf (head.directives.filter (·.name = connectionName)) ++
      droppedOf selections

/-- The values in selections whose variables are not noted. -/
def droppedOf : List Selection → List Value
  | [] => []
  | selection :: selections => dropped selection ++ droppedOf selections

end

end Selection

/-- The values of an accepted spread are bound or dropped. -/
theorem Spread.Accepted.boundValues_append {spread : Spread} (accepted : spread.Accepted) :
    spread.boundValues ++
        Directive.valuesOf (spread.directives.filter (·.name ≠ argumentsName)) =
      Directive.valuesOf spread.directives := by
  obtain none | ⟨directive, only, binds | ⟨relays, -⟩⟩ := accepted
  · simp [Spread.boundValues, Spread.bindings?, none, Directive.find?]
  · simp [Spread.boundValues, Spread.bindings?, only, Directive.find?, Directive.valuesOf, binds]
  · have unbound : directive.name ≠ argumentsName := by
      rw [relays]
      decide
    simp [Spread.boundValues, Spread.bindings?, only, Directive.find?, Directive.valuesOf, unbound]

namespace Selection

/-- Each value in selections with accepted spreads is noted or dropped. -/
theorem valuesOf_eq_noted_add (selections : List Selection)
    (accepted : ∀ spread ∈ spreads selections, spread.Accepted) :
    (notedOf selections : Multiset Value) + droppedOf selections = valuesOf selections := by
  have partition := Directive.valuesOf_partition fun directive => directive.name ≠ connectionName
  simp only [ne_eq, decide_not, Bool.not_not] at partition
  induction selections using Selection.inductionAll with
  | nil => rfl
  | field head inner rest ofInner ofRest =>
    rw [spreads, spreadsOf, List.forall_mem_append] at accepted
    simp only [notedOf, droppedOf, valuesOf, noted, dropped, values, Field.values,
      Normal.keptDirectives, ne_eq, decide_not, ← Multiset.coe_add]
    rw [← ofInner accepted.1, ← ofRest accepted.2, ← partition head.directives]
    abel
  | spread head rest ofRest =>
    rw [spreads, spreadsOf, List.forall_mem_append, List.forall_mem_singleton] at accepted
    simp only [notedOf, droppedOf, valuesOf, noted, dropped, values, ← Multiset.coe_add]
    rw [← ofRest accepted.2, ← accepted.1.boundValues_append, ← Multiset.coe_add]
    abel
  | inline head inner rest ofInner ofRest =>
    rw [spreads, spreadsOf, List.forall_mem_append] at accepted
    simp only [notedOf, droppedOf, valuesOf, noted, dropped, values, Normal.keptDirectives, ne_eq,
      decide_not, ← Multiset.coe_add]
    rw [← ofInner accepted.1, ← ofRest accepted.2, ← partition head.directives]
    abel

end Selection

namespace Definition

variable {definition : Definition} {form : NormalForm}

/-- The values in a definition whose variables are not noted, apart from the default
values of its own variables. -/
def dropped (definition : Definition) : List Value :=
  Directive.valuesOf (definition.directives.filter fun directive =>
    directive.name = connectionName ∨ directive.name = argumentDefinitionsName) ++
      Selection.droppedOf definition.selections

/-- Each value in an accepted definition is noted or dropped. -/
theorem Accepted.noted_append_dropped (accepted : definition.Accepted) :
    (definition.noted ++ definition.dropped).Perm definition.values := by
  have below := Selection.valuesOf_eq_noted_add _ accepted.spreads
  have partition := Directive.valuesOf_partition (fun directive =>
    !decide (directive.name = connectionName ∨ directive.name = argumentDefinitionsName))
    definition.directives
  have kept : Normal.keptOnDefinition definition.directives =
      definition.directives.filter fun directive =>
        !decide (directive.name = connectionName ∨ directive.name = argumentDefinitionsName) := by
    rw [Normal.keptOnDefinition, Normal.keptDirectives, List.filter_filter]
    refine List.filter_congr fun directive _ => ?_
    simp [Bool.and_comm]
  simp only [Bool.not_not] at partition
  rw [← Multiset.coe_eq_coe]
  simp only [noted, dropped, values, kept, ← Multiset.coe_add]
  rw [← below, ← partition]
  abel

/-- The variables of a normal form are listed once each, in order of first appearance
among the parts of the values that are noted.  All other values are dropped: a variable
that occurs in those alone, or in default values, is not listed. -/
theorem normalize_variables_exact (normal : definition.normalize = .ok form) :
    form.variableNames.Nodup ∧
      form.variableNames =
        ((definition.noted.flatMap Value.parts).filterMap Value.variableName?).eraseDups ∧
      (definition.noted ++ definition.dropped).Perm definition.values ∧
      ∀ name, name ∈ form.variableNames ↔
        ∃ value ∈ definition.noted, name ∈ value.variableNames := by
  have names : form.variableNames = (definition.noted.flatMap Value.variableNames).eraseDups := by
    rw [(notes_of_normalize normal).1, Tables.noteAll, Tables.foldl_note_eq_eraseDups]
  have parts : definition.noted.flatMap Value.variableNames =
      (definition.noted.flatMap Value.parts).filterMap Value.variableName? := by
    rw [List.filterMap_flatMap]
    exact congrArg definition.noted.flatMap (funext Value.variableNames_eq_filterMap)
  have accepted := definition.normalize_governs.succeeds_iff.mp ⟨form, normal⟩
  refine ⟨?_, ?_, accepted.noted_append_dropped, fun name => ?_⟩
  · rw [names]
    exact Tables.nodup_eraseDups _
  · rw [names, parts]
  · rw [names, List.mem_eraseDups, List.mem_flatMap]

/-- The variables of the dropped directives are not listed. -/
theorem albumFragment_variables_exact : Sample.albumFragment.normalize = .ok Sample.albumForm ∧
    Sample.albumForm.variableNames.Nodup ∧
      Sample.albumForm.variableNames =
        ((Sample.albumFragment.noted.flatMap Value.parts).filterMap
          Value.variableName?).eraseDups ∧
      (Sample.albumFragment.noted ++ Sample.albumFragment.dropped).Perm
        Sample.albumFragment.values ∧
      ∀ name, name ∈ Sample.albumForm.variableNames ↔
        ∃ value ∈ Sample.albumFragment.noted, name ∈ value.variableNames :=
  ⟨Sample.albumFragment_normal, normalize_variables_exact Sample.albumFragment_normal⟩

end Definition

end QueryTree
