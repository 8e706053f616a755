import QueryTree.Proofs.Normal.Exact

/-!
# What normalizing rewrites

A normal form differs from the definition in its directives and its spreads alone:
`@connection` is dropped everywhere and `@argumentDefinitions` from the definition,
spreads lose their directives, and a spread with arguments is numbered among those of
its fragment.  So a normal form is its own normal form.
-/

namespace QueryTree

/-! ## Selections with other directives and other spreads -/

namespace Selection

mutual

/-- A selection with the directives of its fields and inline fragments and with its
spreads changed, at any depth. -/
def revised (directives : List Directive → List Directive) (spread : Spread → Spread) :
    Selection → Selection
  | .field head selections =>
    .field { head with directives := directives head.directives }
      (revisedAll directives spread selections)
  | .spread head => .spread (spread head)
  | .inline head selections =>
    .inline { head with directives := directives head.directives }
      (revisedAll directives spread selections)

/-- Selections with directives and spreads changed, at any depth. -/
def revisedAll (directives : List Directive → List Directive) (spread : Spread → Spread) :
    List Selection → List Selection
  | [] => []
  | selection :: selections =>
    revised directives spread selection :: revisedAll directives spread selections

end

section

variable (directives directives' : List Directive → List Directive)
  (spread spread' : Spread → Spread)

theorem revisedAll_eq_map (selections : List Selection) :
    revisedAll directives spread selections = selections.map (revised directives spread) :=
  eq_map_of_cons rfl fun _ _ => rfl

theorem revised_revised (selection : Selection) :
    (selection.revised directives' spread').revised directives spread =
      selection.revised (directives ∘ directives') (spread ∘ spread') := by
  induction selection using Selection.induction with
  | field head selections ih | inline head selections ih =>
    simp only [revised, revisedAll_eq_map, List.map_map, Function.comp_apply]
    congr 1
    exact List.map_congr_left ih
  | spread head => rfl

theorem spreadsOf_revised (selection : Selection) :
    (selection.revised directives spread).spreadsOf = selection.spreadsOf.map spread := by
  induction selection using Selection.induction with
  | field head selections ih | inline head selections ih =>
    simp only [revised, revisedAll_eq_map, spreadsOf, spreads_eq_flatMap, List.flatMap_map,
      List.map_flatMap]
    rw [List.flatMap_def, List.flatMap_def, List.map_congr_left ih]
  | spread head => rfl

end

/-- Selections without `@connection`. -/
def unconnected (selections : List Selection) : List Selection :=
  revisedAll (List.filter (·.name ≠ connectionName)) id selections

/-- Selections with blank spreads, of which only the positions remain. -/
def blank (selections : List Selection) : List Selection :=
  revisedAll id (fun spread => ⟨"", [], spread.position⟩) selections

theorem revisedAll_revisedAll (directives directives' : List Directive → List Directive)
    (spread spread' : Spread → Spread) (selections : List Selection) :
    revisedAll directives spread (revisedAll directives' spread' selections) =
      revisedAll (directives ∘ directives') (spread ∘ spread') selections := by
  simp only [revisedAll_eq_map, List.map_map, Function.comp_def, revised_revised]

/-- What spreads are replaced by does not matter for what is selected beside them. -/
theorem unconnected_blank (selections : List Selection) :
    unconnected (blank selections) = blank (unconnected selections) := by
  simp only [unconnected, blank, revisedAll_revisedAll, Function.id_comp, Function.comp_id]

theorem unconnected_unconnected (selections : List Selection) :
    unconnected (unconnected selections) = unconnected selections := by
  have idempotent : List.filter (α := Directive) (·.name ≠ connectionName) ∘
      List.filter (·.name ≠ connectionName) = List.filter (·.name ≠ connectionName) := by
    funext directives
    simp only [Function.comp_apply, List.filter_filter, Bool.and_self]
  simp only [unconnected, revisedAll_revisedAll, idempotent, Function.comp_id]

/-! ### Selections from their blank form and their spreads -/

variable {lefts rights : List Selection}

theorem eq_of_blank_eq_of_each (each : ∀ left ∈ lefts, ∀ right, blank [left] = blank [right] →
      left.spreadsOf = right.spreadsOf → left = right) (sameBlank : blank lefts = blank rights)
    (sameSpreads : spreads lefts = spreads rights) : lefts = rights := by
  induction lefts generalizing rights with
  | nil =>
    cases rights with
    | nil => rfl
    | cons right rights => simp [blank, revisedAll] at sameBlank
  | cons left lefts ih =>
    cases rights with
    | nil => simp [blank, revisedAll] at sameBlank
    | cons right rights =>
      simp only [blank, revisedAll, List.cons.injEq] at sameBlank
      -- The blank form tells how many spreads belong to the first selection.
      have sameLength : left.spreadsOf.length = right.spreadsOf.length := by
        have spreads := congrArg (fun selection => selection.spreadsOf.length) sameBlank.1
        simpa [spreadsOf_revised] using spreads
      obtain ⟨ofFirst, ofOthers⟩ := List.append_inj sameSpreads sameLength
      congr 1
      · apply each left List.mem_cons_self right _ ofFirst
        simp only [blank, revisedAll, sameBlank.1]
      · exact ih (List.forall_mem_cons.mp each).2 sameBlank.2 ofOthers

theorem eq_of_blank_singleton (left : Selection) : ∀ right, blank [left] = blank [right] →
    left.spreadsOf = right.spreadsOf → left = right := by
  induction left using Selection.induction with
  | field head selections ih =>
    intro right sameBlank sameSpreads
    cases right with
    | field other others =>
      simp only [blank, revisedAll, revised, List.cons.injEq, Selection.field.injEq] at sameBlank
      rw [eq_of_blank_eq_of_each ih sameBlank.1.2 sameSpreads]
      congr 1
      exact sameBlank.1.1
    | spread other | inline other others => simp [blank, revisedAll, revised] at sameBlank
  | spread head =>
    intro right sameBlank sameSpreads
    cases right with
    | spread other =>
      simp only [spreadsOf, List.cons.injEq, and_true] at sameSpreads
      rw [sameSpreads]
    | field other others | inline other others => simp [blank, revisedAll, revised] at sameBlank
  | inline head selections ih =>
    intro right sameBlank sameSpreads
    cases right with
    | inline other others =>
      simp only [blank, revisedAll, revised, List.cons.injEq, Selection.inline.injEq] at sameBlank
      rw [eq_of_blank_eq_of_each ih sameBlank.1.2 sameSpreads]
      congr 1
      exact sameBlank.1.1
    | spread other | field other others => simp [blank, revisedAll, revised] at sameBlank

/-- Selections are told by their blank form and their spreads. -/
theorem eq_of_blank_eq (sameBlank : blank lefts = blank rights)
    (sameSpreads : spreads lefts = spreads rights) : lefts = rights :=
  eq_of_blank_eq_of_each (fun left _ => eq_of_blank_singleton left) sameBlank sameSpreads

end Selection

/-! ## Spreads in a normal form -/

namespace Spread

/-- Spreads as a normal form has them: without directives, and one with arguments under
the name of its fragment with its number among those of the fragment. -/
def renamed (spreads : List Spread) : List Spread :=
  spreads.mapIdx fun index spread =>
    ⟨slotName (spreads.take index) spread, [], spread.position⟩

theorem map_entries (earlier spreads : List Spread) :
    ((entries earlier spreads).map fun entry => (⟨entry.1, [], entry.2.position⟩ : Spread)) =
      spreads.mapIdx fun index spread =>
        ⟨slotName (earlier ++ spreads.take index) spread, [], spread.position⟩ := by
  induction spreads generalizing earlier with
  | nil => rfl
  | cons spread spreads ih =>
    rw [entries, List.map_cons, ih, List.mapIdx_cons]
    simp only [List.take_zero, List.append_nil, List.take_succ_cons, List.append_assoc,
      List.singleton_append]

variable {spreads : List Spread} {spread : Spread}

/-- Spreads are told by their names, directives and positions. -/
theorem eq_map_of_bare {named : List (String × Spread)}
    (names : spreads.map (·.name) = named.map (·.1))
    (positions : spreads.map (·.position) = named.map (·.2.position))
    (bare : ∀ spread ∈ spreads, spread.directives = []) :
    spreads = named.map fun entry => ⟨entry.1, [], entry.2.position⟩ := by
  induction spreads generalizing named with
  | nil =>
    cases named with
    | nil => rfl
    | cons entry named => simp at names
  | cons spread spreads ih =>
    cases named with
    | nil => simp at names
    | cons entry named =>
      simp only [List.map_cons, List.cons.injEq] at names positions
      rw [List.forall_mem_cons] at bare
      rw [List.map_cons, ← ih names.2 positions.2 bare.2, ← names.1, ← positions.1, ← bare.1]

theorem slotName_of_bare (bare : spread.directives = []) (earlier : List Spread) :
    slotName earlier spread = spread.name := by
  simp [slotName, bindings?, bare, Directive.find?]

theorem renamed_of_bare (bare : ∀ spread ∈ spreads, spread.directives = []) :
    renamed spreads = spreads := by
  apply List.ext_getElem
  · simp [renamed]
  · intro index inRenamed inSpreads
    have isBare := bare _ (List.getElem_mem inSpreads)
    have isRenamed : (renamed spreads)[index] =
        ⟨slotName (spreads.take index) spreads[index], [], spreads[index].position⟩ := by
      simp [renamed]
    rw [isRenamed, slotName_of_bare isBare, ← isBare]

theorem bare_of_mem_renamed (member : spread ∈ renamed spreads) : spread.directives = [] := by
  obtain ⟨index, inSpreads, rfl⟩ := List.mem_mapIdx.mp member
  rfl

end Spread

/-! ## Normalizing -/

namespace Normal

/-- Normalizing changes directives and spreads alone. -/
theorem Normalizes.blank {inner normal : List Selection} {tables next : Tables}
    (run : Normalizes tables inner normal next) :
    Selection.blank normal = Selection.blank (Selection.unconnected inner) := by
  induction run with
  | nil tables => rfl
  | field below after ofBelow ofAfter | inline below after ofBelow ofAfter =>
    simp only [Selection.blank, Selection.unconnected] at ofBelow ofAfter
    simp only [Selection.blank, Selection.unconnected, Selection.revisedAll, Selection.revised,
      ofBelow, ofAfter]
    rfl
  | spread added after ofAfter => exact congrArg (List.cons _) ofAfter

end Normal

/-! ## Definitions -/

namespace Definition

/-- Whether a definition is another one with the directives and the spreads of a normal
form, and with nothing else changed. -/
structure Rewrites (definition result : Definition) : Prop where
  head : result = { definition with
    directives := definition.directives.filter fun directive =>
      directive.name ≠ connectionName ∧ directive.name ≠ argumentDefinitionsName
    selections := result.selections }
  selections : Selection.blank result.selections =
    Selection.blank (Selection.unconnected definition.selections)
  spreads : Selection.spreads result.selections =
    Spread.renamed (Selection.spreads definition.selections)

namespace Rewrites

variable {definition result other : Definition}

/-- A definition is rewritten in one way. -/
theorem unique (ofResult : definition.Rewrites result) (ofOther : definition.Rewrites other) :
    other = result := by
  have same : other.selections = result.selections :=
    Selection.eq_of_blank_eq (ofOther.selections.trans ofResult.selections.symm)
      (ofOther.spreads.trans ofResult.spreads.symm)
  rw [ofOther.head, ofResult.head, same]

variable (rewrites : definition.Rewrites result)

include rewrites

theorem bare : ∀ spread ∈ Selection.spreads result.selections, spread.directives = [] := by
  rw [rewrites.spreads]
  exact fun spread => Spread.bare_of_mem_renamed

theorem directives :
    result.directives = definition.directives.filter fun directive =>
      directive.name ≠ connectionName ∧ directive.name ≠ argumentDefinitionsName := by
  rw [rewrites.head]

/-- A rewritten definition stays as it is. -/
theorem again : result.Rewrites result where
  head := by
    have kept : (result.directives.filter fun directive => directive.name ≠ connectionName ∧
        directive.name ≠ argumentDefinitionsName) = result.directives := by
      rw [rewrites.directives, List.filter_filter]
      simp only [Bool.and_self]
    rw [kept]
  selections := by
    rw [← Selection.unconnected_blank, rewrites.selections, Selection.unconnected_blank,
      Selection.unconnected_unconnected]
  spreads := (Spread.renamed_of_bare rewrites.bare).symm

/-- A rewritten definition is accepted. -/
theorem accepted : result.Accepted where
  declarations := by
    have none : result.declarations = [] := by
      rw [declarations, rewrites.directives, List.filter_filter, List.filter_eq_nil_iff]
      intro directive _ kept
      simp only [Bool.and_eq_true, decide_eq_true_eq] at kept
      exact kept.2.2 kept.1
    rw [none]
    exact Nat.zero_le 1
  spreads := fun spread member => .inl (rewrites.bare spread member)

end Rewrites

variable {definition : Definition} {form : NormalForm}

theorem rewrites_of_normalize (normal : definition.normalize = .ok form) :
    definition.Rewrites form.definition := by
  obtain ⟨selections, tables, run, same, _⟩ := exists_of_normalize normal
  constructor
  · rw [same]
    congr 1
    rw [Normal.keptOnDefinition, Normal.keptDirectives, List.filter_filter]
    refine List.filter_congr fun directive _ => ?_
    simp [Bool.and_comm]
  · rw [same]
    exact run.blank
  · obtain ⟨bare, places⟩ := spreads_of_normalize normal
    have positions : (Selection.spreads form.definition.selections).map (·.position) =
        (Spread.entries [] (Selection.spreads definition.selections)).map (·.2.position) := by
      rw [places]
      conv_lhs => rw [← Spread.entries_spreads [] (Selection.spreads definition.selections)]
      rw [List.map_map]
      rfl
    rw [Spread.eq_map_of_bare (slots_of_normalize normal).1 positions bare, Spread.map_entries]
    simp only [List.nil_append]
    rfl

/-- A normal form is the definition with other directives and other spreads, and with
nothing else changed: this tells it completely.  It is its own normal form, with slots of
the same names in the same order. -/
theorem normalize_rewrites (normal : definition.normalize = .ok form) :
    definition.Rewrites form.definition ∧
      (∀ other, definition.Rewrites other → other = form.definition) ∧
      ∃ again, form.definition.normalize = .ok again ∧ again.definition = form.definition ∧
        again.slots.map (·.name) = form.slots.map (·.name) := by
  have rewrites := rewrites_of_normalize normal
  refine ⟨rewrites, fun other ofOther => rewrites.unique ofOther, ?_⟩
  obtain ⟨again, normalAgain⟩ :=
    form.definition.normalize_governs.succeeds_iff.mpr rewrites.accepted
  have same : again.definition = form.definition :=
    rewrites.again.unique (rewrites_of_normalize normalAgain)
  refine ⟨again, normalAgain, same, ?_⟩
  rw [slotNames_of_normalize normalAgain, same, slotNames_of_normalize normal]

/-- The directives of all kinds are dropped, and the spreads of `Photo` are numbered. -/
theorem albumFragment_rewrites : Sample.albumFragment.normalize = .ok Sample.albumForm ∧
    Sample.albumFragment.Rewrites Sample.albumForm.definition ∧
      (∀ other, Sample.albumFragment.Rewrites other → other = Sample.albumForm.definition) ∧
      ∃ again, Sample.albumForm.definition.normalize = .ok again ∧
        again.definition = Sample.albumForm.definition ∧
        again.slots.map (·.name) = Sample.albumForm.slots.map (·.name) :=
  ⟨Sample.albumFragment_normal, normalize_rewrites Sample.albumFragment_normal⟩

end Definition

end QueryTree
