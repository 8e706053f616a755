import QueryTree.Proofs.Build.Bounded

/-!
# Only what is written is at fault

Generated fields are looked up like written ones.  What a node demands is found on
its type, with one exception: the fields that support pages are demanded of every
page info, whether or not it has them.  So a definition fails to be built for nothing
but what is written in it exactly if no field of the schema is a page info without
them.
-/

namespace QueryTree

namespace Schema

/-- Whether every field that is a page info has the fields that support pages. -/
def SupportsPages (schema : Schema) : Prop :=
  ∀ parent name declared, schema.Declares parent → schema.field? parent name = some declared →
    declared.type.isPageInfo = true →
      schema.hasField declared.type schema.names.hasNextPage = true ∧
        schema.hasField declared.type schema.names.hasPreviousPage = true

/-- Whether the fields and types that a build reports to be unknown are written in the
definition. -/
def LookupsAreWritten (schema : Schema) : Prop :=
  ∀ options definition found,
    Definition.build schema options definition = .error (.diagnostic found) →
      found.problem.IsLookup → definition.Misses schema found

/-- Whether whatever a build fails for is written in the definition, unless it goes on
without end. -/
def FaultsAreWritten (schema : Schema) : Prop :=
  ∀ options definition error, Definition.build schema options definition = .error error →
    error = .unbounded ∨ definition.AtFault schema options error

variable {schema : Schema}

/-! ## Fields that are demanded -/

variable {type : SchemaType} {name : String}

/-- Abstract types have the field that names their type. -/
theorem hasField_typeName (ends : schema.EndsInStrings) (isAbstract : type.isAbstract = true) :
    schema.hasField type typeNameField = true := by
  have isComposite : type.isComposite = true := by
    rw [SchemaType.isAbstract] at isAbstract
    rw [SchemaType.isComposite]
    cases isKind : type.declaration.kind with
    | interface | union => rfl
    | scalar | object | enum | inputObject =>
      rw [isKind] at isAbstract
      cases isAbstract
  obtain ⟨declaration, found, _⟩ := ends.bare
  have isString : schema.typeOf? (.named "String" true .unknown) =
      some ⟨declaration, .named "String" true .unknown⟩ := by
    show (schema.declaration? "String").map _ = _
    rw [declaration?, found]
    rfl
  simp [hasField, field?, isComposite, isString]

/-- What a node demands is found on its type if pages are supported. -/
theorem hasField_of_demanded (ends : schema.EndsInStrings) (supports : schema.SupportsPages)
    {kind : NodeKind} {selected : List String} (carries : schema.Carries kind type)
    (demanded : Demanded schema kind type selected name) : schema.hasField type name = true := by
  have ofPage (isField : kind = .field) (page : type.isPageInfo = true) :
      schema.hasField type schema.names.hasNextPage = true ∧
        schema.hasField type schema.names.hasPreviousPage = true := by
    obtain ⟨parent, name, declared, declares, found, rfl⟩ := carries.ofField isField
    exact supports parent name declared declares found page
  cases demanded with
  | id has => exact has
  | typeName isAbstract => exact hasField_typeName ends isAbstract
  | hasNextPage isField page => exact (ofPage isField page).1
  | hasPreviousPage isField page => exact (ofPage isField page).2
  | cursor _ edge =>
    simp only [isEdge, Bool.and_eq_true] at edge
    exact edge.2
  | node _ edge =>
    simp only [isEdge, Bool.and_eq_true] at edge
    exact edge.1.2
  | pageInfo connection => exact hasField_of_isConnection connection
  | clientId _ has => exact has

/-- The fields below a generated field are demanded like all others. -/
theorem Asks.isDemanded {parent : SchemaType} {other : String} {declared : SchemaField}
    (declares : schema.Declares parent) (found : schema.field? parent name = some declared)
    (asks : schema.Asks declared.type type other) : schema.IsDemanded type other := by
  cases asks with
  | below demanded =>
    exact ⟨.field, [], ⟨declares_of_field? found, fun _ => ⟨_, _, _, declares, found, rfl⟩⟩,
      demanded⟩
  | onNode asks =>
    exact ⟨.fragment, _, ⟨declares_of_type? asks.isNode, nofun⟩, asks.demanded⟩

/-- Where pages are supported, fields are generated unless they go on without end. -/
theorem eq_unbounded_of_generationFails (ends : schema.EndsInStrings)
    (supports : schema.SupportsPages) {error : BuildError}
    (fails : Build.GenerationFails schema error) : error = .unbounded := by
  cases fails with
  | @intro context type name origin before _ same demanded unchecked failed =>
    subst same
    have generates : Build.Fails (· = .unbounded) (Build.generator context type name origin) := by
      refine Build.requisiteField_fails context.schema.IsDemanded ?_ ?_ ?_ demanded unchecked _
      · rfl
      · rintro parent name ⟨kind, selected, carries, demanded⟩ unknown
        have has := hasField_of_demanded ends supports carries demanded
        rw [hasField, unknown] at has
        cases has
      · rintro parent name declared type other ⟨_, _, carries, _⟩ found asks
        exact asks.isDemanded carries.declares found
    exact generates before _ failed

theorem faultsAreWritten_of_supportsPages (ends : schema.EndsInStrings)
    (supports : schema.SupportsPages) : schema.FaultsAreWritten := by
  intro options definition error failed
  rcases Definition.failsBy_of_build failed with atFault | generated
  · exact .inr atFault
  · exact .inl (eq_unbounded_of_generationFails ends supports generated)

theorem FaultsAreWritten.lookups (written : schema.FaultsAreWritten) :
    schema.LookupsAreWritten := by
  intro options definition found failed isLookup
  rcases written options definition _ failed with endless | atFault
  · cases endless
  · cases atFault with
    | misses misses => exact misses
    | breaks breaks => exact absurd isLookup breaks.not_isLookup

end Schema

/-! ## Selection sets that were built -/

namespace Build

variable {context : Context} {type : SchemaType} {requisites : Requisites}
  {selections : List Selection} {result : Children}

/-- Below every written field a selection set was built, too. -/
theorem children_field {head : Field} {inner : List Selection}
    (returns : Returns (children context type requisites selections) result)
    (member : .field head inner ∈ selections) :
    ∃ declared below, context.schema.field? type head.name = some declared ∧
      Returns (children context declared.type
        (context.schema.fieldRequisites declared.type inner) inner) below := by
  rw [children_eq] at returns
  obtain ⟨_, _, returns⟩ := returns.of_bind
  obtain ⟨_, _, returns⟩ := returns.of_bind
  obtain ⟨_, areFields, _⟩ := returns.of_bind
  obtain ⟨child, _, isChild⟩ := exists_of_forall₂ areFields.of_mapM
    (Selection.mem_fields.mpr member : ⟨head, inner⟩ ∈ Selection.fields selections)
  obtain ⟨parts⟩ := field_parts isChild
  exact ⟨parts.declared, parts.children, parts.found, parts.isBelow⟩

/-- Every requisite field that is not selected was found. -/
theorem hasField_of_missing {name : String}
    (returns : Returns (children context type requisites selections) result)
    (isRequired : name ∈ context.schema.required type requisites
      ((Selection.fields selections).map (·.field.name)))
    (notSelected : name ∉ (Selection.fields selections).map (·.field.name)) :
    context.schema.hasField type name = true := by
  obtain ⟨_, _, returns⟩ := returns.of_bind
  obtain ⟨_, _, returns⟩ := returns.of_bind
  obtain ⟨_, _, returns⟩ := returns.of_bind
  obtain ⟨others, areOthers, _⟩ := returns.of_bind
  have member : name ∈ missing (context.schema.required type requisites
      ((Selection.fields selections).map (·.field.name)))
        ((Selection.fields selections).map (·.field.name)) :=
    List.mem_filter.mpr ⟨isRequired, by simpa using notSelected⟩
  obtain ⟨child, _, isChild⟩ := exists_of_forall₂ areOthers.of_mapM member
  obtain ⟨parts⟩ := field_parts isChild
  exact Option.isSome_of_eq_some parts.found

end Build

/-! ## A page info without support -/

/-- A fragment that selects a field of a type, and fields below it. -/
def Definition.fragmentOn (condition name : String) (inner : List String) : Definition where
  kind := .fragment
  name := "F"
  condition := condition
  variableDefinitions := []
  directives := []
  selections :=
    [.field (Build.bareField name) (inner.map fun name => .field (Build.bareField name) [])]
  position := .unknown

/-- The choices of a caller who gives up on validation. -/
def BuildOptions.unchecked : BuildOptions := ⟨defaultInputArgument, false, []⟩

namespace Definition

variable {schema : Schema} {parent : SchemaType} {name : String} {inner : List String}
  {declared : SchemaField}
variable {type : SchemaType}
variable (declares : schema.Declares parent) (found : schema.field? parent name = some declared)

include declares found

/-- What is visited in such a fragment. -/
theorem visits_fragmentOn {kind : NodeKind} {selections : List Selection}
    (visited : (fragmentOn parent.name name inner).Visits schema kind type selections) :
    type = parent.bare ∧ selections = (fragmentOn parent.name name inner).selections ∨
      type = declared.type ∧
        selections = inner.map (fun name => .field (Build.bareField name) []) ∨
      selections = [] := by
  induction visited with
  | operation isRoot => cases isRoot
  | fragment _ isType =>
    rw [show schema.type? (fragmentOn parent.name name inner).condition = some parent.bare from
      declares.type?_name] at isType
    cases isType
    exact .inl ⟨rfl, rfl⟩
  | inside visited member opens ih =>
    rcases ih with ⟨rfl, rfl⟩ | ⟨rfl, rfl⟩ | rfl
    · rw [List.mem_singleton.mp member] at opens
      cases opens with
      | field isDeclared =>
        rw [show schema.field? parent.bare (Build.bareField name).name = some declared from
          found] at isDeclared
        cases isDeclared
        exact .inr (.inl ⟨rfl, rfl⟩)
    · obtain ⟨other, _, rfl⟩ := List.mem_map.mp member
      cases opens
      exact .inr (.inr rfl)
    · cases member

section

variable (each : ∀ name ∈ inner, schema.hasField declared.type name = true)

include each

/-- If what is written in such a fragment is declared, it consists of bare fields that are
found on their types. -/
theorem exists_bareField_of_fragmentOn {kind : NodeKind} {selections : List Selection}
    {selection : Selection}
    (visited : (fragmentOn parent.name name inner).Visits schema kind type selections)
    (member : selection ∈ selections) :
    ∃ other below, selection = .field (Build.bareField other) below ∧
      schema.hasField type other = true := by
  rcases visits_fragmentOn declares found visited with ⟨rfl, rfl⟩ | ⟨rfl, rfl⟩ | rfl
  · refine ⟨name, _, List.mem_singleton.mp member, ?_⟩
    rw [Schema.hasField, show schema.field? parent.bare name = some declared from found]
    rfl
  · obtain ⟨other, inInner, rfl⟩ := List.mem_map.mp member
    exact ⟨other, [], rfl, each other inInner⟩
  · cases member

/-- Then nothing that it names is unknown. -/
theorem not_misses_fragmentOn {missing : Diagnostic} :
    ¬ (fragmentOn parent.name name inner).Misses schema missing := by
  intro misses
  cases misses with
  | rootField isRoot => cases isRoot
  | condition _ unknown =>
    rw [show schema.type? (fragmentOn parent.name name inner).condition = some parent.bare from
      declares.type?_name] at unknown
    cases unknown
  | field visited member unknown =>
    obtain ⟨other, below, same, has⟩ :=
      exists_bareField_of_fragmentOn declares found each visited member
    cases same
    rw [Schema.hasField, show schema.field? _ other = none from unknown] at has
    cases has
  | inline visited member =>
    obtain ⟨_, _, same, _⟩ := exists_bareField_of_fragmentOn declares found each visited member
    cases same

/-- There is nothing else that could be wrong with it, as long as no rules are checked. -/
theorem not_atFault_fragmentOn {error : BuildError} :
    ¬ (fragmentOn parent.name name inner).AtFault schema .unchecked error := by
  intro atFault
  cases atFault with
  | kind isOther => cases isOther
  | misses misses => exact not_misses_fragmentOn declares found each misses
  | breaks breaks =>
    cases breaks with
    | operation isOperation => cases isOperation
    | parameters _ refused => cases refused
    | fragment _ broken => exact Directive.not_break_nil broken
    | field visited member _ broken =>
      obtain ⟨other, below, same, _⟩ :=
        exists_bareField_of_fragmentOn declares found each visited member
      cases same
      exact Build.not_fieldBreaks_of_plain rfl rfl broken
    | inline visited member | spread visited member =>
      obtain ⟨_, _, same, _⟩ := exists_bareField_of_fragmentOn declares found each visited member
      cases same

end

/-- If such a fragment is built, what its field demands is found. -/
theorem hasField_of_fragmentOn {options : BuildOptions} {root : Root}
    (built : (fragmentOn parent.name name []).build schema options = .ok root) {demanded : String}
    (isDemanded : Demanded schema .field declared.type [] demanded) :
    schema.hasField declared.type demanded = true := by
  cases Build.root_parts (returns_of_build built) with
  | query isKind | mutation isKind | subscription isKind => cases isKind
  | fragment _ parts =>
    have isType : parts.type = parent.bare :=
      Option.some.inj (parts.isType.symm.trans declares.type?_name)
    obtain ⟨areChildren, _⟩ := Build.fragment_returns parts.isFragment
    obtain ⟨again, below, isAgain, areBelow⟩ :=
      Build.children_field areChildren (List.mem_singleton.mpr rfl)
    rw [isType] at isAgain
    obtain rfl : again = declared := Option.some.inj (isAgain.symm.trans found)
    exact Build.hasField_of_missing areBelow
      ((Schema.mem_required (Schema.fit_fieldRequisites []) []).mpr isDemanded) List.not_mem_nil

end Definition

namespace Schema

variable {schema : Schema}

/-- A page info without support makes fields unknown that nobody wrote. -/
theorem supportsPages_of_lookupsAreWritten (ends : schema.EndsInStrings)
    (acyclic : ∀ name, ¬ Relation.TransGen schema.Generates name name)
    (written : schema.LookupsAreWritten) : schema.SupportsPages := by
  intro parent name declared declares found page
  have blameless {error : BuildError} :
      ¬ (Definition.fragmentOn parent.name name []).AtFault schema .unchecked error :=
    Definition.not_atFault_fragmentOn declares found (List.forall_mem_nil _)
  cases outcome : (Definition.fragmentOn parent.name name []).build schema .unchecked with
  | ok root =>
    constructor
    · exact Definition.hasField_of_fragmentOn declares found outcome (.hasNextPage rfl page)
    · exact Definition.hasField_of_fragmentOn declares found outcome (.hasPreviousPage rfl page)
  | error error =>
    exfalso
    rcases Definition.failsBy_of_build outcome with atFault | generated
    · exact blameless atFault
    · rcases generated.isLookup with endless | ⟨found, rfl, isLookup⟩
      · exact generated.ne_unbounded ends acyclic endless
      · exact blameless (.misses (written _ _ found outcome isLookup))

variable {snake : Bool} {source text : String}

/-- In a loaded schema that supports pages, only fields and types that are written are ever
unknown, and every other failure has its cause in what is written, too.  No other schema
keeps to this, unless its fields call for each other without end. -/
theorem supportsPages_iff_faults_written
    (loaded : Schema.parse (.ofConvention snake) source text = .ok schema) :
    (schema.SupportsPages → schema.LookupsAreWritten ∧ schema.FaultsAreWritten) ∧
      ((∀ name, ¬ Relation.TransGen schema.Generates name name) →
        schema.LookupsAreWritten → schema.SupportsPages) := by
  have ends := endsInStrings_of_parse loaded
  constructor
  · intro supports
    have written := faultsAreWritten_of_supportsPages ends supports
    exact ⟨written.lookups, written⟩
  · exact supportsPages_of_lookupsAreWritten ends

/-- Whether the page info of a schema has the fields that support pages, if there is one. -/
def hasPageSupport (schema : Schema) : Bool :=
  (schema.type? "PageInfo").all fun type =>
    schema.hasField type schema.names.hasNextPage &&
      schema.hasField type schema.names.hasPreviousPage

theorem supportsPages_of_hasPageSupport (supports : schema.hasPageSupport = true) :
    schema.SupportsPages := by
  intro parent name declared _ found page
  have isNamed : declared.type.name = "PageInfo" := of_decide_eq_true page
  have isType : schema.type? "PageInfo" = some declared.type.bare :=
    isNamed ▸ (declares_of_field? found).type?_name
  rw [hasPageSupport, isType, Option.all_some, Bool.and_eq_true] at supports
  exact supports

end Schema

namespace Sample

/-- A page that tells whether it has neighbours. -/
def pages : String :=
  "type Query \x7b page: PageInfo \x7d" ++
  "type PageInfo \x7b hasNextPage: Boolean hasPreviousPage: Boolean \x7d"

theorem pages_loads : ∃ schema, Schema.parse (.ofConvention false) "pages" pages = .ok schema ∧
    (schema.isRankedBy (if · = "PageInfo" then 1 else 0) && schema.hasPageSupport) = true :=
  Schema.exists_of_load? (by decide +kernel)

/-- What is written in a fragment on the feed is declared there, but the fragment is not built. -/
def isRefused (schema : Schema) : Bool :=
  (schema.type? "FeedConnection").any fun parent =>
    (schema.field? parent "pageInfo").any fun declared =>
      schema.hasField declared.type "endCursor" &&
        match (Definition.fragmentOn "FeedConnection" "pageInfo" ["endCursor"]).build schema
            ⟨defaultInputArgument, true, []⟩ with
        | .ok _ => false
        | .error error => error = .diagnostic ⟨.unknownField "hasNextPage" "PageInfo", []⟩

theorem tagFeed_isRefused : ∃ schema,
    Schema.parse (.ofConvention false) "feed" tagFeed = .ok schema ∧ isRefused schema = true :=
  Schema.exists_of_load? (by decide +kernel)

end Sample

/-- Definitions over pages that tell their neighbours only fail for what is written in them. -/
theorem Schema.pages_faults_written : ∃ schema,
    Schema.parse (.ofConvention false) "pages" Sample.pages = .ok schema ∧
      (schema.SupportsPages ↔ schema.LookupsAreWritten) ∧ schema.SupportsPages ∧
      schema.FaultsAreWritten := by
  obtain ⟨schema, loaded, passed⟩ := Sample.pages_loads
  obtain ⟨ranked, supports⟩ := Bool.and_eq_true_iff.mp passed
  have acyclic := Schema.acyclic_of_isRankedBy ranked
  have supports := Schema.supportsPages_of_hasPageSupport supports
  obtain ⟨written, supported⟩ := Schema.supportsPages_iff_faults_written loaded
  exact ⟨schema, loaded, ⟨fun supports => (written supports).1, supported acyclic⟩, supports,
    (written supports).2⟩

/-- A fragment on the feed fails for a field that is not written in it. -/
theorem Definition.tagFeed_fails_for_generated : ∃ schema found,
    Schema.parse (.ofConvention false) "feed" Sample.tagFeed = .ok schema ∧
      (Definition.fragmentOn "FeedConnection" "pageInfo" ["endCursor"]).build schema
        ⟨defaultInputArgument, true, []⟩ = .error (.diagnostic found) ∧
      found.problem = .unknownField "hasNextPage" "PageInfo" ∧
      ¬ (Definition.fragmentOn "FeedConnection" "pageInfo" ["endCursor"]).Misses schema found := by
  obtain ⟨schema, loaded, refused⟩ := Sample.tagFeed_isRefused
  simp only [Sample.isRefused, Option.any_eq_true, Bool.and_eq_true] at refused
  obtain ⟨parent, isType, declared, isDeclared, has, failed⟩ := refused
  split at failed
  next => cases failed
  next error outcome =>
    refine ⟨schema, _, loaded, outcome.trans (congrArg _ (of_decide_eq_true failed)), rfl, ?_⟩
    have isNamed : parent.name = "FeedConnection" := Schema.name_of_type? isType
    rw [← isNamed]
    exact not_misses_fragmentOn (Schema.declares_of_type? isType) isDeclared (by simpa using has)

end QueryTree
