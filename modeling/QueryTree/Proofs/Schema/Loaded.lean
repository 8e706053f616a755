import QueryTree.Proofs.Language.Gives
import QueryTree.Proofs.Schema.Lookup
import QueryTree.Schema.Load

/-!
# Strings of a loaded schema

Whatever a source declares, the type of strings in the schema that is loaded from it
is the built-in scalar.  An extension keeps its kind, and an extension of a scalar adds
neither fields nor interfaces; at most the fields of introspection are added to it.
-/

namespace QueryTree

/-! ## Extensions as they are read -/

/-- Whether a declaration has no parts that scalars lack, if it is one. -/
def TypeDeclaration.IsPlain (declaration : TypeDeclaration) : Prop :=
  declaration.kind = .scalar → declaration.interfaces = [] ∧ declaration.fields = []

namespace Grammar

open QueryTree.Parser

theorem typeDeclaration_gives (kind : TypeKind) (extension : Bool) (description : String)
    (depth : Nat) :
    Gives (typeDeclaration kind extension description depth) TypeDeclaration.IsPlain := by
  cases kind with
  | scalar =>
    have noInterfaces : Gives (pure ([] : List String)) (· = []) := .pure rfl
    have noFields : Gives (pure ([] : List FieldDeclaration)) (· = []) := .pure rfl
    exact .after fun _ => .after fun _ => .after fun _ =>
      .bind noInterfaces fun _ lacksInterfaces => .after fun _ =>
        .bind noFields fun _ lacksFields => .after fun _ => .after fun _ =>
          .pure fun _ => ⟨lacksInterfaces, lacksFields⟩
  | object | interface | union | enum | inputObject =>
    cases extension <;>
      exact .after fun _ => .after fun _ => .after fun _ => .after fun _ => .after fun _ =>
        .after fun _ => .after fun _ => .after fun _ => .pure nofun

theorem typeExtension_gives (kind : TypeKind) (depth : Nat) :
    Gives (typeExtension kind depth) TypeDeclaration.IsPlain :=
  .bind (typeDeclaration_gives kind true "" depth) fun _ plain =>
    .ite (.after fun _ => .failAt) (.pure plain)

/-- Whether all extensions in a document are plain. -/
def PlainlyExtends (document : SchemaDocument) : Prop :=
  ∀ extension ∈ document.extensions, extension.IsPlain

variable {document : SchemaDocument}

theorem typeSystemExtension_gives (depth : Nat) (plain : PlainlyExtends document) :
    Gives (typeSystemExtension depth document) PlainlyExtends := by
  refine .after fun _ => .after fun token => .ite ?_ ?_
  · exact .after fun _ => .ite (.after fun _ => .failAt) (.pure plain)
  · split
    · refine .bind (typeExtension_gives _ _) fun added isPlain => .pure fun extension member => ?_
      rcases List.mem_append.mp member with old | new
      · exact plain extension old
      · rw [List.mem_singleton.mp new]
        exact isPlain
    · exact .failAt

theorem typeSystemDefinition_gives (depth : Nat) (plain : PlainlyExtends document) :
    Gives (typeSystemDefinition depth document) PlainlyExtends := by
  refine .after fun described => .after fun description => .after fun token =>
    .ite .failAt (.ite ?_ (.ite ?_ (.ite (.ite ?_ ?_) ?_)))
  · exact .after fun _ => .pure plain
  · exact .after fun _ => .pure plain
  · exact typeSystemExtension_gives depth plain
  · split
    · exact .failAt
    · exact .failAt
  · split
    · exact .after fun _ => .pure plain
    · exact .failAt

theorem typeSystemUpTo_gives (depth bound : Nat) (plain : PlainlyExtends document) :
    Gives (typeSystemUpTo depth bound document) PlainlyExtends := by
  induction bound generalizing document with
  | zero => exact .pure plain
  | succ bound ih =>
    exact .after fun _ => .ite (.pure plain)
      (.bind (typeSystemDefinition_gives depth plain) fun _ plain => ih plain)

/-- Extensions of scalars add neither fields nor interfaces. -/
theorem plainlyExtends_of_parse {source text : String}
    (read : SchemaDocument.parse source text = .ok document) : PlainlyExtends document := by
  have gives : Gives typeSystem PlainlyExtends :=
    .after fun _ => typeSystemUpTo_gives _ _ (List.forall_mem_nil _)
  unfold SchemaDocument.parse at read
  cases outcome : typeSystem.run (Token.withoutComments none (lex source text)) with
  | error fault =>
    rw [outcome] at read
    cases read
  | ok result =>
    rw [outcome] at read
    cases read
    exact gives _ _ _ outcome

end Grammar

/-! ## Loading -/

/-- Whether a declaration is a scalar with no more than the fields of introspection. -/
structure TypeDeclaration.IsBare (declaration : TypeDeclaration) : Prop where
  scalar : declaration.kind = .scalar
  noInterfaces : declaration.interfaces = []
  introspects : ∀ field ∈ declaration.fields, field ∈ Prelude.introspectionFields

namespace Schema

/-- Whether strings are declared bare in a list of types. -/
def BareStrings (types : List TypeDeclaration) : Prop :=
  ∃ declaration, types.find? (·.name = "String") = some declaration ∧ declaration.IsBare

variable {types : List TypeDeclaration}

/-- Strings stay bare if types keep their names and the change to strings is harmless. -/
theorem BareStrings.map {change : TypeDeclaration → TypeDeclaration} (bare : BareStrings types)
    (named : ∀ declaration, (change declaration).name = declaration.name)
    (harmless : ∀ declaration, types.find? (·.name = "String") = some declaration →
      declaration.IsBare → (change declaration).IsBare) : BareStrings (types.map change) := by
  obtain ⟨declaration, found, isBare⟩ := bare
  refine ⟨change declaration, ?_, harmless declaration found isBare⟩
  have sameTest : (fun declaration : TypeDeclaration => decide (declaration.name = "String")) ∘
      change = fun declaration => decide (declaration.name = "String") := by
    funext declaration
    simp [named]
  rw [List.find?_map, sameTest, found, Option.map_some]

theorem BareStrings.extend {extension : TypeDeclaration} {extended : List TypeDeclaration}
    (bare : BareStrings types) (plain : extension.IsPlain)
    (added : Schema.extend types extension = .ok extended) : BareStrings extended := by
  unfold Schema.extend at added
  split at added
  next =>
    cases added
    obtain ⟨declaration, found, isBare⟩ := bare
    exact ⟨declaration, by rw [List.find?_append, found, Option.some_or], isBare⟩
  next base isBase =>
    split at added
    next sameKind =>
      cases added
      refine bare.map (fun declaration => ?_) fun declaration found isBare => ?_
      · split <;> rfl
      · split
        next isExtended =>
          have isString : declaration.name = "String" := by simpa using List.find?_some found
          rw [← isExtended, isString, found] at isBase
          cases isBase
          obtain ⟨noInterfaces, noFields⟩ := plain (sameKind ▸ isBare.scalar)
          exact ⟨isBare.scalar, by simp [Schema.extended, noInterfaces, isBare.noInterfaces],
            by simpa [Schema.extended, noFields] using isBare.introspects⟩
        next => exact isBare
    next => cases added

theorem BareStrings.extendAll {extensions extended : List TypeDeclaration}
    (bare : BareStrings types) (plain : ∀ extension ∈ extensions, extension.IsPlain)
    (added : extensions.foldlM Schema.extend types = .ok extended) : BareStrings extended := by
  induction extensions generalizing types with
  | nil =>
    cases added
    exact bare
  | cons extension extensions ih =>
    rw [List.foldlM_cons] at added
    obtain ⟨between, first, others⟩ := exists_of_bind_eq_ok added
    exact ih (bare.extend (plain extension List.mem_cons_self) first)
      (List.forall_mem_cons.mp plain).2 others

variable {schema : Schema} {document : SchemaDocument} {source text : String} {ε : Type}

/-- Root types leave the types and the names of a schema as they are. -/
theorem setRoots_keeps {roots : List RootDeclaration} {bare : Schema}
    (set : roots.foldlM setRoot bare = .ok schema) :
    schema.types = bare.types ∧ schema.names = bare.names := by
  induction roots generalizing bare with
  | nil =>
    cases set
    exact ⟨rfl, rfl⟩
  | cons root roots ih =>
    rw [List.foldlM_cons] at set
    obtain ⟨between, first, others⟩ := exists_of_bind_eq_ok set
    have kept : between.types = bare.types ∧ between.names = bare.names := by
      unfold setRoot at first
      split at first
      · split at first <;> cases first <;> exact ⟨rfl, rfl⟩
      · cases first
    rw [← kept.1, ← kept.2]
    exact ih others

theorem BareStrings.withIntrospection (bare : BareStrings schema.types) :
    BareStrings schema.withIntrospection.types := by
  refine BareStrings.map bare (fun declaration => ?_) fun declaration _ isBare => ?_
  · split <;> rfl
  · split
    · refine ⟨isBare.scalar, isBare.noInterfaces, fun field member => ?_⟩
      rcases List.mem_append.mp member with old | new
      · exact isBare.introspects field old
      · exact new
    · exact isBare

/-! ## Stages of loading -/

/-- The declarations of a document with the root types that it names, not checked yet. -/
def rooted (names : FieldNames) (document : SchemaDocument) : Except SchemaError Schema := do
  checkRedeclared [] document.types
  let types ← document.extensions.foldlM Schema.extend document.types
  let directives ← document.directives.foldlM declareDirective []
  match document.blocks with
  | _ :: second :: _ => throw ⟨.multipleBlocks, second.position⟩
  | blocks =>
    let roots := (blocks ++ document.blockExtensions).flatMap (·.roots)
    roots.foldlM setRoot ⟨types, directives, none, none, none, names⟩

/-- What is done to a schema that passed the checks. -/
def completed (document : SchemaDocument) (schema : Schema) : Schema :=
  (if document.blocks.isEmpty then schema.inferRoots else schema).withIntrospection

theorem ofDocument_eq (names : FieldNames) (document : SchemaDocument) :
    ofDocument names document = rooted names document >>= fun schema =>
      schema.check >>= fun _ => pure (schema.completed document) := by
  simp only [ofDocument, rooted, bind_assoc]
  refine bind_congr fun _ => bind_congr fun types => bind_congr fun directives => ?_
  obtain ⟨_, _, _, blocks, _⟩ := document
  rcases blocks with _ | ⟨first, _ | ⟨second, others⟩⟩ <;> rfl

variable {names : FieldNames}

theorem rooted_keeps (bare : BareStrings document.types)
    (plain : ∀ extension ∈ document.extensions, extension.IsPlain)
    (read : rooted names document = .ok schema) :
    BareStrings schema.types ∧ schema.names = names := by
  unfold rooted at read
  obtain ⟨_, _, read⟩ := exists_of_bind_eq_ok read
  obtain ⟨types, extended, read⟩ := exists_of_bind_eq_ok read
  obtain ⟨directives, _, read⟩ := exists_of_bind_eq_ok read
  split at read
  next => cases read
  next =>
    obtain ⟨sameTypes, sameNames⟩ := setRoots_keeps read
    exact ⟨sameTypes ▸ bare.extendAll plain extended, sameNames⟩

theorem BareStrings.completed (bare : BareStrings schema.types) :
    BareStrings (schema.completed document).types := by
  unfold Schema.completed
  split
  · have inferred : BareStrings schema.inferRoots.types := bare
    exact inferred.withIntrospection
  · exact bare.withIntrospection

/-- Strings of a loaded schema are bare, and it keeps to its naming convention. -/
theorem bareStrings_of_parse (loaded : Schema.parse names source text = .ok schema) :
    BareStrings schema.types ∧ schema.names = names := by
  unfold Schema.parse at loaded
  split at loaded
  next => cases loaded
  next document read =>
    rw [ofDocument_eq] at loaded
    obtain ⟨found, isRooted, loaded⟩ := exists_of_bind_eq_ok loaded
    obtain ⟨_, _, loaded⟩ := exists_of_bind_eq_ok loaded
    cases loaded
    have kept : BareStrings found.types ∧ found.names = names := by
      refine rooted_keeps ?_ ?_ isRooted
      · exact ⟨Prelude.scalar 10 "String", rfl, rfl, rfl, nofun⟩
      · exact fun extension member => Grammar.plainlyExtends_of_parse read extension member
    refine ⟨kept.1.completed, ?_⟩
    rw [← kept.2, completed]
    split <;> rfl

/-! ## Checks in any order -/

theorem forM_eq_ok_iff {α : Type} {check : α → Except ε Unit} {values : List α} :
    values.forM check = .ok () ↔ ∀ value ∈ values, check value = .ok () := by
  induction values with
  | nil => exact ⟨fun _ => nofun, fun _ => rfl⟩
  | cons value values ih =>
    rw [List.forall_mem_cons, ← ih]
    constructor
    · intro passed
      obtain ⟨_, first, others⟩ := exists_of_bind_eq_ok passed
      exact ⟨first, others⟩
    · rintro ⟨first, others⟩
      show (check value >>= fun _ => values.forM check) = .ok ()
      rw [first]
      exact others

/-- Whether all types and directives of a schema keep the rules. -/
def passes (schema : Schema) : Bool :=
  schema.types.all (schema.checkType · |>.isOk) &&
    schema.directives.all (schema.checkDirectiveDeclaration · |>.isOk)

theorem isOk_eq_true {outcome : Except ε Unit} : outcome.isOk = true ↔ outcome = .ok () := by
  cases outcome with
  | error found => exact ⟨nofun, nofun⟩
  | ok value => exact ⟨fun _ => rfl, fun _ => rfl⟩

/-- The order of the checks only matters for what is reported. -/
theorem check_eq_ok_iff : schema.check = .ok () ↔ schema.passes = true := by
  simp only [passes, Bool.and_eq_true, List.all_eq_true, isOk_eq_true]
  constructor
  · intro passed
    obtain ⟨_, types, directives⟩ := exists_of_bind_eq_ok passed
    constructor
    · intro declaration member
      exact forM_eq_ok_iff.mp types declaration ((List.mem_mergeSort ..).mpr member)
    · intro declaration member
      exact forM_eq_ok_iff.mp directives declaration ((List.mem_mergeSort ..).mpr member)
  · rintro ⟨types, directives⟩
    have ofTypes : (sortByName (·.name) schema.types).forM schema.checkType = .ok () :=
      forM_eq_ok_iff.mpr fun declaration member =>
        types declaration ((List.mem_mergeSort ..).mp member)
    have ofDirectives : (sortByName (·.name) schema.directives).forM
        schema.checkDirectiveDeclaration = .ok () :=
      forM_eq_ok_iff.mpr fun declaration member =>
        directives declaration ((List.mem_mergeSort ..).mp member)
    rw [check, ofTypes]
    exact ofDirectives

/-- The schema of a source whose declarations all keep the rules. -/
def load? (names : FieldNames) (source text : String) : Option Schema :=
  match SchemaDocument.parse source text with
  | .error _ => none
  | .ok document =>
    let document := Prelude.document.append document
    match rooted names document with
    | .error _ => none
    | .ok schema => if schema.passes then some (schema.completed document) else none

/-- Loading does not depend on the order of the checks. -/
theorem parse_of_load? (loaded : load? names source text = some schema) :
    Schema.parse names source text = .ok schema := by
  unfold load? at loaded
  split at loaded
  next => cases loaded
  next document read =>
    dsimp only at loaded
    split at loaded
    next => cases loaded
    next found isRooted =>
      split at loaded
      next passed =>
        cases loaded
        simp only [Schema.parse, read, ofDocument_eq, isRooted]
        show (found.check >>= fun _ => pure (found.completed _)) = _
        rw [check_eq_ok_iff.mpr passed]
        rfl
      next => cases loaded

theorem exists_of_load? {test : Schema → Bool}
    (passed : (load? names source text).any test = true) :
    ∃ schema, Schema.parse names source text = .ok schema ∧ test schema = true := by
  cases loaded : load? names source text with
  | none =>
    rw [loaded] at passed
    cases passed
  | some schema =>
    rw [loaded] at passed
    exact ⟨schema, parse_of_load? loaded, passed⟩

end Schema

end QueryTree
