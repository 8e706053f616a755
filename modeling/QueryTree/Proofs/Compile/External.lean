import QueryTree.Proofs.Command.Written
import QueryTree.Proofs.Compile.Files
import QueryTree.Proofs.Compile.Written

/-!
# Only external failures

If the trees of its definitions come to an end, a source fails to compile only for
diagnostics of the families with a name, and all its artifacts have JSON.  What comes
of files has no internal failure.  Artifacts that are nested too deeply are the only
ones that are not written.
-/

namespace QueryTree

/-! ## Trees that come to an end -/

namespace Compiler

/-- Whether the tree of a definition has no end. -/
def isEndless (compiler : Compiler) (validation : Bool) (definition : Definition) : Bool :=
  match definition.normalize with
  | .error _ => false
  | .ok form =>
    match form.definition.build compiler.schema (compiler.buildOptions validation) with
    | .error .unbounded => true
    | _ => false

variable {compiler : Compiler} {definition : Definition} {validation : Bool}

theorem isEndless_eq_false_iff :
    compiler.isEndless validation definition = false ↔ compiler.Bounds validation definition := by
  unfold isEndless Bounds
  cases definition.normalize with
  | error found => simp
  | ok form =>
    simp only [Except.ok.injEq, forall_eq']
    split <;> simp_all

instance (compiler : Compiler) (validation : Bool) (definition : Definition) :
    Decidable (compiler.Bounds validation definition) :=
  decidable_of_iff _ isEndless_eq_false_iff

theorem bounds_of_compile {scope : Scope} {artifact : Artifact}
    (compiled : compiler.compile definition scope validation = .ok artifact) :
    compiler.Bounds validation definition := by
  obtain ⟨parts⟩ := compile_parts compiled
  intro form normal endless
  rw [parts.normal] at normal
  cases normal
  rw [parts.built] at endless
  cases endless

end Compiler

/-- Whether the trees of all definitions of a file come to an end. -/
def SourceFile.Bounded (compiler : Compiler) (validation : Bool) (file : SourceFile) : Prop :=
  ∀ definitions, Definition.parseAll file.name file.text = .ok definitions →
    ∀ definition ∈ definitions, compiler.Bounds validation definition

instance (compiler : Compiler) (validation : Bool) (file : SourceFile) :
    Decidable (file.Bounded compiler validation) :=
  match parsed : Definition.parseAll file.name file.text with
  | .ok definitions =>
    decidable_of_iff (∀ definition ∈ definitions, compiler.Bounds validation definition)
      (by simp [SourceFile.Bounded, parsed])
  | .error _ => .isTrue (by simp [SourceFile.Bounded, parsed])

/-- All that a compiler can give for a file is an external failure or can be written. -/
theorem SourceFile.Bounded.settles {compiler : Compiler} {validation : Bool} {file : SourceFile}
    (bounded : file.Bounded compiler validation) :
    compiler.Settles validation Failure.IsExternal Artifact.IsWritten file where
  refused found refused _ :=
    Failure.isExternal_of_diagnostic (Definition.parseAll_reports _ _ found refused)
  own definitions parsed definition member := by
    have formed := Definition.wellFormed_of_parseAll parsed definition member
    cases outcome : compiler.compile definition file.scope validation with
    | ok artifact => exact Compiler.compile_written formed outcome
    | error failure =>
      rcases Compiler.compile_fails formed outcome with external | ⟨endless, _⟩
      · exact external
      · exact absurd (bounded definitions parsed definition member) endless
  stored _ _ _ _ formed compiled := Compiler.compile_written formed compiled

/-! ## Files -/

/-- Whether files have no failures but external ones, each with its own error in the
response, and artifacts that can be written. -/
structure FilesResult.OnlyExternal (result : FilesResult) : Prop where
  artifacts : ∀ artifact ∈ result.artifacts, artifact.IsWritten
  failures : ∀ failure ∈ result.failures, failure.failure.IsExternal
  internal : result.report.internal = []
  responses : result.report.responseErrors.length = result.failed

theorem SourceFile.gather_onlyExternal {results : List FileResult}
    (within : ∀ result ∈ results, result.Within Failure.IsExternal Artifact.IsWritten) :
    (gather results).OnlyExternal := by
  have external : ∀ failure ∈ results.flatMap (·.failures), failure.failure.IsExternal := by
    intro failure member
    obtain ⟨result, isResult, inResult⟩ := List.mem_flatMap.mp member
    exact (within result isResult).failures failure inResult
  have accounted : (gather results).Accounted :=
    gather_accounted fun result isResult failure member =>
      ((within result isResult).failures failure member).isCommon
  have internal : (gather results).report.internal = [] := by
    rw [accounted.internal, List.filter_eq_nil_iff]
    intro failure member
    obtain ⟨entry, inFailures, rfl⟩ := List.mem_map.mp member
    obtain ⟨found, isFound, _⟩ := external entry inFailures
    simp [isFound]
  refine ⟨fun artifact member => ?_, external, internal, ?_⟩
  · obtain ⟨result, isResult, inResult⟩ := List.mem_flatMap.mp member
    exact (within result isResult).artifacts artifact inResult
  · have each : ∀ failure ∈ (gather results).failures,
        failure.failure.diagnostic?.isSome = true := by
      intro failure member
      obtain ⟨found, isFound, _⟩ := external failure member
      rw [isFound]
      rfl
    simp only [Report.responseErrors, internal, accounted.external, List.isEmpty_nil, if_true,
      List.append_nil, List.length_map]
    rw [List.length_filterMap_eq_countP, List.countP_eq_length.mpr each]
    rfl

theorem Pool.Safe.result_onlyExternal {setup : PoolSetup} {files : List SourceFile} {pool : Pool}
    (safe : pool.Safe setup Failure.IsExternal Artifact.IsWritten files) :
    pool.result.OnlyExternal := by
  have gathered : (SourceFile.gather (pool.workers.map Worker.result)).OnlyExternal := by
    apply SourceFile.gather_onlyExternal
    intro result member
    obtain ⟨worker, isWorker, rfl⟩ := List.mem_map.mp member
    exact (safe.workers worker isWorker).result
  refine ⟨gathered.artifacts, gathered.failures, gathered.internal, gathered.responses.trans ?_⟩
  have failures : (pool.workers.map Worker.result).flatMap (·.failures) =
      pool.workers.flatMap (·.failures) := List.flatMap_map ..
  exact (congrArg List.length failures).trans safe.failed.symm

/-- Nothing but external failures can come of sources whose trees come to an end.
Without a cache or through one that was used before in any way, a source fails for a
diagnostic of a family with a name, or gives artifacts that have JSON, which is
written unless it is nested too deeply.  No normal form is refused for a directive on a
spread, for a selection or for its kind.  What comes of several files, one after
another or at any time of any schedule, has no internal failure, and its response has
an error for each failure. -/
theorem PoolSetup.only_external_failures (setup : PoolSetup) {files : List SourceFile}
    {known : String → Prop} {cache : Cache} (warm : cache.Warm setup.compiler known)
    (bounded : ∀ file ∈ files, file.Bounded setup.compiler setup.validation) :
    (∀ file ∈ files,
      EndsIn Failure.IsExternal (∀ artifact ∈ ·, artifact.IsWritten)
        (setup.compiler.compileSource file.name file.text file.scope setup.validation) ∧
      EndsIn Failure.IsExternal (∀ stored ∈ ·, stored.artifact.IsWritten)
        (cache.compileSource file.name file.text file.scope setup.validation).1) ∧
    (∀ file ∈ files, ∀ definitions, Definition.parseAll file.name file.text = .ok definitions →
      ∀ definition ∈ definitions, ∀ form, definition.normalize = .ok form →
        ∀ schema options error, form.definition.build schema options = .error error →
          error.IsExpected) ∧
    (∃ result,
      ((SourceFile.compileUnless false (setup.compiler.forFiles setup.validation) files).run
        ()).1 = .ok result ∧ result.OnlyExternal) ∧
    (∃ result,
      ((SourceFile.compileUnless false (Cache.forFiles setup.validation) files).run cache).1 =
        .ok result ∧ result.OnlyExternal) ∧
    ∀ schedule pool, (Pool.start cache files).run setup schedule = some pool →
      pool.result.OnlyExternal := by
  have settles : ∀ file ∈ files,
      setup.compiler.Settles setup.validation Failure.IsExternal Artifact.IsWritten file :=
    fun file member => (bounded file member).settles
  have sound := warm.sound_of_any
  refine ⟨fun file member => ?_, fun file _ definitions parsed definition member form normal => ?_,
    ⟨_, rfl, ?_⟩, ⟨_, rfl, ?_⟩, fun schedule pool ran => ?_⟩
  · have settled := settles file member
    exact ⟨settled.compileSource, (settled.compileSource_cached sound).1⟩
  · intro schema options error failed
    exact Definition.build_fails (Definition.wellFormed_of_parseAll parsed definition member).head
      normal failed
  · exact SourceFile.gather_onlyExternal (SourceFile.compileAll_within settles)
  · exact SourceFile.gather_onlyExternal (SourceFile.compileAll_cached_within settles sound)
  · exact ((Pool.safe_start settles fun _ => sound).run ran).result_onlyExternal

/-! ## Files with all kinds of values -/

namespace Sample

/-- Two workers at once that share a cache, with validation. -/
def viewerSetup : PoolSetup := ⟨Compiler.make viewerSchema .default, true, true, 2⟩

/-- A query for a feed with numbers in nested values. -/
def feedText : String :=
  "query Q($d: Date = [-0, \x7bx: 2.5e+3\x7d]) \x7bviewer\x7bfeed(first: 1)\x7bedges\x7bcursor\x7d\x7d\x7d\x7d"

/-- A fragment with facts. -/
def tagText : String := "fragment F on Tag @relay(hint: \x7bx: [1.0E-7, [\"\"]]\x7d) \x7btext\x7d"

/-- The query and the fragment, a query without a name, and one that cannot be read. -/
def viewerFiles : List SourceFile :=
  [⟨"a", feedText, .empty⟩, ⟨"b", tagText, .empty⟩,
    ⟨"c", "\x7bviewer\x7b__typename\x7d\x7d", .empty⟩, ⟨"d", "query", .empty⟩]

/-- The first two workers act in turns, and then the others. -/
def viewerSchedule : List Nat :=
  (List.replicate 10 [0, 1]).flatten ++ [2, 3, 2, 3] ++ List.replicate 7 2

end Sample

theorem PoolSetup.viewerFiles_only_external :
    (∀ file ∈ Sample.viewerFiles, file.Bounded Sample.viewerSetup.compiler true) ∧
      ∃ pool, (Pool.start (.make Sample.viewerSetup.compiler) Sample.viewerFiles).run
          Sample.viewerSetup Sample.viewerSchedule = some pool ∧
        pool.isFinished = true ∧ pool.result.compiled = 2 ∧ pool.result.failed = 2 ∧
        pool.result.OnlyExternal := by
  have bounded : ∀ file ∈ Sample.viewerFiles,
      file.Bounded Sample.viewerSetup.compiler true := by decide +kernel
  have evaluated : ((Pool.start (.make Sample.viewerSetup.compiler) Sample.viewerFiles).run
      Sample.viewerSetup Sample.viewerSchedule).map
        (fun pool => (pool.isFinished, pool.result.compiled, pool.result.failed)) =
          some (true, 2, 2) := by decide +kernel
  obtain ⟨pool, ran, counts⟩ := Option.map_eq_some_iff.mp evaluated
  simp only [Prod.mk.injEq] at counts
  have warm : (Cache.make Sample.viewerSetup.compiler).Warm Sample.viewerSetup.compiler
      fun _ => True := .make
  obtain ⟨_, _, _, _, pools⟩ := Sample.viewerSetup.only_external_failures warm bounded
  exact ⟨bounded, pool, ran, counts.1, counts.2.1, counts.2.2, pools _ pool ran⟩

/-! ## Values that are nested too deeply -/

namespace JsonValue

theorem depth_lt_array {item : JsonValue} {items : List JsonValue} (member : item ∈ items) :
    item.depth < (JsonValue.array items).depth := by
  induction items with
  | nil => cases member
  | cons first items ih =>
    rw [depth, depthOfItems]
    rcases List.mem_cons.mp member with rfl | inItems
    · omega
    · have inner := ih inItems
      rw [depth] at inner
      omega

theorem depth_lt_object {key : String} {value : JsonValue} {entries : List (String × JsonValue)}
    (member : (key, value) ∈ entries) : value.depth < (JsonValue.object entries).depth := by
  induction entries with
  | nil => cases member
  | cons first entries ih =>
    obtain ⟨other, found⟩ := first
    rw [depth, depthOfEntries]
    rcases List.mem_cons.mp member with isFirst | inEntries
    · cases isFirst
      omega
    · have inner := ih inEntries
      rw [depth] at inner
      omega

end JsonValue

variable {argument : ArgumentDefinition} {default value : JsonValue}

theorem ArgumentDefinition.depth_default_lt (isValue : argument.json = .ok value)
    (isDefault : argument.default.json = .ok default) : default.depth < value.depth := by
  unfold json at isValue
  rw [isDefault] at isValue
  cases isValue
  exact JsonValue.depth_lt_object (List.mem_append_right [_, _, _] List.mem_cons_self)

/-- The default values of an artifact are part of its JSON. -/
theorem Artifact.depth_default_le {artifact : Artifact} (isValue : artifact.json = .ok value)
    (member : argument ∈ artifact.arguments) (isDefault : argument.default.json = .ok default) :
    default.depth + 3 ≤ value.depth := by
  unfold json at isValue
  obtain ⟨arguments, areArguments, isValue⟩ := exists_of_bind_eq_ok isValue
  obtain ⟨node, _, isValue⟩ := exists_of_bind_eq_ok isValue
  obtain ⟨substitutions, _, isValue⟩ := exists_of_bind_eq_ok isValue
  cases isValue
  obtain ⟨items, areItems, isArray⟩ := exists_of_bind_eq_ok areArguments
  cases isArray
  obtain ⟨item, isItem, ofArgument⟩ := mem_of_mapM_eq_ok areItems member
  have inItem := ArgumentDefinition.depth_default_lt ofArgument isDefault
  have inArray := JsonValue.depth_lt_array isItem
  have enough : default.depth + 2 ≤ (JsonValue.array items).depth := by omega
  exact Nat.lt_of_le_of_lt enough
    (JsonValue.depth_lt_object (List.mem_append_right _ List.mem_cons_self))

namespace Sample

/-- Lists in each other, with nothing in the innermost one. -/
def nestedList : Nat → Value
  | 0 => .list [] .unknown
  | levels + 1 => .list [nestedList levels] .unknown

variable (levels : Nat)

theorem nestedList_wellFormed : (nestedList levels).WellFormed := by
  induction levels with
  | zero => exact trivial
  | succ levels ih => exact ⟨ih, trivial⟩

theorem nestedList_variableNames : (nestedList levels).variableNames = [] := by
  induction levels with
  | zero => rfl
  | succ levels ih => rw [nestedList, Value.variableNames, Value.namesOfList, ih]; rfl

theorem nestedList_strings : (nestedList levels).strings = [] := by
  induction levels with
  | zero => rfl
  | succ levels ih => rw [nestedList, Value.strings, Value.stringsOfList, ih]; rfl

/-- As many brackets as there are lists. -/
def brackets (levels : Nat) : List Char :=
  List.replicate (levels + 1) '[' ++ List.replicate (levels + 1) ']'

theorem brackets_succ : brackets (levels + 1) = '[' :: (brackets levels ++ [']']) := by
  rw [brackets, List.replicate_succ (n := levels + 1), List.replicate_succ' (n := levels + 1),
    List.cons_append, ← List.append_assoc]
  rfl

theorem nestedList_canonical : (nestedList levels).canonical = String.ofList (brackets levels) := by
  induction levels with
  | zero => rfl
  | succ levels ih =>
    rw [nestedList, Value.canonical, Value.canonicalList, ih, brackets_succ]
    apply String.toList_inj.mp
    simp

theorem nestedList_json : ∃ literal value,
    (nestedList levels).literal [] = .ok literal ∧ literal.json = .ok value ∧
      value.depth = levels + 1 := by
  induction levels with
  | zero => exact ⟨.list [], .array [], rfl, rfl, rfl⟩
  | succ levels ih =>
    obtain ⟨literal, value, isLiteral, isValue, depth⟩ := ih
    refine ⟨.list [literal], .array [value], ?_, ?_, ?_⟩
    · rw [nestedList, Value.literal, Value.literals, isLiteral]
      rfl
    · rw [Literal.json, Literal.jsonItems, isValue]
      rfl
    · rw [JsonValue.depth, JsonValue.depthOfItems, JsonValue.depthOfItems, depth]
      rfl

/-- A number to query for. -/
def numberSchema : Schema :=
  { viewerSchema with
    types :=
      [⟨.object, "Query", [], [], [plainField "a" (optional "Int")], [], [], "", false, .unknown⟩,
        ⟨.scalar, "Int", [], [], [], [], [], "", true, .unknown⟩] }

/-- A compiler for queries for the number. -/
def numberCompiler : Compiler := .make numberSchema .default

/-- A query for the number, with a variable that has a default value. -/
def defaultQuery (default : Value) : Definition where
  kind := .query
  name := "Q"
  condition := ""
  variableDefinitions := [⟨"x", .named "Int" false .unknown, some default, .unknown⟩]
  directives := []
  selections := [.field (Build.bareField "a") []]
  position := .unknown

theorem defaultQuery_canonical (default : Value) :
    (defaultQuery default).canonical =
      "query Q($x: Int = " ++ default.canonical ++ ") \x7ba\x7d" := by
  have before : "query" ++ (" " ++ "Q") ++ "" ++ "(" ++ "$" ++ "x" ++ ": " ++ ("Int" ++ "") ++
      " = " = "query Q($x: Int = " := by decide +kernel
  have after : ")" ++ "" ++ " \x7b" ++ ("" ++ "a" ++ "" ++ "" ++ "") ++ "\x7d" =
      ") \x7ba\x7d" := by decide +kernel
  rw [← before, ← after]
  change "query" ++ (" " ++ "Q") ++ "" ++
    ("(" ++ ("$" ++ "x" ++ ": " ++ ("Int" ++ "") ++ (" = " ++ default.canonical)) ++ ")") ++ "" ++
    " \x7b" ++ ("" ++ "a" ++ "" ++ "" ++ "") ++ "\x7d" = _
  simp only [String.append_assoc]

variable {default : Value}

/-- The tree of the query does not depend on the default value, which only becomes
that of the formal argument. -/
theorem compile_defaultQuery {literal : Literal} (isLiteral : default.literal [] = .ok literal) :
    ∃ artifact,
      numberCompiler.compile (defaultQuery default) .empty true = .ok artifact ∧
        artifact.arguments.map (·.default) = [literal] := by
  have normal : (defaultQuery default).normalize = .ok ⟨defaultQuery default, [], [], []⟩ := rfl
  have same : (defaultQuery default).build numberSchema (numberCompiler.buildOptions true) =
      (defaultQuery (.null .unknown)).build numberSchema (numberCompiler.buildOptions true) := rfl
  have isBuilt : ((defaultQuery (.null .unknown)).build numberSchema
      (numberCompiler.buildOptions true)).isOk = true := by decide +kernel
  cases built : (defaultQuery (.null .unknown)).build numberSchema
      (numberCompiler.buildOptions true) with
  | error found =>
    rw [built] at isBuilt
    cases isBuilt
  | ok node =>
    refine ⟨⟨"Q", some "query", [⟨.local, "x", "Int" ++ "", literal⟩], node, []⟩, ?_, rfl⟩
    rw [numberCompiler.compile_of_normalize normal]
    change (((defaultQuery default).build numberSchema
      (numberCompiler.buildOptions true)).mapError BuildError.failure >>= fun root =>
        Compiler.orFail (Artifact.assemble (defaultQuery default)
          ⟨defaultQuery default, [], [], []⟩ root [])) = _
    rw [same, built]
    change Compiler.orFail (([_].mapM ArgumentDefinition.ofVariable) >>= _) = _
    rw [List.mapM_cons, ArgumentDefinition.ofVariable]
    dsimp only
    rw [isLiteral]
    rfl

/-- The text of a query with a default value that is nested up to some level. -/
def nestedText (levels : Nat) : String :=
  "query Q($x: Int = " ++ String.ofList (brackets levels) ++ ") \x7ba\x7d" ++ "\n"

theorem definitionsText_nested :
    FormatCommand.definitionsText true [defaultQuery (nestedList levels)] = nestedText levels := by
  have written : FormatCommand.definitionsText true [defaultQuery (nestedList levels)] =
      "" ++ (defaultQuery (nestedList levels)).canonical ++ "\n" ++ "" := rfl
  rw [written, String.empty_append, String.append_empty, defaultQuery_canonical,
    nestedList_canonical]
  rfl

theorem defaultQuery_wellFormed (formed : default.WellFormed) :
    (defaultQuery default).WellFormed where
  head := ⟨.inr (by decide : IsName "Q"), rfl⟩
  declarations := by
    intro declared member
    cases List.mem_singleton.mp member
    refine ⟨(by decide : IsName "x"), (by decide : IsName "Int"), fun value isDefault => ?_⟩
    cases isDefault
    exact formed
  directives := List.forall_mem_nil _
  selections :=
    ⟨⟨nofun, (by decide : IsName "a"), trivial, List.forall_mem_nil _, trivial⟩, trivial⟩

theorem defaultQuery_readable (fixed : default.variableNames = []) :
    (defaultQuery default).Readable where
  name := nofun
  defaults := by
    intro declared member value isDefault
    cases List.mem_singleton.mp member
    cases isDefault
    exact fixed
  some := List.cons_ne_nil _ _
  selections := ⟨⟨nofun, trivial⟩, trivial⟩

theorem parseAll_nestedText : ∃ definition,
    Definition.parseAll "q" (nestedText levels) = .ok [definition] ∧
      definition.stripped = (defaultQuery (nestedList levels)).stripped := by
  have plain : (defaultQuery (nestedList levels)).isForeign = false := by
    have none : (defaultQuery (nestedList levels)).strings = [] := by
      simp [Definition.strings, defaultQuery, VariableDefinition.strings, nestedList_strings,
        Directive.strings, Selection.strings, Selection.stringsOfAll, Argument.strings,
        Build.bareField]
    rw [Definition.isForeign, none]
    rfl
  obtain ⟨again, parsed, same⟩ := FormatCommand.parseAll_definitionsText
    (List.forall_mem_singleton.mpr (defaultQuery_wellFormed (nestedList_wellFormed levels)))
    (List.forall_mem_singleton.mpr (defaultQuery_readable (nestedList_variableNames levels)))
    (List.forall_mem_singleton.mpr plain) "q"
  rw [definitionsText_nested] at parsed
  obtain ⟨definition, rfl, isStripped⟩ := List.map_eq_singleton_iff.mp same
  exact ⟨definition, parsed, isStripped⟩

end Sample

/-- A default value that is nested more deeply than the limit allows for leaves an
artifact that cannot be written. -/
theorem Compiler.unwritten_of_nested {levels : Nat} (deep : JsonValue.nestingLimit < levels + 4) :
    (SourceFile.mk "q" (Sample.nestedText levels) .empty).Bounded Sample.numberCompiler true ∧
      ∃ artifact,
        Sample.numberCompiler.compileSource "q" (Sample.nestedText levels) .empty true =
          .ok [artifact] ∧ artifact.compact = .error ⟨[], .nestedTooDeeply⟩ := by
  obtain ⟨definition, parsed, same⟩ := Sample.parseAll_nestedText levels
  obtain ⟨literal, default, isLiteral, isDefault, depth⟩ := Sample.nestedList_json levels
  obtain ⟨artifact, compiled, defaults⟩ := Sample.compile_defaultQuery isLiteral
  -- The definition that is read differs from the query in its positions only.
  have agrees := Sample.numberCompiler.compile_stripped
    (Sample.defaultQuery (Sample.nestedList levels)) .empty true
  rw [← same] at agrees
  have again : Sample.numberCompiler.compile definition .empty true = .ok artifact :=
    (agrees.trans (Sample.numberCompiler.compile_stripped definition .empty true).symm).eq_ok
      compiled
  have formed := Definition.wellFormed_of_parseAll parsed definition List.mem_cons_self
  obtain ⟨value, isValue, written⟩ := compile_written formed again
  obtain ⟨argument, isArgument, isLiteralOf⟩ := List.map_eq_singleton_iff.mp defaults
  rw [← isLiteralOf] at isDefault
  have inArguments : argument ∈ artifact.arguments := by simp [isArgument]
  have deeper := Artifact.depth_default_le isValue inArguments isDefault
  refine ⟨fun definitions isRead other member => ?_, artifact, ?_, ?_⟩
  · rw [parsed] at isRead
    cases isRead
    rw [List.mem_singleton.mp member]
    exact bounds_of_compile again
  · unfold compileSource StateT.run
    rw [DefinitionCompiler.compileSource_of_ok parsed,
      DefinitionCompiler.compileAll_cons_ok (congrArg (·, ()) again)]
    rfl
  · rw [written, if_neg (by omega)]

/-- A query with brackets around brackets up to a depth of ten thousand and one. -/
theorem Compiler.tenThousandLevels_unwritten :
    (SourceFile.mk "q" (Sample.nestedText 10000) .empty).Bounded Sample.numberCompiler true ∧
      ∃ artifact,
        Sample.numberCompiler.compileSource "q" (Sample.nestedText 10000) .empty true =
          .ok [artifact] ∧ artifact.compact = .error ⟨[], .nestedTooDeeply⟩ :=
  unwritten_of_nested (by decide)

end QueryTree
