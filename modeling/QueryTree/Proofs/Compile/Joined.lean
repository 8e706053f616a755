import QueryTree.Proofs.Compile.External
import QueryTree.Proofs.Document.Joined

/-!
# Compiling joined texts

A source is compiled if each of its definitions is, and the artifacts come in the order of
the definitions.  As positions do not matter for artifacts, texts with one definition each
can be compiled one by one or joined to one source.
-/

namespace QueryTree

namespace Compiler

variable {compiler : Compiler} {scope : Scope} {validation : Bool} {artifacts : List Artifact}

/-- Definitions are compiled in their order, each to an artifact of its own. -/
theorem compileAll_eq_ok_iff {definitions : List Definition} :
    ((compiler.definitions scope validation).compileAll definitions ()).1 = .ok artifacts ↔
      List.Forall₂ (fun definition artifact =>
        compiler.compile definition scope validation = .ok artifact) definitions artifacts := by
  induction definitions generalizing artifacts with
  | nil =>
    rw [List.forall₂_nil_left_iff]
    exact ⟨fun same => (Except.ok.inj same).symm, fun none => congrArg Except.ok none.symm⟩
  | cons definition definitions ih =>
    rw [List.forall₂_cons_left_iff]
    cases compiled : compiler.compile definition scope validation with
    | error failure =>
      have failed : compiler.definitions scope validation definition () =
          (.error failure, ()) := congrArg (·, ()) compiled
      rw [DefinitionCompiler.compileAll_cons_error failed]
      simp
    | ok first =>
      have succeeded : compiler.definitions scope validation definition () =
          (.ok first, ()) := congrArg (·, ()) compiled
      rw [DefinitionCompiler.compileAll_cons_ok succeeded]
      constructor
      · intro read
        cases rest : ((compiler.definitions scope validation).compileAll definitions ()).1 with
        | error failure =>
          rw [rest] at read
          cases read
        | ok others =>
          rw [rest] at read
          exact ⟨first, others, rfl, ih.mp rest, (Except.ok.inj read).symm⟩
      · rintro ⟨artifact, others, same, each, rfl⟩
        cases same
        rw [ih.mpr each]
        rfl

/-- A source is compiled like its definitions without positions. -/
theorem compileSource_eq_ok_iff {name text : String} {definitions : List Definition}
    (parsed : Definition.parseAll name text = .ok definitions) :
    compiler.compileSource name text scope validation = .ok artifacts ↔
      List.Forall₂ (fun definition artifact =>
        compiler.compile definition scope validation = .ok artifact)
        (definitions.map Definition.stripped) artifacts := by
  have same (definition : Definition) (artifact : Artifact) :
      compiler.compile definition scope validation = .ok artifact ↔
        compiler.compile definition.stripped scope validation = .ok artifact :=
    ⟨(compiler.compile_stripped definition scope validation).eq_ok,
      (compiler.compile_stripped definition scope validation).symm.eq_ok⟩
  unfold compileSource StateT.run
  rw [DefinitionCompiler.compileSource_of_ok parsed, compileAll_eq_ok_iff,
    List.forall₂_map_left_iff]
  exact ⟨.imp fun _ _ => (same _ _).mp, .imp fun _ _ => (same _ _).mpr⟩

end Compiler

theorem Definition.map_stripped_of_unplaced {left right : List Definition}
    (same : left.map Definition.unplaced = right.map Definition.unplaced) :
    left.map Definition.stripped = right.map Definition.stripped := by
  have stripped := congrArg (List.map Definition.stripped) same
  simpa [Function.comp_def, Definition.stripped_unplaced] using stripped

/-- A text with one definition is compiled like this definition. -/
theorem Compiler.compileSource_eq_ok_singleton_iff {compiler : Compiler} {scope : Scope}
    {validation : Bool} {text : String} {definition : Definition}
    (read : Definition.parse text = .ok definition) (name : String) (artifact : Artifact) :
    compiler.compileSource name text scope validation = .ok [artifact] ↔
      compiler.compile definition.stripped scope validation = .ok artifact := by
  obtain ⟨found, parsed, same⟩ := (Joined.single text).parseAll (.cons read .nil) name
  rw [compileSource_eq_ok_iff parsed, Definition.map_stripped_of_unplaced same]
  simp

namespace Joined

/-- Texts with one definition each are joined to a source with their definitions, in the
order of the texts.  It compiles if and only if each of the texts does, and the artifacts
are those of the texts, in their order. -/
theorem parses_and_compiles {texts : List String} {definitions : List Definition} {text : String}
    (accepted : List.Forall₂ (fun part definition => Definition.parse part = .ok definition) texts
      definitions)
    (joined : Joined texts text) (source : String) :
    (∃ found, Definition.parseAll source text = .ok found ∧
      found.map Definition.unplaced = definitions.map Definition.unplaced) ∧
    ∀ (compiler : Compiler) (scope : Scope) (validation : Bool) (name : String)
      (artifacts : List Artifact),
      compiler.compileSource source text scope validation = .ok artifacts ↔
        List.Forall₂ (fun part artifact =>
          compiler.compileSource name part scope validation = .ok [artifact]) texts artifacts := by
  obtain ⟨found, parsed, same⟩ := joined.parseAll accepted source
  refine ⟨⟨found, parsed, same⟩, fun compiler scope validation name artifacts => ?_⟩
  rw [compiler.compileSource_eq_ok_iff parsed, Definition.map_stripped_of_unplaced same]
  clear joined parsed same
  induction accepted generalizing artifacts with
  | nil => simp
  | cons read _ ih =>
    rw [List.map_cons, List.forall₂_cons_left_iff, List.forall₂_cons_left_iff]
    simp only [ih, compiler.compileSource_eq_ok_singleton_iff read]

end Joined

namespace Sample

/-- A fragment before a comment. -/
def itemPart : String := "fragment Item on Query \x7b a \x7d # end"

/-- A query with a block string of two lines, before a carriage return. -/
def queryPart : String := "query Q($x: Int = \"\"\"one\r\ntwo\"\"\") \x7b a \x7d\r"

/-- A fragment with an alias. -/
def aliasPart : String := "fragment Alias on Query \x7b b: a \x7d"

/-- The texts joined by a line feed, which ends the comment, and by a blank. -/
def joinedText : String := itemPart ++ "\n" ++ (queryPart ++ " " ++ aliasPart)

theorem joinedText_joined : Joined [itemPart, queryPart, aliasPart] joinedText :=
  .line itemPart (.blank (by decide +kernel) (.single aliasPart))

end Sample

/-- The joined texts are read as a fragment, a query and a fragment, and compiled to an
artifact for each of them. -/
theorem Joined.joinedText_parses_and_compiles :
    ∃ item query other, Definition.parse Sample.itemPart = .ok item ∧
      Definition.parse Sample.queryPart = .ok query ∧
      Definition.parse Sample.aliasPart = .ok other ∧
      (∃ found, Definition.parseAll "s" Sample.joinedText = .ok found ∧
        found.map Definition.unplaced = [item.unplaced, query.unplaced, other.unplaced]) ∧
      ∃ artifacts, artifacts.map Artifact.name = ["Item", "Q", "Alias"] ∧
        Sample.numberCompiler.compileSource "s" Sample.joinedText .empty true = .ok artifacts := by
  obtain ⟨item, isItem⟩ : ∃ item, Definition.parse Sample.itemPart = .ok item :=
    exists_of_isOk (by decide +kernel)
  obtain ⟨query, isQuery⟩ : ∃ query, Definition.parse Sample.queryPart = .ok query :=
    exists_of_isOk (by decide +kernel)
  obtain ⟨other, isOther⟩ : ∃ other, Definition.parse Sample.aliasPart = .ok other :=
    exists_of_isOk (by decide +kernel)
  obtain ⟨parsed, compiles⟩ := parses_and_compiles
    (.cons isItem (.cons isQuery (.cons isOther .nil))) Sample.joinedText_joined "s"
  obtain ⟨first, isFirst, firstName⟩ : ∃ artifact, Sample.numberCompiler.compileSource "p"
      Sample.itemPart .empty true = .ok [artifact] ∧ artifact.name = "Item" :=
    exists_singleton_of_map (by decide +kernel)
  obtain ⟨second, isSecond, secondName⟩ : ∃ artifact, Sample.numberCompiler.compileSource "p"
      Sample.queryPart .empty true = .ok [artifact] ∧ artifact.name = "Q" :=
    exists_singleton_of_map (by decide +kernel)
  obtain ⟨third, isThird, thirdName⟩ : ∃ artifact, Sample.numberCompiler.compileSource "p"
      Sample.aliasPart .empty true = .ok [artifact] ∧ artifact.name = "Alias" :=
    exists_singleton_of_map (by decide +kernel)
  refine ⟨item, query, other, isItem, isQuery, isOther, parsed, [first, second, third], ?_, ?_⟩
  · simp [firstName, secondName, thirdName]
  · exact (compiles _ _ _ "p" _).mpr (.cons isFirst (.cons isSecond (.cons isThird .nil)))

end QueryTree
