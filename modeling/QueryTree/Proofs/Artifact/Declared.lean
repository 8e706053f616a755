import QueryTree.Proofs.Artifact.Fresh
import QueryTree.Proofs.Language.QuotedString

/-!
# What a source file declares

The declarations at the top level of a file are read off its lines: constants stand in
groups, and functions begin a line of their own.  A file that embeds artifacts declares
their identifiers in order and nothing else.
-/

namespace QueryTree.Embedding

open Text (IsLettered)

/-! ## Reading lines -/

/-- What a line declares, and whether the next one stands in a group of constants. -/
def readLine (inGroup : Bool) (line : List Char) : List String × Bool :=
  if inGroup then
    match line with
    | '\t' :: rest => ([String.ofList (rest.takeWhile (· ≠ ' '))], true)
    | line => ([], line ≠ [')'])
  else if line = "const (".toList then ([], true)
  else if "func ".toList.isPrefixOf line then
    ([String.ofList ((line.drop 5).takeWhile (· ≠ '('))], false)
  else ([], false)

/-- What lines declare, inside of a group of constants or outside of one. -/
def declaredIn (inGroup : Bool) : List (List Char) → List String
  | [] => []
  | line :: lines => (readLine inGroup line).1 ++ declaredIn (readLine inGroup line).2 lines

/-- The identifiers that a source file declares at its top level. -/
def declared (text : String) : List String := declaredIn false (Lexer.splitLines text.toList)

/-- Whether reading a text, whatever follows it, yields declarations and goes on inside
of a group or outside of one. -/
def Scans (inGroup : Bool) (text : List Char) (names : List String) (inNext : Bool) : Prop :=
  ∀ rest, declaredIn inGroup (Lexer.splitLines (text ++ rest)) =
    names ++ declaredIn inNext (Lexer.splitLines rest)

theorem splitLines_append {line : List Char} (plain : '\n' ∉ line) (rest : List Char) :
    Lexer.splitLines (line ++ '\n' :: rest) = line :: Lexer.splitLines rest := by
  induction line with
  | nil => simp [Lexer.splitLines]
  | cons first line ih =>
    rw [List.mem_cons, not_or] at plain
    rw [List.cons_append, Lexer.splitLines, if_neg (Ne.symm plain.1), ih plain.2]

namespace Scans

variable {before between after : Bool} {left right : List Char} {names others : List String}

theorem nil : Scans before [] [] before := fun _ => rfl

theorem append (scansLeft : Scans before left names between)
    (scansRight : Scans between right others after) :
    Scans before (left ++ right) (names ++ others) after := by
  intro rest
  rw [List.append_assoc, scansLeft, scansRight, List.append_assoc]

theorem line {line : List Char} (plain : '\n' ∉ line)
    (read : readLine before line = (names, after)) : Scans before (line ++ ['\n']) names after := by
  intro rest
  rw [List.append_assoc, List.singleton_append, splitLines_append plain, declaredIn, read]

variable {texts : List String}

/-- The texts of items are read one after the other. -/
theorem join {α : Type} {found : α → List String} {items : List α}
    (each : List.Forall₂ (fun item text => Scans before text.toList (found item) before) items
      texts) : Scans before (String.join texts).toList (items.flatMap found) before := by
  rw [String.toList_join]
  induction each with
  | nil => exact nil
  | cons first _ ih =>
    rw [List.flatMap_cons, List.flatMap_cons]
    exact first.append ih

/-- Texts that declare nothing. -/
theorem quiet (each : ∀ text ∈ texts, Scans before text.toList [] before) :
    Scans before (String.join texts).toList [] before := by
  have scans : Scans before (String.join texts).toList (texts.flatMap fun _ => []) before :=
    join (List.forall₂_same.mpr each)
  rwa [List.flatMap_eq_nil_iff.mpr fun _ _ => rfl] at scans

end Scans

/-! ## Texts on one line -/

/-- Whether a text has no line break. -/
def OnLine (text : String) : Prop := '\n' ∉ text.toList

instance (text : String) : Decidable (OnLine text) :=
  inferInstanceAs (Decidable ('\n' ∉ text.toList))

namespace OnLine

variable {left right text : String}

theorem append (ofLeft : OnLine left) (ofRight : OnLine right) : OnLine (left ++ right) := by
  simp only [OnLine, String.toList_append, List.mem_append, not_or] at *
  exact ⟨ofLeft, ofRight⟩

theorem quoted (text : String) : OnLine (Text.quoted text) := by
  have plain (character : Char) : '\n' ∉ Text.quotedChar character := by
    intro member
    exact absurd (Text.le_of_mem_quotedChar member) (by decide)
  simp [OnLine, Text.quoted, Text.quotedChars, plain]

/-- A text all of whose characters pass a test that line breaks fail. -/
theorem of_all {test : Char → Bool} (all : text.toList.all test = true)
    (fails : test '\n' = false) : OnLine text := by
  intro member
  have passes := List.all_eq_true.mp all '\n' member
  rw [fails] at passes
  cases passes

theorem of_isAlphanum (alphanumeric : text.toList.all Char.isAlphanum = true) : OnLine text :=
  of_all alphanumeric rfl

theorem lowerCamel (name : String) : OnLine (Text.lowerCamel name) :=
  of_isAlphanum (Text.isAlphanum_lowerCamel name)

theorem toString (number : Nat) : OnLine (ToString.toString number) := by
  intro member
  rw [Nat.toString_eq_repr, Nat.toList_repr] at member
  have digit := Nat.isDigit_of_mem_toDigits (by decide) (by decide) member
  cases digit

theorem intercalate {texts : List String} (each : ∀ text ∈ texts, OnLine text)
    (separator : OnLine left) : OnLine (left.intercalate texts) := by
  rw [OnLine, String.toList_intercalate]
  induction texts with
  | nil => simp
  | cons text texts ih =>
    have ofFirst := each text List.mem_cons_self
    have ofOthers := ih (List.forall_mem_cons.mp each).2
    cases texts with
    | nil => simpa [OnLine] using ofFirst
    | cons other texts =>
      simp only [List.map_cons, List.intercalate_cons_cons, List.mem_append, not_or]
      exact ⟨⟨ofFirst, separator⟩, ofOthers⟩

theorem padded (width : Nat) (onLine : OnLine text) : OnLine (Embedding.padded width text) := by
  apply append onLine
  simp [OnLine]

theorem rawMessage (onLine : OnLine text) : OnLine (Embedding.rawMessage text) :=
  append (append (by decide) onLine) (by decide)

end OnLine

variable {name text package : String} {fields : List (String × String)} {artifact : Artifact}
variable {initializer : Initializer}

theorem onLine_of_isName (isName : IsName name) : OnLine name := .of_all isName.all rfl

theorem onLine_slotVariables (taken slots : List String) :
    ∀ name ∈ slotVariables taken slots, OnLine name := by
  intro name member
  obtain ⟨slot, index, rfl⟩ := exists_of_mem_slotVariables member
  have base : OnLine (Text.lowerCamel slot ++ "Slot") := (OnLine.lowerCamel slot).append (by decide)
  cases index with
  | zero => exact base
  | succ index => exact base.append (OnLine.toString _)

/-! ## Lines of a file -/

/-- The texts of fields stand on their lines. -/
def FieldsOnLine (fields : List (String × String)) : Prop :=
  ∀ field ∈ fields, OnLine field.1 ∧ OnLine field.2

namespace FieldsOnLine

variable {fields others : List (String × String)} {key value : String}

theorem nil : FieldsOnLine [] := by simp [FieldsOnLine]

theorem cons (ofKey : OnLine key) (ofValue : OnLine value) (rest : FieldsOnLine fields) :
    FieldsOnLine ((key, value) :: fields) :=
  List.forall_mem_cons.mpr ⟨⟨ofKey, ofValue⟩, rest⟩

theorem append (left : FieldsOnLine fields) (right : FieldsOnLine others) :
    FieldsOnLine (fields ++ others) :=
  List.forall_mem_append.mpr ⟨left, right⟩

theorem fieldIf (condition : Bool) (ofKey : OnLine key) (ofValue : OnLine value) :
    FieldsOnLine (Embedding.fieldIf condition key value) := by
  cases condition with
  | false => exact nil
  | true => exact cons ofKey ofValue nil

end FieldsOnLine

theorem scans_line {before after : Bool} {level : Nat} {names : List String} (onLine : OnLine text)
    (read : readLine before (List.replicate level '\t' ++ text.toList) = (names, after)) :
    Scans before (line level text).toList names after := by
  have written : (line level text).toList =
      (List.replicate level '\t' ++ text.toList) ++ ['\n'] := by simp [line]
  rw [written]
  apply Scans.line _ read
  simpa [OnLine] using onLine

theorem scans_blank : Scans false ['\n'] [] false :=
  Scans.line (show '\n' ∉ [] by simp) rfl

/-- An indented line outside of a group declares nothing. -/
theorem scans_indented (level : Nat) (onLine : OnLine text) :
    Scans false (line (level + 1) text).toList [] false := by
  have read : readLine false (List.replicate (level + 1) '\t' ++ text.toList) = ([], false) := by
    simp [readLine, List.replicate_succ]
  exact scans_line onLine read

theorem scans_alignedFields (level : Nat) (onLine : FieldsOnLine fields) :
    Scans false (alignedFields (level + 1) fields).toList [] false := by
  apply Scans.quiet
  intro text member
  obtain ⟨field, inside, rfl⟩ := List.mem_map.mp member
  obtain ⟨key, value⟩ := onLine field inside
  apply scans_indented
  exact (((key.append (by decide)).padded _).append (by decide)).append value |>.append (by decide)

/-- An identifier ends at a character that is neither a letter nor a digit. -/
theorem takeWhile_identifier (alphanumeric : name.toList.all Char.isAlphanum = true) {stop : Char}
    (other : stop.isAlphanum = false) (rest : List Char) :
    (name.toList ++ stop :: rest).takeWhile (· ≠ stop) = name.toList := by
  have word : ∀ character ∈ name.toList, decide (character ≠ stop) = true := by
    intro character member
    rw [decide_eq_true_eq]
    rintro rfl
    rw [List.all_eq_true.mp alphanumeric character member] at other
    cases other
  rw [List.takeWhile_append_of_pos word]
  simp

/-! ## Constants -/

/-- A line of a group declares the constant that it begins with. -/
theorem scans_constant {value : String} (width : Nat)
    (alphanumeric : name.toList.all Char.isAlphanum = true) (onLine : OnLine value) :
    Scans true (line 1 (padded width name ++ " = " ++ value)).toList [name] true := by
  have plain : OnLine (padded width name ++ " = " ++ value) :=
    (((OnLine.of_isAlphanum alphanumeric).padded width).append (by decide)).append onLine
  obtain ⟨rest, written⟩ : ∃ rest, (padded width name ++ " = " ++ value).toList =
      name.toList ++ ' ' :: rest := by
    cases blanks : width - name.length with
    | zero => exact ⟨'=' :: ' ' :: value.toList, by simp [padded, blanks]⟩
    | succ count =>
      exact ⟨List.replicate count ' ' ++ ' ' :: '=' :: ' ' :: value.toList,
        by simp [padded, blanks, List.replicate_succ]⟩
  have read : readLine true
      (List.replicate 1 '\t' ++ (padded width name ++ " = " ++ value).toList) = ([name], true) := by
    rw [written]
    change ([String.ofList ((name.toList ++ ' ' :: rest).takeWhile (· ≠ ' '))], true) = ([name], true)
    rw [takeWhile_identifier alphanumeric rfl, String.ofList_toList]
  exact scans_line plain read

theorem isAlphanum_nodeConstant (definition : String) :
    (nodeConstant definition).toList.all Char.isAlphanum = true := by
  rw [nodeConstant, String.toList_append, List.all_append, Text.isAlphanum_lowerCamel]
  rfl

theorem isAlphanum_argumentsConstant (definition : String) :
    (argumentsConstant definition).toList.all Char.isAlphanum = true := by
  rw [argumentsConstant, String.toList_append, List.all_append, Text.isAlphanum_lowerCamel]
  rfl

theorem scans_constants (returned : constantsText artifact = .ok text) :
    Scans false text.toList [nodeConstant artifact.name, argumentsConstant artifact.name] false := by
  obtain ⟨node, _, returned⟩ := exists_of_bind_eq_ok returned
  obtain ⟨arguments, _, returned⟩ := exists_of_bind_eq_ok returned
  cases returned
  simp only [String.toList_append]
  have opens : Scans false (line 0 "const (").toList [] true := scans_line (by decide) rfl
  have closes : Scans true (line 0 ")").toList [] false := scans_line (by decide) rfl
  exact ((opens.append (scans_constant _ (isAlphanum_nodeConstant _) (.quoted _))).append
    (scans_constant _ (isAlphanum_argumentsConstant _) (.quoted _))).append closes

/-! ## Constructors -/

theorem onLine_initializerFields (returned : initializerFields initializer = .ok fields) :
    FieldsOnLine fields := by
  have kind : FieldsOnLine [("Kind", Text.quoted initializer.kind)] :=
    .cons (by decide) (.quoted _) .nil
  have last : FieldsOnLine [("Module", Text.quoted initializer.place.module),
      ("Property", Text.quoted initializer.place.property),
      ("Slot", Text.quoted initializer.slot)] :=
    .cons (by decide) (.quoted _) (.cons (by decide) (.quoted _)
      (.cons (by decide) (.quoted _) .nil))
  unfold initializerFields at returned
  split at returned
  next checkContainer arguments isAccess =>
    have check : FieldsOnLine (fieldIf checkContainer "CheckContainer" "true") :=
      .fieldIf _ (by decide) (by decide)
    cases arguments with
    | none =>
      cases returned
      exact ((FieldsOnLine.nil.append check).append kind).append last
    | some value =>
      obtain ⟨json, _, returned⟩ := exists_of_bind_eq_ok returned
      cases returned
      have arguments : FieldsOnLine [("Arguments", rawMessage (Text.quoted json.compact))] :=
        .cons (by decide) (OnLine.quoted _).rawMessage .nil
      exact ((arguments.append check).append kind).append last
  next localProperty isAccess =>
    cases returned
    exact (kind.append (.fieldIf _ (by decide) (by decide))).append last

theorem scans_initializer (onLine : OnLine name)
    (returned : initializerText initializer name = .ok text) :
    Scans false text.toList [] false := by
  obtain ⟨fields, areFields, returned⟩ := exists_of_bind_eq_ok returned
  cases returned
  simp only [String.toList_append]
  have opens := scans_indented 0 (onLine.append (show OnLine " := &cqir.SlotInitializer\x7b" by
    decide))
  have closes := scans_indented 0 (show OnLine "\x7d" by decide)
  exact (opens.append (scans_alignedFields 1 (onLine_initializerFields areFields))).append closes

theorem onLine_documentFields (artifact : Artifact) {slots : List String}
    (onLine : ∀ slot ∈ slots, OnLine slot) : FieldsOnLine (documentFields artifact slots) := by
  unfold documentFields
  apply FieldsOnLine.append
  · apply FieldsOnLine.append
    · exact .cons (by decide) (OnLine.of_isAlphanum (isAlphanum_argumentsConstant _)).rawMessage
        (.cons (by decide) (.quoted _) (.cons (by decide) (.quoted _) (.cons (by decide)
          (OnLine.of_isAlphanum (isAlphanum_nodeConstant _)).rawMessage .nil)))
    · split
      · exact .cons (by decide) (.quoted _) .nil
      · exact .nil
  · apply FieldsOnLine.fieldIf _ (by decide)
    exact ((show OnLine "[]*cqir.SlotInitializer\x7b" by decide).append
      (OnLine.intercalate onLine (by decide))).append (by decide)

/-- The line that a constructor begins with declares it. -/
theorem scans_function (alphanumeric : name.toList.all Char.isAlphanum = true) :
    Scans false (line 0 ("func " ++ name ++ "() *cqir.Document \x7b")).toList [name] false := by
  have onLine : OnLine ("func " ++ name ++ "() *cqir.Document \x7b") :=
    ((show OnLine "func " by decide).append (.of_isAlphanum alphanumeric)).append (by decide)
  have read : readLine false (List.replicate 0 '\t' ++
      ("func " ++ name ++ "() *cqir.Document \x7b").toList) = ([name], false) := by
    have written : ("func " ++ name ++ "() *cqir.Document \x7b").toList = "func ".toList ++
        (name.toList ++ '(' :: ") *cqir.Document \x7b".toList) := by simp
    rw [written]
    change ([String.ofList ((name.toList ++ '(' :: ") *cqir.Document \x7b".toList).takeWhile
      (· ≠ '('))], false) = ([name], false)
    rw [takeWhile_identifier alphanumeric rfl, String.ofList_toList]
  exact scans_line onLine read

/-- A comment declares nothing. -/
theorem scans_comment (onLine : OnLine text) :
    Scans false (line 0 ("// " ++ text)).toList [] false := by
  have read : readLine false (List.replicate 0 '\t' ++ ("// " ++ text).toList) = ([], false) := by
    simp [readLine]
  exact scans_line ((show OnLine "// " by decide).append onLine) read

/-- Whether the name of an artifact and the word for its operation stand on one line. -/
structure IsOnLine (artifact : Artifact) : Prop where
  name : OnLine artifact.name
  operation : ∀ operation, artifact.operation = some operation → OnLine operation

theorem IsOnLine.kind (onLine : IsOnLine artifact) :
    OnLine (artifact.operation.getD "fragment") := by
  cases found : artifact.operation with
  | none => decide
  | some operation => exact onLine.operation operation found

theorem scans_constructor (onLine : IsOnLine artifact)
    (returned : constructorText artifact = .ok text) :
    Scans false text.toList [constructorName artifact.name] false := by
  obtain ⟨initializers, areInitializers, returned⟩ := exists_of_bind_eq_ok returned
  cases returned
  have alphanumeric : (constructorName artifact.name).toList.all Char.isAlphanum = true :=
    Text.isAlphanum_upperCamel artifact.name
  have comment : Scans false (line 0 ("// " ++ (constructorName artifact.name ++
      " returns the compiled " ++ artifact.operation.getD "fragment" ++ " " ++
        artifact.name))).toList [] false := by
    apply scans_comment
    exact ((((OnLine.of_isAlphanum alphanumeric).append (by decide)).append onLine.kind).append
      (by decide)).append onLine.name
  have body : Scans false (String.join initializers).toList [] false := by
    apply Scans.quiet
    intro text member
    obtain ⟨⟨initializer, slot⟩, inside, returned⟩ := exists_of_mapM_eq_ok areInitializers member
    exact scans_initializer (onLine_slotVariables _ _ slot (List.of_mem_zip inside).2) returned
  have fields := scans_alignedFields 1
    (onLine_documentFields artifact
      (onLine_slotVariables [] (artifact.substitutions.map (·.slot))))
  have opens := scans_indented 0 (show OnLine "return &cqir.Document\x7b" by decide)
  have closes := scans_indented 0 (show OnLine "\x7d" by decide)
  have ends : Scans false (line 0 "\x7d").toList [] false := scans_line (by decide) rfl
  have scans := (((((comment.append (scans_function alphanumeric)).append body).append
    opens).append fields).append closes).append ends
  simpa [String.append_assoc] using scans

theorem scans_artifact (onLine : IsOnLine artifact) (returned : artifactText artifact = .ok text) :
    Scans false text.toList (identifiers artifact.name) false := by
  obtain ⟨constants, areConstants, returned⟩ := exists_of_bind_eq_ok returned
  obtain ⟨constructor, isConstructor, returned⟩ := exists_of_bind_eq_ok returned
  cases returned
  have scans := ((scans_blank.append (scans_constants areConstants)).append scans_blank).append
    (scans_constructor onLine isConstructor)
  simpa [identifiers] using scans

/-! ## Files -/

theorem scans_imports : Scans false imports.toList [] false := by
  have opens : Scans false (line 0 "import (").toList [] false := scans_line (by decide) rfl
  have json := scans_indented 0 (show OnLine "\"encoding/json\"" by decide)
  have runtime := scans_indented 0
    (show OnLine "cqir \"github.com/wundergraph/cqir/pkg/cqir\"" by decide)
  have closes : Scans false (line 0 ")").toList [] false := scans_line (by decide) rfl
  have scans := (((scans_blank.append opens).append json).append runtime).append closes
  simpa [imports] using scans

theorem scans_header (onLine : OnLine package) :
    Scans false ("// Code generated by cqir. DO NOT EDIT.\n\npackage " ++ package ++ "\n").toList []
      false := by
  have comment : Scans false ("// Code generated by cqir. DO NOT EDIT.".toList ++ ['\n']) []
      false := Scans.line (by decide) rfl
  have read : readLine false ("package ".toList ++ package.toList) = ([], false) := by
    simp [readLine]
  have clause : Scans false ("package ".toList ++ package.toList ++ ['\n']) [] false := by
    have plain : '\n' ∉ "package ".toList ++ package.toList := by simpa [OnLine] using onLine
    exact Scans.line plain read
  have scans := (comment.append scans_blank).append clause
  simpa using scans

/-- A file that embeds artifacts declares their identifiers. -/
theorem declared_file {artifacts : List Artifact} (ofPackage : OnLine package)
    (onLine : ∀ artifact ∈ artifacts, IsOnLine artifact)
    (succeeded : file package artifacts = .ok text) :
    declared text = artifacts.flatMap fun artifact => identifiers artifact.name := by
  obtain ⟨parts, areParts, rfl⟩ := file_ok succeeded
  obtain ⟨related, _, _⟩ := artifactTexts_ok areParts
  have areImports : Scans false (if parts.isEmpty then "" else imports).toList [] false := by
    split
    · exact Scans.nil
    · exact scans_imports
  have areArtifacts : Scans false (String.join parts).toList
      (artifacts.flatMap fun artifact => identifiers artifact.name) false := by
    apply Scans.join
    have within := List.forall₂_and_left _ _ |>.mpr ⟨onLine, related⟩
    exact within.imp fun _ _ ⟨ofArtifact, returned⟩ => scans_artifact ofArtifact returned
  have scans := (((scans_header ofPackage).append areImports).append areArtifacts) []
  simpa [declared, Lexer.splitLines, declaredIn, readLine] using scans

/-- A file declares three identifiers for each artifact.  They are all different exactly
if no artifact whose name begins with an underscore has a constant that is the constructor
of another one.  No file is written if two constructors are the same, which is reported,
or if an artifact cannot be written. -/
theorem file_declares {package : String} {artifacts : List Artifact}
    (lettered : ∀ artifact ∈ artifacts, IsLettered artifact.name) :
    (∀ text, file package artifacts = .ok text →
      (artifacts.map fun artifact => constructorName artifact.name).Nodup ∧
      ((artifacts.flatMap fun artifact => identifiers artifact.name).Nodup ↔
        ∀ artifact ∈ artifacts, ∀ other ∈ artifacts, ¬ Clash artifact.name other.name) ∧
      (OnLine package → (∀ artifact ∈ artifacts, ∀ operation,
          artifact.operation = some operation → OnLine operation) →
        declared text = artifacts.flatMap fun artifact => identifiers artifact.name)) ∧
    ∀ failure, file package artifacts = .error failure →
      ReportsDuplicate artifacts failure ∨
        ∃ artifact ∈ artifacts, artifactText artifact = .error failure := by
  constructor
  · intro text succeeded
    obtain ⟨parts, areParts, _⟩ := file_ok succeeded
    obtain ⟨_, distinct, _⟩ := artifactTexts_ok areParts
    refine ⟨distinct, ?_, ?_⟩
    · exact nodup_flatMap_identifiers_iff lettered distinct
    · intro ofPackage operations
      apply declared_file ofPackage _ succeeded
      intro artifact member
      exact ⟨onLine_of_isName (lettered artifact member).1, operations artifact member⟩
  · intro failure failed
    exact file_error failed

namespace Sample

/-- The artifact of a fragment that selects nothing. -/
def fragmentArtifact (name : String) : Artifact :=
  ⟨name, none, [], .fragment ⟨name, "User", "", none, .empty⟩ .none, []⟩

/-- Fragments whose names are alike. -/
def profileArtifacts : List Artifact :=
  ["Profile_user", "Profile", "profileNode"].map fragmentArtifact

/-- Two fragments that clash. -/
def clashingArtifacts : List Artifact := ["_Profile", "ProfileNode"].map fragmentArtifact

end Sample

/-- Names that are alike have different identifiers, unless they begin with an
underscore. -/
theorem profileArtifacts_declare :
    ∃ text, file "generated" Sample.profileArtifacts = .ok text ∧
      declared text = ["profileUserNode", "profileUserArgumentDefinitions", "ProfileUser",
        "profileNode", "profileArgumentDefinitions", "Profile",
        "profileNodeNode", "profileNodeArgumentDefinitions", "ProfileNode"] ∧
      (declared text).Nodup := by
  have written : (file "generated" Sample.profileArtifacts).toOption.isSome = true := by
    decide +kernel
  have lettered : ∀ artifact ∈ Sample.profileArtifacts, IsLettered artifact.name := by
    decide +kernel
  have noClash : ∀ artifact ∈ Sample.profileArtifacts, ∀ other ∈ Sample.profileArtifacts,
      ¬ Clash artifact.name other.name := by decide +kernel
  cases succeeded : file "generated" Sample.profileArtifacts with
  | error failure =>
    rw [succeeded] at written
    cases written
  | ok text =>
    obtain ⟨_, nodup, reads⟩ := (file_declares lettered).1 text succeeded
    have names := reads (by decide) (by decide +kernel)
    refine ⟨text, rfl, ?_, ?_⟩
    · rw [names]
      decide +kernel
    · rw [names]
      exact nodup.mpr noClash

/-- A file is written for two fragments although a constant of the one is the
constructor of the other. -/
theorem clashingArtifacts_declare :
    (∀ artifact ∈ Sample.clashingArtifacts, IsLettered artifact.name) ∧
      ∃ text, file "generated" Sample.clashingArtifacts = .ok text ∧
        declared text = ["ProfileNode", "ProfileArgumentDefinitions", "Profile",
          "profileNodeNode", "profileNodeArgumentDefinitions", "ProfileNode"] ∧
        ¬ (declared text).Nodup := by
  have written : (file "generated" Sample.clashingArtifacts).toOption.isSome = true := by
    decide +kernel
  have lettered : ∀ artifact ∈ Sample.clashingArtifacts, IsLettered artifact.name := by
    decide +kernel
  have onLine : ∀ artifact ∈ Sample.clashingArtifacts, IsOnLine artifact := by
    intro artifact member
    refine ⟨onLine_of_isName (lettered artifact member).1, ?_⟩
    revert artifact
    decide +kernel
  have names : Sample.clashingArtifacts.flatMap (fun artifact => identifiers artifact.name) =
      ["ProfileNode", "ProfileArgumentDefinitions", "Profile", "profileNodeNode",
        "profileNodeArgumentDefinitions", "ProfileNode"] := by decide +kernel
  cases succeeded : file "generated" Sample.clashingArtifacts with
  | error failure =>
    rw [succeeded] at written
    cases written
  | ok text =>
    have reads := (declared_file (by decide) onLine succeeded).trans names
    refine ⟨lettered, text, rfl, reads, ?_⟩
    rw [reads]
    decide

end QueryTree.Embedding
