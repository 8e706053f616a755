import QueryTree.Artifact.Basic
import QueryTree.Yaml.Document

/-!
# Artifacts as text

An artifact is written as JSON, on one line or indented, or as YAML.
-/

namespace QueryTree.Artifact

/-- Let the cause of a failed writing be a failure. -/
def orFail {α : Type} (written : Written α) : Except Failure α :=
  written.mapError fun cause => ⟨[], cause⟩

/-- An artifact as JSON that may be written as a whole. -/
def limitedJson (artifact : Artifact) : Written JsonValue := do
  (← artifact.json).limited

def compact (artifact : Artifact) : Except Failure String :=
  return (← orFail artifact.limitedJson).compact

def indented (artifact : Artifact) : Except Failure String :=
  return (← orFail artifact.limitedJson).indented

def yaml (artifact : Artifact) : Except Failure String := do
  (← orFail artifact.limitedJson).yaml.mapError .ofMessage

def indentedAll (artifacts : List Artifact) : Except Failure String := do
  let items ← artifacts.mapM fun artifact => orFail artifact.limitedJson
  return (← orFail (JsonValue.array items).limited).indented

end QueryTree.Artifact
