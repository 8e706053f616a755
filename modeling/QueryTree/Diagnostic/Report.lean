import QueryTree.Diagnostic.Failure
import QueryTree.Json.Value

/-!
# Reports

A report collects what went wrong while many definitions were compiled. Diagnostics are shown to
the author; any other failure is internal, and a response only tells that there was one.
-/

namespace QueryTree

/-- The failures of many compilations, each kind in the order of arrival. -/
structure Report where
  internal : List Failure
  external : List Diagnostic
  deriving DecidableEq, Repr

/-- An error in the response to a client. -/
structure ResponseError where
  message : String
  locations : List Location
  /-- The broken rule and its family, unknown for an internal error. -/
  rule : Option (String × Family)
  deriving DecidableEq, Repr

namespace ResponseError

/-- The response to a diagnostic. Unknown locations are left out. -/
def ofDiagnostic (diagnostic : Diagnostic) : ResponseError where
  message := diagnostic.problem.message
  locations := diagnostic.locations.filter (!·.isUnknown)
  rule := some (diagnostic.problem.code, diagnostic.problem.family)

def internal : ResponseError := ⟨"internal error", [], none⟩

/-- The code of the broken rule, empty for an internal error. -/
def code (error : ResponseError) : String :=
  (error.rule.map (·.1)).getD ""

/-- A number under a key, unless it is zero. -/
def nonZero (key : String) (number : UInt32) : List (String × JsonValue) :=
  if number = 0 then [] else [(key, .number (toString number))]

def locationJson (location : Location) : JsonValue :=
  .object (nonZero "line" location.line ++ nonZero "column" location.column)

/-- An error as JSON, without the parts that are empty. -/
def json (error : ResponseError) : JsonValue :=
  let locations := match error.locations with
    | [] => []
    | locations => [("locations", .array (locations.map locationJson))]
  let extensions := match error.rule with
    | none => []
    | some (code, family) =>
      [("extensions", .object [("code", .string code), ("kind", .string family.text)])]
  .object ([("message", .string error.message)] ++ locations ++ extensions)

/-- An error as one line, with the line of its first location. -/
def text (error : ResponseError) : String :=
  match error.locations with
  | [] => "input: " ++ error.message
  | location :: _ => "input:" ++ toString location.line ++ ": " ++ error.message

end ResponseError

namespace Report

/-- Nothing went wrong. -/
def empty : Report := ⟨[], []⟩

/-- Whether anything went wrong. -/
def hasErrors (report : Report) : Bool :=
  !report.internal.isEmpty || !report.external.isEmpty

def addInternal (report : Report) (failure : Failure) : Report :=
  { report with internal := report.internal ++ [failure] }

def addExternal (report : Report) (diagnostic : Diagnostic) : Report :=
  { report with external := report.external ++ [diagnostic] }

/-- Note a failure: one that a diagnostic caused counts as that, others are internal. -/
def add (report : Report) (failure : Failure) : Report :=
  match failure.diagnostic? with
  | some diagnostic => report.addExternal diagnostic
  | none => report.addInternal failure

def locationText (location : Location) : String :=
  "\x7bLine:" ++ toString location.line ++ " Column:" ++ toString location.column ++ "\x7d"

def internalText (failure : Failure) : String := "internal: " ++ failure.text

def externalText (diagnostic : Diagnostic) : String :=
  "external: " ++ diagnostic.problem.message ++ ", locations: [" ++
    " ".intercalate (diagnostic.locations.map locationText) ++ "]"

/-- A line for each failure, internal ones first. -/
def text (report : Report) : String :=
  "\n".intercalate (report.internal.map internalText ++ report.external.map externalText)

/-- The errors of a response: the diagnostics, and one error for all internal failures. -/
def responseErrors (report : Report) : List ResponseError :=
  report.external.map ResponseError.ofDiagnostic ++
    if report.internal.isEmpty then [] else [.internal]

end Report

end QueryTree
