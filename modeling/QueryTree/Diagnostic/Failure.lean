import QueryTree.Diagnostic.Problem
import QueryTree.Schema.Fault

/-!
# Diagnostics and failures

A diagnostic is a problem with the places that show it. A failure is whatever can stop an operation
of this library: a diagnostic, an error in a schema, a value that cannot be serialized, a cancelled
run or a plain message. On its way up a failure gathers contexts, which come before its own text.
-/

namespace QueryTree

/-- A line and a column, both counted from one; zeros stand for an unknown place. -/
structure Location where
  line : UInt32
  column : UInt32
  deriving DecidableEq, Repr

namespace Location

/-- The location of a line and a column, unknown unless both are at least one. -/
def ofNumbers (line column : Int) : Location :=
  if line < 1 ∨ column < 1 then ⟨0, 0⟩ else ⟨UInt32.ofInt line, UInt32.ofInt column⟩

def ofPosition (position : Position) : Location :=
  ofNumbers position.line position.column

/-- Whether nothing is known of the place. -/
def isUnknown (location : Location) : Bool :=
  location.line == 0

/-- Line and column, separated by a colon. -/
def text (location : Location) : String :=
  toString location.line ++ ":" ++ toString location.column

end Location

/-- A problem and where it shows. -/
structure Diagnostic where
  problem : Problem
  locations : List Location
  deriving DecidableEq, Repr

namespace Diagnostic

/-- A problem at a location, which is left out if it is unknown. -/
def atLocation (problem : Problem) (location : Location) : Diagnostic :=
  ⟨problem, if location.isUnknown then [] else [location]⟩

def atPosition (problem : Problem) (position : Position) : Diagnostic :=
  atLocation problem (.ofPosition position)

def unplaced (problem : Problem) : Diagnostic := ⟨problem, []⟩

/-- The diagnostic of a source that cannot be read. -/
def ofSyntaxError (error : SyntaxError) : Diagnostic :=
  ⟨.parseFailure error.fault.message, [.ofPosition error.position]⟩

/-- The message of the problem, followed by its first location if that is known. -/
def text (diagnostic : Diagnostic) : String :=
  match diagnostic.locations with
  | [] => diagnostic.problem.message
  | location :: _ =>
    if location.isUnknown then diagnostic.problem.message
    else diagnostic.problem.message ++ " (" ++ location.text ++ ")"

end Diagnostic

/-- The reasons for which an operation can fail. -/
inductive Failure.Cause where
  | diagnostic (diagnostic : Diagnostic)
  | schema (error : SchemaError)
  /-- A value of a type that a literal cannot have. -/
  | unknownLiteral (type : String)
  | invalidNumber (raw : String)
  /-- A value that is nested too deeply to be written. -/
  | nestedTooDeeply
  /-- The run was cancelled. -/
  | canceled
  | message (text : String)
  deriving DecidableEq, Repr

def Failure.Cause.text : Failure.Cause → String
  | .diagnostic found => found.text
  | .schema error => error.text
  | .unknownLiteral type => "cqir: unknown literal type: " ++ type
  | .invalidNumber raw => "json: invalid number literal, trying to marshal " ++ Text.quoted raw
  | .nestedTooDeeply => "json: exceeded max depth"
  | .canceled => "context canceled"
  | .message text => text

/-- A cause and the contexts in which it arose, the outermost first. -/
structure Failure where
  context : List String
  cause : Failure.Cause
  deriving DecidableEq, Repr

namespace Failure

def ofDiagnostic (diagnostic : Diagnostic) : Failure := ⟨[], .diagnostic diagnostic⟩

def ofMessage (text : String) : Failure := ⟨[], .message text⟩

def within (context : String) (failure : Failure) : Failure :=
  { failure with context := context :: failure.context }

/-- The contexts and the cause, separated by colons. -/
def text (failure : Failure) : String :=
  failure.context.foldr (fun context rest => context ++ ": " ++ rest) failure.cause.text

/-- The diagnostic that caused the failure, if it was one. -/
def diagnostic? (failure : Failure) : Option Diagnostic :=
  match failure.cause with
  | .diagnostic diagnostic => some diagnostic
  | _ => none

end Failure

end QueryTree
