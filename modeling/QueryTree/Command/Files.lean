import QueryTree.Diagnostic.Failure

/-!
# Files of a command

A command reads and writes files of a working directory, given as a table of contents by path. A
path leads to a file, to a directory or nowhere; what cannot be opened is reported in the words of
the operating system.
-/

namespace QueryTree

/-- The files that a command can see, by their paths without detours. -/
structure FileTable where
  files : List (String × String)
  /-- Directories besides those that the paths of the files name. -/
  directories : List String
  deriving Repr

/-- What a path leads to. -/
inductive Place where
  | file (content : String)
  | directory
  /-- There is nothing, but a file could be made. -/
  | vacant
  /-- The way to it does not exist. -/
  | nowhere
  /-- Something on the way is a file. -/
  | beyondFile
  /-- The path or one of its names has too many bytes. -/
  | tooLong
  /-- The path is none that the operating system takes. -/
  | invalid
  deriving DecidableEq, Repr

namespace FileTable

def empty : FileTable := ⟨[], []⟩

/-- The parts of a path that name something, with those taken back that a step upwards follows. -/
def pathParts (path : String) : List String :=
  (path.splitOn "/").foldl
    (fun parts part =>
      if part = "" || part = "." then parts
      else if part = ".." then parts.dropLast
      else parts ++ [part])
    []

/-- The path of given parts, from the root or from the working directory. -/
def ofParts (absolute : Bool) (parts : List String) : String :=
  (if absolute then "/" else "") ++ "/".intercalate parts

def clean (path : String) : String := ofParts (path.startsWith "/") (pathParts path)

/-- The directory that a path lies in, without detours. -/
def parent (path : String) : String :=
  ofParts (path.startsWith "/") (pathParts path).dropLast

/-- Whether a path without detours leads to a directory. -/
def isDirectory (table : FileTable) (path : String) : Bool :=
  path = "" || path = "/" || table.directories.contains path ||
    table.files.any fun file => file.1.startsWith (path ++ "/")

/-- The most bytes that a name may have. -/
def nameLimit : Nat := 255

/-- The most bytes that a path may have. -/
def pathLimit : Nat := 4095

/-- The directory above one, given by its parts. Above the working directory is one of which nothing
else is known; above the root is the root. -/
def upwards (absolute : Bool) (parents : List String) : Option (List String) :=
  if parents.isEmpty && !absolute then none else some parents.dropLast

/-- What the parts of a path lead to from a directory. -/
def walk (table : FileTable) (absolute : Bool) : Option (List String) → List String → Place
  | _, [] => .directory
  | directory, part :: parts =>
    if part = "" || part = "." then walk table absolute directory parts
    else if part = ".." then
      walk table absolute (directory.bind (upwards absolute)) parts
    else if nameLimit < part.utf8ByteSize then .tooLong
    else
      let missing : Place := if parts.all (· = "") then .vacant else .nowhere
      match directory with
      | none => missing
      | some parents =>
        let path := ofParts absolute (parents ++ [part])
        match table.files.lookup path with
        | some content => if parts.isEmpty then .file content else .beyondFile
        | none =>
          if table.isDirectory path then
            walk table absolute (some (parents ++ [part])) parts
          else missing

def place (table : FileTable) (path : String) : Place :=
  if path = "" then .nowhere
  else if path.toList.contains '\x00' then .invalid
  else if pathLimit < path.utf8ByteSize then .tooLong
  else table.walk (path.startsWith "/") (some []) (path.splitOn "/")

def refusal (action path reason : String) : Failure :=
  .ofMessage (action ++ " " ++ path ++ ": " ++ reason)

def notOpened (path : String) : Place → Failure
  | .beyondFile => refusal "open" path "not a directory"
  | .tooLong => refusal "open" path "file name too long"
  | .invalid => refusal "open" path "invalid argument"
  | _ => refusal "open" path "no such file or directory"

/-- The content of a file. A directory can be opened, but not read. -/
def read (table : FileTable) (path : String) : Except Failure String :=
  match table.place path with
  | .file content => .ok content
  | .directory => .error (refusal "read" path "is a directory")
  | place => .error (notOpened path place)

/-- Check that a file can be made or emptied. -/
def checkWritable (table : FileTable) (path : String) : Except Failure Unit :=
  match table.place path with
  | .file _ => .ok ()
  | .directory => .error (refusal "open" path "is a directory")
  | .vacant => if path.endsWith "/" then .error (refusal "open" path "is a directory") else .ok ()
  | place => .error (notOpened path place)

def write (table : FileTable) (path content : String) : FileTable :=
  { table with
    files := (clean path, content) :: table.files.filter (·.1 ≠ clean path) }

/-- The table of files with given contents, of which a later one replaces an earlier one. -/
def ofList (files : List (String × String)) : FileTable :=
  files.foldl (fun table file => table.write file.1 file.2) empty

end FileTable

/-- What a command wrote, and the failure that it ended in. -/
structure Outcome where
  /-- The text on the standard output. -/
  out : String
  /-- The text on the standard error output. -/
  err : String
  failure : Option Failure
  deriving Repr

namespace Outcome

/-- A command that failed before it wrote anything. -/
def failed (failure : Failure) : Outcome := ⟨"", "", some failure⟩

def wrote (text : String) : Outcome := ⟨text, "", none⟩

end Outcome

end QueryTree
