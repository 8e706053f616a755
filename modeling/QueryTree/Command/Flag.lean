import QueryTree.Text.Integer
import QueryTree.Text.Record

/-!
# Flags

The arguments of a command are words and flags in any order. A flag is given by its name after two
hyphens or by its letter after one; its value follows an equals sign or is the next argument.
Letters may be written together. A toggle needs no value. After two hyphens alone there are only
words.
-/

namespace QueryTree

/-- The kinds of values that a flag takes. -/
inductive FlagKind where
  | text
  | toggle
  | integer
  /-- Fields with commas between them, gathered over all times that the flag is given. -/
  | list
  deriving DecidableEq, Repr

/-- A flag of a command. -/
structure Flag where
  name : String
  letter : Option Char
  kind : FlagKind
  /-- The value if the flag is not given. -/
  default : String
  usage : String
  deriving DecidableEq, Repr

namespace Flag

/-- Whether a flag may be given without a value. -/
def isToggle (flag : Flag) : Bool := flag.kind = .toggle

def title (flag : Flag) : String :=
  match flag.letter with
  | some letter => "-" ++ String.singleton letter ++ ", --" ++ flag.name
  | none => "--" ++ flag.name

def ofName? (flags : List Flag) (name : String) : Option Flag :=
  flags.find? (·.name = name)

def ofLetter? (flags : List Flag) (letter : Char) : Option Flag :=
  flags.find? (·.letter = some letter)

end Flag

/-- What can be wrong with the flags of a command. -/
inductive FlagFault where
  /-- An argument that is not a flag, though it begins like one. -/
  | form (argument : String)
  | unknownName (name : String)
  /-- A letter that no flag has, and the letters from there on. -/
  | unknownLetter (letter : Char) (letters : String)
  | missingValue (argument : String)
  /-- A flag without a value, given by its letter. -/
  | missingLetterValue (letter : Char) (letters : String)
  | invalidValue (value : String) (flag : Flag) (reason : String)
  deriving DecidableEq, Repr

def FlagFault.message : FlagFault → String
  | .form argument => "bad flag syntax: " ++ argument
  | .unknownName name => "unknown flag: --" ++ name
  | .unknownLetter letter letters =>
    "unknown shorthand flag: " ++ Text.quotedLetter letter ++ " in -" ++ letters
  | .missingValue argument => "flag needs an argument: " ++ argument
  | .missingLetterValue letter letters =>
    "flag needs an argument: " ++ Text.quotedLetter letter ++ " in -" ++ letters
  | .invalidValue value flag reason =>
    "invalid argument " ++ Text.quoted value ++ " for " ++ Text.quoted flag.title ++ " flag: " ++
      reason

/-- A flag with a value that suits it. -/
structure GivenFlag where
  flag : Flag
  value : String
  deriving DecidableEq, Repr

namespace GivenFlag

def fields (value : String) : Except Text.RecordError (List String) :=
  if value = "" then .ok [] else Text.readRecord value

def fault? (flag : Flag) (value : String) : Option String :=
  match flag.kind with
  | .text => none
  | .toggle => if (Text.readBool? value).isSome then none else some (Text.boolMessage value)
  | .integer =>
    match Text.readInteger value with
    | .ok _ => none
    | .error fault => some (Text.integerMessage value fault)
  | .list =>
    match fields value with
    | .ok _ => none
    | .error error => some error.message

def make (flag : Flag) (value : String) : Except FlagFault GivenFlag :=
  match fault? flag value with
  | none => .ok ⟨flag, value⟩
  | some reason => .error (.invalidValue value flag reason)

end GivenFlag

/-- What a single argument is. -/
inductive ArgumentForm where
  | word
  /-- The mark after which there are only words. -/
  | mark
  | flags (given : List GivenFlag)
  /-- Toggles and a flag whose value is the next argument, and the fault if there is none. -/
  | pending (given : List GivenFlag) (flag : Flag) (fault : FlagFault)
  deriving Repr

namespace ArgumentForm

/-- Put a flag before those of an argument. -/
def addFlag (first : GivenFlag) : ArgumentForm → ArgumentForm
  | .flags given => .flags (first :: given)
  | .pending given flag fault => .pending (first :: given) flag fault
  | form => form

/-- The character with the code of the first byte of a character. -/
def leadingByte (char : Char) : Char :=
  if char.toNat < 0x80 then char
  else ((String.singleton char).toUTF8.toList.head?.map fun byte => Char.ofNat byte.toNat).getD char

def readLetters (flags : List Flag) : List Char → Except FlagFault ArgumentForm
  | [] => .ok (.flags [])
  | letter :: rest =>
    match Flag.ofLetter? flags letter with
    | none => .error (.unknownLetter (leadingByte letter) (String.ofList (letter :: rest)))
    | some flag =>
      match rest with
      | '=' :: first :: others => do
        let given ← GivenFlag.make flag (String.ofList (first :: others))
        return .flags [given]
      | _ =>
        if flag.isToggle then do
          let given ← GivenFlag.make flag "true"
          return addFlag given (← readLetters flags rest)
        else if rest.isEmpty then
          .ok (.pending [] flag (.missingLetterValue letter (String.singleton letter)))
        else do
          let given ← GivenFlag.make flag (String.ofList rest)
          return .flags [given]

/-- Read a flag that is given by its name; the text begins after the hyphens. -/
def readName (flags : List Flag) (argument : String) (text : List Char) :
    Except FlagFault ArgumentForm :=
  if text.head?.any fun first => first = '-' || first = '=' then .error (.form argument)
  else
    let name := String.ofList (text.takeWhile (· ≠ '='))
    match Flag.ofName? flags name with
    | none => .error (.unknownName name)
    | some flag =>
      match text.dropWhile (· ≠ '=') with
      | _ :: value => do return .flags [← GivenFlag.make flag (String.ofList value)]
      | [] =>
        if flag.isToggle then do return .flags [← GivenFlag.make flag "true"]
        else .ok (.pending [] flag (.missingValue argument))

/-- Read an argument. Letters that begin with `test.` are passed over. -/
def read (flags : List Flag) (argument : String) : Except FlagFault ArgumentForm :=
  match argument.toList with
  | ['-', '-'] => .ok .mark
  | '-' :: '-' :: text => readName flags argument text
  | '-' :: letter :: rest =>
    if "test.".toList.isPrefixOf (letter :: rest) then .ok (.flags [])
    else readLetters flags (letter :: rest)
  | _ => .ok .word

end ArgumentForm

/-- The arguments of a command, told apart. -/
structure Arguments where
  flags : List GivenFlag
  words : List String
  deriving Repr

namespace Arguments

/-- Put flags before those of arguments. -/
def addFlags (given : List GivenFlag) (arguments : Arguments) : Arguments :=
  { arguments with flags := given ++ arguments.flags }

def read (flags : List Flag) : List String → Except FlagFault Arguments
  | [] => .ok ⟨[], []⟩
  | argument :: rest => do
    match ← ArgumentForm.read flags argument with
    | .mark => return ⟨[], rest⟩
    | .word =>
      let others ← read flags rest
      return { others with words := argument :: others.words }
    | .flags given => return addFlags given (← read flags rest)
    | .pending given flag fault =>
      match rest with
      | [] => throw fault
      | value :: rest =>
        let last ← GivenFlag.make flag value
        return addFlags (given ++ [last]) (← read flags rest)

/-- The values that a flag was given, in their order. -/
def values (arguments : Arguments) (name : String) : List String :=
  (arguments.flags.filter (·.flag.name = name)).map (·.value)

def value? (arguments : Arguments) (name : String) : Option String :=
  (arguments.values name).getLast?

def value (arguments : Arguments) (flag : Flag) : String :=
  (arguments.value? flag.name).getD flag.default

def isOn (arguments : Arguments) (name : String) : Bool :=
  ((arguments.value? name).bind Text.readBool?).getD false

/-- The fields of a list, over all times that it was given. -/
def fields (arguments : Arguments) (name : String) : List String :=
  (arguments.values name).flatMap fun value => ((GivenFlag.fields value).toOption).getD []

end Arguments

/-- Whether an argument is a flag whose value is the next argument, judged by its looks: an unknown
flag is taken to have one. -/
def Flag.awaitsValue (flags : List Flag) (argument : String) : Bool :=
  match argument.toList with
  | '-' :: '-' :: name =>
    !name.contains '=' && !(Flag.ofName? flags (String.ofList name)).any Flag.isToggle
  | ['-', letter] =>
    letter ≠ '=' && letter.toNat < 0x80 && !(Flag.ofLetter? flags letter).any Flag.isToggle
  | _ => false

/-- The words among arguments, as far as they can be told before it is known which command they are
for. A flag whose value is the last argument ends the search. -/
def Flag.wordsAmong (flags : List Flag) : List String → List String
  | [] => []
  | argument :: rest =>
    if argument = "--" then []
    else if Flag.awaitsValue flags argument then
      match rest with
      | _ :: next :: others => wordsAmong flags (next :: others)
      | _ => []
    else if argument = "" || argument.startsWith "-" then wordsAmong flags rest
    else argument :: wordsAmong flags rest

end QueryTree
