import QueryTree.Compile.Compiler
import QueryTree.Setting.Value
import QueryTree.Text.Integer

/-!
# The settings of a run

Settings come from flags, from the environment, from a file and from defaults, in this order. A
value of one kind may stand for a setting of another if there is an obvious reading: texts for
numbers and truth values, numbers for texts and truth values, truth values for numbers and texts.
All settings that cannot be read are reported together.
-/

namespace QueryTree

/-- The settings of a compiler. -/
inductive Setting where
  | inputArgument
  | snakeCase
  | cacheSize
  | concurrency
  deriving DecidableEq, Repr

namespace Setting

def name : Setting → String
  | .inputArgument => "input_argument_name"
  | .snakeCase => "snake_case"
  | .cacheSize => "cache_size"
  | .concurrency => "concurrency"

def environmentName (setting : Setting) : String :=
  "CQIR_" ++ setting.name.map Char.toUpper

def default : Setting → SettingValue
  | .inputArgument => .string Config.default.inputArgument
  | .snakeCase => .truth Config.default.snakeCase
  | .cacheSize => .whole Config.default.cacheSize
  | .concurrency => .whole Config.default.concurrency

end Setting

/-- Why a value cannot stand for a setting. -/
inductive SettingFault where
  | notInteger (text : String) (fault : Text.ValueFault)
  | notTruth (text : String)
  | collection (expected : String) (value : SettingValue)
  deriving Repr

namespace SettingFault

def collectionType : SettingValue → String
  | .table _ => "map[string]interface \x7b\x7d"
  | _ => "[]interface \x7b\x7d"

def message (setting : Setting) : SettingFault → String
  | .notInteger text fault =>
    "cannot parse '" ++ setting.name ++ "' as int: " ++ Text.integerMessage text fault
  | .notTruth text => "cannot parse '" ++ setting.name ++ "' as bool: " ++ Text.boolMessage text
  | .collection expected value =>
    "'" ++ setting.name ++ "' expected type '" ++ expected ++ "', got unconvertible type '" ++
      collectionType value ++ "', value: '" ++ value.shown ++ "'"

end SettingFault

namespace SettingValue

/-- The least integer of 64 bits, which stands for numbers that are out of range. -/
def leastInteger : Int := -(Text.signedBound : Int)

/-- A floating point number without its fraction. -/
def wholePart (value : Binary64) : Int :=
  let magnitude : Int :=
    if 0 ≤ value.exponent then (value.significand * Nat.pow 2 value.exponent.toNat : Nat)
    else (value.significand / Nat.pow 2 (-value.exponent).toNat : Nat)
  let whole := if value.negative then -magnitude else magnitude
  if whole < leastInteger ∨ (Text.signedBound : Int) ≤ whole then leastInteger else whole

def asText : SettingValue → Except SettingFault String
  | .null => .ok ""
  | .string content => .ok content
  | .truth value => .ok (if value then "1" else "0")
  | .whole value => .ok (toString value)
  | .real value => .ok value.shortest.positional
  | .unbounded name => .ok name
  | value => .error (.collection "string" value)

def asTruth : SettingValue → Except SettingFault Bool
  | .null => .ok false
  | .string content =>
    if content = "" then .ok false
    else
      match Text.readBool? content with
      | some value => .ok value
      | none => .error (.notTruth content)
  | .truth value => .ok value
  | .whole value => .ok (value ≠ 0)
  | .real value => .ok (value.significand ≠ 0)
  | .unbounded _ => .ok true
  | value => .error (.collection "bool" value)

def asInteger : SettingValue → Except SettingFault Int
  | .null => .ok 0
  | .string content =>
    if content = "" then .ok 0
    else (Text.readInteger content).mapError (.notInteger content)
  | .truth value => .ok (if value then 1 else 0)
  | .whole value => .ok (signedWord value)
  | .real value => .ok (wholePart value)
  | .unbounded _ => .ok leastInteger
  | value => .error (.collection "int" value)

end SettingValue

/-- Where settings come from. -/
structure SettingSources where
  flags : List (Setting × SettingValue)
  environment : List (String × String)
  /-- The entries of the settings file, with their names in lower case. -/
  file : List (String × SettingValue)
  deriving Repr

namespace SettingSources

/-- The value of a setting in the environment, unless it is empty. -/
def fromEnvironment? (sources : SettingSources) (setting : Setting) : Option SettingValue :=
  match sources.environment.lookup setting.environmentName with
  | some value => if value = "" then none else some (.string value)
  | none => none

/-- The value of a setting in the file, where the last one of a name counts and null is no value. -/
def fromFile? (sources : SettingSources) (setting : Setting) : Option SettingValue :=
  match sources.file.reverse.lookup setting.name with
  | some .null => none
  | found => found

def value (sources : SettingSources) (setting : Setting) : SettingValue :=
  (sources.flags.lookup setting).getD <|
    (sources.fromEnvironment? setting).getD <|
      (sources.fromFile? setting).getD setting.default

/-- Read a setting, and tell what is wrong with it. -/
def read {α : Type} (sources : SettingSources) (as : SettingValue → Except SettingFault α)
    (setting : Setting) : Except String α :=
  (as (sources.value setting)).mapError (SettingFault.message setting)

def message? {α : Type} : Except String α → Option String
  | .ok _ => none
  | .error message => some message

/-- The message for settings that cannot be read, in the order of their texts. -/
def failureText (messages : List String) : String :=
  let points := (messages.map ("* " ++ ·)).mergeSort fun first second => first ≤ second
  toString messages.length ++ " error(s) decoding:\n\n" ++ "\n".intercalate points

def config (sources : SettingSources) : Except Failure Config :=
  let inputArgument := sources.read SettingValue.asText .inputArgument
  let snakeCase := sources.read SettingValue.asTruth .snakeCase
  let cacheSize := sources.read SettingValue.asInteger .cacheSize
  let concurrency := sources.read SettingValue.asInteger .concurrency
  match inputArgument, snakeCase, cacheSize, concurrency with
  | .ok inputArgument, .ok snakeCase, .ok cacheSize, .ok concurrency =>
    .ok ⟨inputArgument, snakeCase, cacheSize, concurrency⟩
  | _, _, _, _ =>
    .error (.ofMessage (failureText
      ([message? inputArgument, message? snakeCase, message? cacheSize,
        message? concurrency].filterMap id)))

end SettingSources

end QueryTree
