import QueryTree.Decimal.Binary
import QueryTree.Text.Bytes
import QueryTree.Text.Integer
import QueryTree.Yaml.Fault
import QueryTree.Yaml.Timestamp

/-!
# What a plain scalar means

A scalar without quotes is a string only if it is nothing else: not a null, a truth value, a number
or a timestamp. Numbers may be binary, octal, decimal or hexadecimal and may be grouped with
underscores. Sexagesimal numbers are not read as numbers any more, but other readers might do so.
-/

namespace QueryTree

namespace Yaml

/-- The words that stand for truth values, nulls and special numbers. -/
def reservedWords : List String :=
  ["y", "Y", "yes", "Yes", "YES", "true", "True", "TRUE", "on", "On", "ON",
    "n", "N", "no", "No", "NO", "false", "False", "FALSE", "off", "Off", "OFF",
    "", "~", "null", "Null", "NULL", ".nan", ".NaN", ".NAN", ".inf", ".Inf", ".INF",
    "+.inf", "+.Inf", "+.INF", "-.inf", "-.Inf", "-.INF"]

/-- Whether the value of digits with a sign fits into 64 bits. -/
def fitsWord (read? : List Char → Option Nat) (text : List Char) : Bool :=
  match text with
  | '-' :: digits => (read? digits).any (· ≤ Text.signedBound)
  | '+' :: digits => (read? digits).any (· < Text.signedBound)
  | digits => (read? digits).any (· < Text.unsignedBound)

/-- Digits of base two, at least one. -/
def binaryValue? : List Char → Option Nat
  | [] => none
  | digits => Text.digitsValue? 2 digits

/-- Whether a text without underscores is an integer. After the mark of a binary number there may
be a sign. -/
def isInteger (text : List Char) : Bool :=
  fitsWord Text.basedValue? text ||
    match text with
    | '0' :: 'b' :: digits => fitsWord binaryValue? digits
    | '-' :: '0' :: 'b' :: digits => fitsWord binaryValue? ('-' :: digits)
    | _ => false

/-- Whether an exponent is well formed, if there is one. -/
def isExponent : List Char → Bool
  | [] => true
  | mark :: rest =>
    let digits := match rest with
      | '+' :: digits => digits
      | '-' :: digits => digits
      | digits => digits
    (mark = 'e' || mark = 'E') && !digits.isEmpty && digits.all Char.isDigit

/-- Whether a text without a sign has the form of a decimal number: digits with or without a
fraction, or a fraction alone. -/
def isUnsignedDecimal (text : List Char) : Bool :=
  let whole := text.takeWhile Char.isDigit
  match text.dropWhile Char.isDigit with
  | '.' :: rest =>
    (!whole.isEmpty || !(rest.takeWhile Char.isDigit).isEmpty) &&
      isExponent (rest.dropWhile Char.isDigit)
  | rest => !whole.isEmpty && isExponent rest

def withoutSign : List Char → List Char
  | '+' :: rest => rest
  | '-' :: rest => rest
  | rest => rest

/-- Whether a text without underscores is a decimal number in the range of floating point
numbers. -/
def isDecimal (text : List Char) : Bool :=
  isUnsignedDecimal (withoutSign text) && isRepresentable (String.ofList text)

/-- Whether every underscore stands between two digits. -/
def underscoresSeparate (before : Option Char) : List Char → Bool
  | [] => before != some '_'
  | char :: rest =>
    (if char = '_' then before.any Char.isDigit else before != some '_' || char.isDigit) &&
      underscoresSeparate (some char) rest

/-- Whether a text is a sexagesimal number: groups of up to two digits, separated by colons, after
any number of digits. -/
def isSexagesimal (text : List Char) : Bool :=
  let isGrouped (char : Char) : Bool := char.isDigit || char = '_'
  let digits := withoutSign text
  let rest := digits.dropWhile isGrouped
  let (groups, fraction) := (rest.takeWhile (· ≠ '.'), rest.dropWhile (· ≠ '.'))
  let isGroup (group : List Char) : Bool :=
    match group with
    | [digit] => digit.isDigit
    | [tens, digit] => '0' ≤ tens && tens ≤ '5' && digit.isDigit
    | _ => false
  digits.head?.any Char.isDigit &&
    (match groups with
      | ':' :: groups => (groups.splitOn ':').all isGroup
      | _ => false) &&
    (fraction.drop 1).all isGrouped

/-- Whether a text, written without quotes, is something else than a string. -/
def isReserved (text : String) : Bool :=
  let chars := text.toList
  let plain := chars.filter (· ≠ '_')
  reservedWords.contains text ||
    match chars with
    | '.' :: _ => isUnsignedDecimal plain && underscoresSeparate none chars &&
        isRepresentable (String.ofList plain)
    | first :: _ =>
      (first.isDigit || first = '+' || first = '-') &&
        (isTimestamp chars || isInteger plain || isDecimal plain || isSexagesimal chars)
    | [] => true

/-- The value of an integer without underscores. -/
def integer? (text : List Char) : Option Int :=
  let negated (value : Nat) : Int := -(value : Int)
  if isInteger text then
    match text with
    | '-' :: '0' :: 'b' :: digits => (Text.digitsValue? 2 digits).map negated
    | '0' :: 'b' :: '-' :: digits => (Text.digitsValue? 2 digits).map negated
    | '0' :: 'b' :: '+' :: digits => (Text.digitsValue? 2 digits).map Int.ofNat
    | '-' :: digits => (Text.basedValue? digits).map negated
    | '+' :: digits => (Text.basedValue? digits).map Int.ofNat
    | digits => (Text.basedValue? digits).map Int.ofNat
  else none

/-- The floating point number nearest to a decimal number. -/
def real? (text : List Char) : Option Binary64 :=
  (Decimal.read? (String.ofList text)).bind Decimal.toBinary?

end Yaml

/-- What a scalar stands for. -/
inductive YamlScalar where
  | null
  | truth (value : Bool)
  | whole (value : Int)
  | real (value : Binary64)
  /-- A number that is infinite or undefined, by its name. -/
  | unbounded (name : String)
  | timestamp (text : String)
  | text (content : String)
  deriving DecidableEq, Repr

namespace YamlScalar

open Yaml

def ofWord? (word : String) : Option YamlScalar :=
  if ["", "~", "null", "Null", "NULL"].contains word then some .null
  else if ["y", "Y", "yes", "Yes", "YES", "true", "True", "TRUE", "on", "On", "ON"].contains word
  then some (.truth true)
  else if ["n", "N", "no", "No", "NO", "false", "False", "FALSE", "off", "Off", "OFF"].contains word
  then some (.truth false)
  else if [".nan", ".NaN", ".NAN"].contains word then some (.unbounded "NaN")
  else if [".inf", ".Inf", ".INF", "+.inf", "+.Inf", "+.INF"].contains word
  then some (.unbounded "+Inf")
  else if ["-.inf", "-.Inf", "-.INF"].contains word then some (.unbounded "-Inf")
  else none

def ofNumber? (allowsTimestamp : Bool) (text : String) : Option YamlScalar :=
  let chars := text.toList
  let plain := chars.filter (· ≠ '_')
  match chars with
  | '.' :: _ =>
    if isUnsignedDecimal plain && underscoresSeparate none chars then (real? plain).map .real
    else none
  | first :: _ =>
    if !first.isDigit && first ≠ '+' && first ≠ '-' then none
    else if allowsTimestamp && isTimestamp chars then some (.timestamp text)
    else
      match integer? plain with
      | some value => some (.whole value)
      | none => if isDecimal plain then (real? plain).map .real else none
  | [] => none

/-- What a text stands for if nothing but the text tells it. -/
def ofText (allowsTimestamp : Bool) (text : String) : YamlScalar :=
  ((ofWord? text).orElse fun _ => ofNumber? allowsTimestamp text).getD (.text text)

/-- The kind of a scalar, as tags name it. -/
def kind : YamlScalar → String
  | .null => "null"
  | .truth _ => "bool"
  | .whole _ => "int"
  | .real _ | .unbounded _ => "float"
  | .timestamp _ => "timestamp"
  | .text _ => "str"

/-- A scalar read as a floating point number. -/
def toReal? : YamlScalar → Option YamlScalar
  | .whole value =>
    if value < Text.signedBound then
      (Decimal.toBinary? ⟨value < 0, value.natAbs, 0⟩).map .real
    else none
  | .real value => some (.real value)
  | .unbounded name => some (.unbounded name)
  | _ => none

def tagStart : String := "tag:yaml.org,2002:"

def kindOfTag? (tag : String) : Option String :=
  if tag.startsWith tagStart then some ((tag.drop tagStart.length).toString) else none

/-- What a scalar with a tag stands for. The text has to be of the kind that the tag names; a tag
that names none makes it a text. -/
def ofTagged (tag text : String) : Except Fault YamlScalar :=
  match kindOfTag? tag with
  | some "binary" =>
    match Text.ofBase64? text with
    | some bytes => .ok (.text (Text.ofBytes bytes))
    | none => .error .invalidBinary
  | some "float" =>
    match (ofText false text).toReal? with
    | some scalar => .ok scalar
    | none => .error .unsuitableTag
  | some kind =>
    if ["null", "bool", "int", "timestamp"].contains kind then
      let scalar := ofText (kind = "timestamp") text
      if scalar.kind = kind then .ok scalar else .error .unsuitableTag
    else .ok (.text text)
  | none => .ok (.text text)

def resolve (tag : String) (isOpen : Bool) (text : String) : Except Fault YamlScalar :=
  if tag ≠ "" then ofTagged tag text
  else if isOpen then .ok (ofText true text)
  else .ok (.text text)

end YamlScalar

end QueryTree
