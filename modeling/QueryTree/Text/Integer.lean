import QueryTree.Text.Hex
import QueryTree.Text.Quoted

/-!
# Integers and truth values in text

An integer shows its base in how it begins, and its digits may be grouped by underscores. Readers of
single values tell what is wrong with a text in a fixed wording.
-/

namespace QueryTree.Text

/-- The integers of 64 bits with a sign are below this bound. -/
def signedBound : Nat := 0x8000000000000000

/-- The integers of 64 bits without a sign are below this bound. -/
def unsignedBound : Nat := 0x10000000000000000

def digitsValue? (base : Nat) (digits : List Char) : Option Nat :=
  digits.foldlM (fun value digit => do
    let next ← hexValue? digit
    guard (next < base)
    return value * base + next) 0

/-- The base of unsigned digits, and the digits after its mark. A zero with nothing else before the
digits makes them octal. -/
def baseAndDigits : List Char → Nat × List Char
  | '0' :: mark :: digit :: rest =>
    if mark = 'b' || mark = 'B' then (2, digit :: rest)
    else if mark = 'o' || mark = 'O' then (8, digit :: rest)
    else if mark = 'x' || mark = 'X' then (16, digit :: rest)
    else (8, mark :: digit :: rest)
  | '0' :: rest => (8, rest)
  | digits => (10, digits)

/-- The value of unsigned digits whose base shows in how they begin. -/
def basedValue? (text : List Char) : Option Nat :=
  if text.isEmpty then none
  else
    let (base, digits) := baseAndDigits text
    digitsValue? base digits

/-- What can be wrong with the text of a value. -/
inductive ValueFault where
  | form
  /-- The value does not fit. -/
  | range
  deriving DecidableEq, Repr

def ValueFault.text : ValueFault → String
  | .form => "invalid syntax"
  | .range => "value out of range"

/-- Whether every underscore stands between two digits of a base, of which the mark of the base
counts as one. -/
def underscoresSeparateDigits (isDigit : Char → Bool) (afterDigit afterUnderscore : Bool) :
    List Char → Bool
  | [] => !afterUnderscore
  | char :: rest =>
    if char = '_' then
      afterDigit && underscoresSeparateDigits isDigit false true rest
    else if isDigit char then underscoresSeparateDigits isDigit true false rest
    else !afterUnderscore && underscoresSeparateDigits isDigit false false rest

/-- Add a digit of a base to a number of 64 bits. Underscores are passed over. -/
def addDigit (base : Nat) (value : Nat) (digit : Char) : Except ValueFault Nat :=
  if digit = '_' then .ok value
  else
    match hexValue? digit with
    | some next =>
      if next < base then
        if value * base + next < unsignedBound then .ok (value * base + next) else .error .range
      else .error .form
    | none => .error .form

/-- Read unsigned digits, with or without the mark of a base. -/
def readUnsigned (text : List Char) : Except ValueFault Nat :=
  if text.isEmpty then .error .form
  else
    let (base, digits) := baseAndDigits text
    let marked := base ≠ 10 && digits.length + 2 = text.length
    let isDigit (char : Char) : Bool := char.isDigit || (base = 16 && (hexValue? char).isSome)
    let body := if marked then digits else text
    match digits.foldlM (addDigit base) 0 with
    | .error fault => .error fault
    | .ok value =>
      if underscoresSeparateDigits isDigit marked false body then .ok value else .error .form

/-- Read an integer of 64 bits without a minus sign. -/
def readPositive (digits : List Char) : Except ValueFault Int := do
  let value ← readUnsigned digits
  if value < signedBound then return (value : Int) else throw .range

def readInteger (text : String) : Except ValueFault Int :=
  match text.toList with
  | '-' :: digits => do
    let value ← readUnsigned digits
    if value ≤ signedBound then return -(value : Int) else throw .range
  | '+' :: digits => readPositive digits
  | digits => readPositive digits

def readBool? (text : String) : Option Bool :=
  if ["1", "t", "T", "TRUE", "true", "True"].contains text then some true
  else if ["0", "f", "F", "FALSE", "false", "False"].contains text then some false
  else none

def integerMessage (text : String) (fault : ValueFault) : String :=
  "strconv.ParseInt: parsing " ++ quoted text ++ ": " ++ fault.text

/-- The message for a text that is not a truth value. -/
def boolMessage (text : String) : String :=
  "strconv.ParseBool: parsing " ++ quoted text ++ ": " ++ ValueFault.form.text

end QueryTree.Text
