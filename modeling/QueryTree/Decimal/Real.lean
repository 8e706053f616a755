import QueryTree.Decimal.Shortest
import QueryTree.Text.Integer

/-!
# Real numbers in text

A number is written in decimal or hexadecimal notation, the latter with a power of two, and its
digits may be grouped by underscores. Besides there are words for what is infinite or undefined.
-/

namespace QueryTree

/-- A floating point number of any kind. -/
inductive RealNumber where
  | finite (value : Binary64)
  | infinite (negative : Bool)
  | undefined
  deriving DecidableEq, Repr

namespace RealNumber

/-- A text without its sign, and whether that is a minus. -/
def splitSign : List Char → Bool × List Char
  | '-' :: rest => (true, rest)
  | '+' :: rest => (false, rest)
  | rest => (false, rest)

/-- The digits after the mark of hexadecimal notation. -/
def hexDigits? : List Char → Option (List Char)
  | '0' :: mark :: rest => if mark = 'x' || mark = 'X' then some rest else none
  | _ => none

/-- Whether a character is a hexadecimal digit. -/
def isHexDigit (char : Char) : Bool := (Text.hexValue? char).isSome

/-- Digits without the underscores among them, each of which has to stand between two digits. -/
def ungrouped? (text : List Char) : Option (List Char) :=
  let separates : Bool := match hexDigits? text with
    | some digits => Text.underscoresSeparateDigits isHexDigit true false digits
    | none => Text.underscoresSeparateDigits Char.isDigit false false text
  if separates then some (text.filter (· ≠ '_')) else none

def scaled (negative : Bool) (coefficient : Nat) (power : Int) : RealNumber :=
  let magnitude := (coefficient.log2 : Int) + power
  if coefficient = 0 ∨ magnitude < -1100 then .finite ⟨negative, 0, -1074⟩
  else if 1100 < magnitude then .infinite negative
  else
    let rounded :=
      if 0 ≤ power then
        Decimal.roundToBinary negative (coefficient * Nat.pow 2 power.toNat) 1
      else Decimal.roundToBinary negative coefficient (Nat.pow 2 (-power).toNat)
    match rounded with
    | some value => .finite value
    | none => .infinite negative

/-- Read the digits of a hexadecimal number, which needs a power of two. -/
def hexadecimal? (negative : Bool) (text : List Char) : Option RealNumber := do
  let whole := text.takeWhile isHexDigit
  let rest := text.dropWhile isHexDigit
  let (fraction, rest) := match rest with
    | '.' :: rest => (rest.takeWhile isHexDigit, rest.dropWhile isHexDigit)
    | rest => ([], rest)
  guard (!(whole ++ fraction).isEmpty)
  let coefficient ← Text.hexNumber? (whole ++ fraction)
  let mark :: power := rest | none
  guard (mark = 'p' || mark = 'P')
  return scaled negative coefficient ((← Decimal.readExponent? power) - 4 * fraction.length)

/-- Read a number without its sign. -/
def unsigned? (negative : Bool) (text : List Char) : Option RealNumber := do
  let text ← ungrouped? text
  match hexDigits? text with
  | some digits => hexadecimal? negative digits
  | none =>
    guard ((text.head?.all fun char => char ≠ '+' && char ≠ '-'))
    let decimal ← Decimal.read? (String.ofList text)
    match decimal.toBinary? with
    | some value => return .finite { value with negative }
    | none => return .infinite negative

def ofWord? (negative : Bool) (word : List Char) : Option RealNumber :=
  let word := String.ofList (word.map Char.toLower)
  if word = "inf" || word = "infinity" then some (.infinite negative) else none

def read? (text : String) : Option RealNumber :=
  let (negative, rest) := splitSign text.toList
  if text.map Char.toLower = "nan" then some .undefined
  else (ofWord? negative rest).orElse fun _ => unsigned? negative rest

def positional : RealNumber → String
  | .finite value => value.shortest.positional
  | .infinite negative => if negative then "-Inf" else "+Inf"
  | .undefined => "NaN"

end RealNumber

end QueryTree
