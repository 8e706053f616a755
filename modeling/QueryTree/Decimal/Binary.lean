/-!
# Decimal numbers and binary floating point

Number texts are read as exact decimals and rounded to the nearest binary floating point number of
64 bits, a half to the even neighbour. All arithmetic is on natural numbers.
-/

namespace QueryTree

/-- The number `coefficient * 10 ^ exponent`, possibly negated. -/
structure Decimal where
  negative : Bool
  coefficient : Nat
  exponent : Int
  deriving DecidableEq, Repr

/-- The number `significand * 2 ^ exponent`, possibly negated. The significand has at most 53 bits,
and exactly 53 unless the exponent is the least one. -/
structure Binary64 where
  negative : Bool
  significand : Nat
  exponent : Int
  deriving DecidableEq, Inhabited, Repr

namespace Decimal

/-- The number that a list of decimal digits spells, after the digits of `start`. -/
def digitsValue (start : Nat) (digits : List Char) : Nat :=
  digits.foldl (fun value digit => value * 10 + (digit.toNat - 48)) start

/-- Read an exponent: a sign and at least one digit, up to the end. -/
def readExponent? (characters : List Char) : Option Int :=
  let (negative, digits) :=
    match characters with
    | '-' :: rest => (true, rest)
    | '+' :: rest => (false, rest)
    | rest => (false, rest)
  if digits.isEmpty || !digits.all Char.isDigit then none
  else
    let value : Int := digitsValue 0 digits
    some (if negative then -value else value)

/-- Read a number: a sign, digits with a point somewhere among them or at either end, and an
exponent. -/
def read? (text : String) : Option Decimal :=
  let (negative, rest) :=
    match text.toList with
    | '-' :: rest => (true, rest)
    | '+' :: rest => (false, rest)
    | rest => (false, rest)
  let whole := rest.takeWhile Char.isDigit
  let rest := rest.dropWhile Char.isDigit
  let (fraction, rest) :=
    match rest with
    | '.' :: rest => (rest.takeWhile Char.isDigit, rest.dropWhile Char.isDigit)
    | rest => ([], rest)
  if whole.isEmpty && fraction.isEmpty then none
  else
    let coefficient := digitsValue (digitsValue 0 whole) fraction
    match rest with
    | [] => some ⟨negative, coefficient, -fraction.length⟩
    | mark :: rest =>
      if mark = 'e' ∨ mark = 'E' then
        (readExponent? rest).map fun exponent =>
          ⟨negative, coefficient, exponent - fraction.length⟩
      else none

/-- The number of decimal digits of a number, zero for zero. -/
def digitCount (value : Nat) : Nat :=
  if value = 0 then 0 else (toString value).length

/-- A quotient rounded to the nearest natural number, a half to the even one. -/
def roundQuotient (numerator denominator : Nat) : Nat :=
  let quotient := numerator / denominator
  let rest := 2 * (numerator % denominator)
  if rest < denominator then quotient
  else if denominator < rest then quotient + 1
  else quotient + quotient % 2

/-- The power of two that a significand of 53 bits is scaled with, for a positive quotient. -/
def scaleOf (numerator denominator : Nat) : Int :=
  let estimate : Int := (numerator.log2 : Int) - denominator.log2
  let isBelow : Bool :=
    if 0 ≤ estimate then decide (numerator < denominator * Nat.pow 2 estimate.toNat)
    else decide (numerator * Nat.pow 2 (-estimate).toNat < denominator)
  max ((if isBelow then estimate - 1 else estimate) - 52) (-1074)

/-- The nearest floating point number to a positive quotient, `none` if it is too large. -/
def roundToBinary (negative : Bool) (numerator denominator : Nat) : Option Binary64 :=
  let scale := scaleOf numerator denominator
  let significand :=
    if 0 ≤ scale then roundQuotient numerator (denominator * Nat.pow 2 scale.toNat)
    else roundQuotient (numerator * Nat.pow 2 (-scale).toNat) denominator
  let (significand, scale) :=
    if significand = Nat.pow 2 53 then (Nat.pow 2 52, scale + 1) else (significand, scale)
  if 971 < scale then none else some ⟨negative, significand, scale⟩

/-- The nearest floating point number, `none` if it is too large. Numbers far outside the range are
told apart by their number of digits alone. -/
def toBinary? (decimal : Decimal) : Option Binary64 :=
  let magnitude := decimal.exponent + digitCount decimal.coefficient
  if decimal.coefficient = 0 ∨ magnitude < -330 then some ⟨decimal.negative, 0, -1074⟩
  else if 310 < magnitude then none
  else if 0 ≤ decimal.exponent then
    roundToBinary decimal.negative (decimal.coefficient * Nat.pow 10 decimal.exponent.toNat) 1
  else
    roundToBinary decimal.negative decimal.coefficient (Nat.pow 10 (-decimal.exponent).toNat)

end Decimal

/-- Whether a number token is within the range of floating point numbers. Spellings that no token
has, as `NaN`, `Inf` and hexadecimal numbers, are not read here: `RealNumber.read?` reads them. -/
def isRepresentable (text : String) : Bool :=
  ((Decimal.read? text).bind Decimal.toBinary?).isSome

end QueryTree
