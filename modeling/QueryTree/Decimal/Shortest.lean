import QueryTree.Decimal.Binary

/-!
# The shortest decimal text of a floating point number

Of all decimals that round to a floating point number, the one with the fewest digits is chosen,
and of those the one nearest to the number. It is written in one of three layouts, which differ in
when they use an exponent.
-/

namespace QueryTree

/-- The number `0.d₁d₂…dₙ * 10 ^ point`, possibly negated; without digits it is zero. -/
structure ShortDecimal where
  negative : Bool
  digits : List Char
  point : Int
  deriving DecidableEq, Repr

namespace Binary64

/-- Four times the significand of the number halfway to the next smaller one, which is nearer at a
power of two. -/
def lowerBound (number : Binary64) : Nat :=
  if number.significand = Nat.pow 2 52 ∧ -1074 < number.exponent then 4 * number.significand - 1
  else 4 * number.significand - 2

/-- Four times the significand of the number halfway to the next larger one. -/
def upperBound (number : Binary64) : Nat := 4 * number.significand + 2

/-- The multiple of `10 ^ grid` that is nearest to a number among those that round to it, if there
is one. A bound itself rounds to the number if its significand is even. -/
def onGrid? (number : Binary64) (grid : Int) : Option Nat :=
  let scale := number.exponent - 2
  let unit := Nat.pow 2 scale.toNat * Nat.pow 10 (-grid).toNat
  let step := Nat.pow 2 (-scale).toNat * Nat.pow 10 grid.toNat
  let value := 4 * number.significand * unit
  let low := number.lowerBound * unit
  let high := number.upperBound * unit
  let even := number.significand % 2 = 0
  let isInside (multiple : Nat) : Bool :=
    let point := multiple * step
    (decide (low < point) || (even && low == point)) &&
      (decide (point < high) || (even && point == high))
  let below := value / step
  let above := below + 1
  let gapBelow := value - below * step
  let gapAbove := above * step - value
  if isInside below && (!isInside above || decide (gapBelow < gapAbove) ||
      (gapBelow == gapAbove && below % 2 == 0)) then some below
  else if isInside above then some above
  else none

/-- The decimal exponent of a positive number: the least `point` with the number below
`10 ^ point`. It is searched from an estimate that is never too large. -/
def pointFrom (number : Binary64) : Nat → Int → Int
  | 0, point => point
  | bound + 1, point =>
    let isBelow : Bool :=
      decide (number.significand * Nat.pow 2 number.exponent.toNat * Nat.pow 10 (-point).toNat <
        Nat.pow 10 point.toNat * Nat.pow 2 (-number.exponent).toNat)
    if isBelow then point else pointFrom number bound (point + 1)

/-- An exponent of ten that is not above the one of the number. -/
def pointEstimate (number : Binary64) : Int :=
  Int.fdiv (((number.significand.log2 : Int) + number.exponent) * 3) 10 - 1

/-- Strip the zeros at the end of a list of digits. -/
def withoutTrailingZeros (digits : List Char) : List Char :=
  (digits.reverse.dropWhile (· == '0')).reverse

/-- The shortest digits of a positive number, trying one digit more at a time. -/
def digitsFrom (number : Binary64) (point : Int) : Nat → Nat → ShortDecimal
  | 0, _ => ⟨number.negative, [], 0⟩
  | bound + 1, count =>
    match number.onGrid? (point - count) with
    | some multiple =>
      let digits := (toString multiple).toList
      ⟨number.negative, withoutTrailingZeros digits, point - count + digits.length⟩
    | none => digitsFrom number point bound (count + 1)

/-- The shortest decimal that rounds to a number. Seventeen digits always suffice. -/
def shortest (number : Binary64) : ShortDecimal :=
  if number.significand = 0 then ⟨number.negative, [], 0⟩
  else digitsFrom number (number.pointFrom 8 number.pointEstimate) 17 1

end Binary64

namespace ShortDecimal

def sign (number : ShortDecimal) : String := if number.negative then "-" else ""

/-- Digits with the point at its place. -/
def positional (number : ShortDecimal) : String :=
  let text :=
    if number.digits.isEmpty then "0"
    else if number.point ≤ 0 then
      "0." ++ String.ofList (List.replicate (-number.point).toNat '0' ++ number.digits)
    else
      let point := number.point.toNat
      let whole := number.digits.take point ++
        List.replicate (point - number.digits.length) '0'
      let fraction := number.digits.drop point
      String.ofList whole ++
        if fraction.isEmpty then "" else "." ++ String.ofList fraction
  number.sign ++ text

/-- One digit before the point, then the exponent of ten with its sign and at least `width`
digits. -/
def scientific (number : ShortDecimal) (width : Nat) : String :=
  let exponent : Int := if number.digits.isEmpty then 0 else number.point - 1
  let mantissa :=
    match number.digits with
    | [] => "0"
    | [digit] => String.singleton digit
    | digit :: digits => String.singleton digit ++ "." ++ String.ofList digits
  let digits := (toString exponent.natAbs).toList
  let padded := List.replicate (width - digits.length) '0' ++ digits
  number.sign ++ mantissa ++ "e" ++ (if exponent < 0 then "-" else "+") ++ String.ofList padded

/-- The general layout: an exponent of at least two digits below `10 ^ -4` and from `10 ^ 6` on. -/
def general (number : ShortDecimal) : String :=
  let exponent : Int := if number.digits.isEmpty then 0 else number.point - 1
  if exponent < -4 ∨ exponent ≥ 6 then number.scientific 2 else number.positional

/-- The layout of numbers in JSON: an exponent below `10 ^ -6` and from `10 ^ 21` on. -/
def json (number : ShortDecimal) : String :=
  let exponent : Int := if number.digits.isEmpty then 0 else number.point - 1
  if exponent < -6 ∨ exponent ≥ 21 then number.scientific 1 else number.positional

end ShortDecimal

end QueryTree
