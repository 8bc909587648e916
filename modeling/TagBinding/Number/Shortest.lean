import TagBinding.Number.Binary64

/-!
# Shortest decimal text

The text of a floating-point number has the fewest significant digits that read back as the
number, and among those the digits nearest to it. Numbers whose leading digit stands between
ten-thousandths and quadrillions are written with a decimal point and at least one digit on
either side of it; the others carry an exponent of at least two digits.
-/
namespace TagBinding.Binary64

/-- A positive number and the ends of the interval of numbers that are read as it, as numerators
over one denominator. -/
structure Interval where
  /-- The lower end. -/
  lower : Nat
  /-- The number itself. -/
  middle : Nat
  /-- The upper end. -/
  upper : Nat
  /-- The denominator of all three. -/
  denominator : Nat
  /-- Whether the ends belong to the interval. -/
  closed : Bool

/-- The interval of a number: halfway to its neighbours, where the lower neighbour of a power
of two is half as far away; the ends are read as the number when its last bit is zero. -/
def interval (number : Binary64) : Interval :=
  let size := number.significand
  let narrow := size = Nat.pow 2 52 ∧ 1 < number.exponentField
  let up := (number.exponent - 2).toNat
  let scale := Nat.pow 2 up
  { lower := (4 * size - if narrow then 1 else 2) * scale
    middle := 4 * size * scale
    upper := (4 * size + 2) * scale
    denominator := Nat.pow 2 (2 - number.exponent).toNat
    closed := size % 2 = 0 }

/-- The count of decimal digits of a positive number. -/
def digitCount (number : Nat) : Nat := (Nat.toDigits 10 number).length

/-- The power of ten of the leading digit of a positive quotient. -/
def leadingPower (numerator denominator : Nat) : Int :=
  if denominator ≤ numerator then digitCount (numerator / denominator) - 1
  else -(digitCount ((denominator - 1) / numerator) : Int)

/-- A count of a power of ten. -/
structure Decimal where
  /-- How many. -/
  coefficient : Nat
  /-- Of which power of ten. -/
  power : Int

namespace Interval

/-- A decimal as a numerator over the interval's denominator, and the factor by which the other
numerators grow to be compared with it. -/
def scaled (range : Interval) (decimal : Decimal) : Nat × Nat :=
  (decimal.coefficient * range.denominator * Nat.pow 10 decimal.power.toNat,
    Nat.pow 10 (-decimal.power).toNat)

/-- Whether a decimal lies in the interval. -/
def holds (range : Interval) (decimal : Decimal) : Bool :=
  let (value, factor) := range.scaled decimal
  if range.closed then range.lower * factor ≤ value && value ≤ range.upper * factor
  else range.lower * factor < value && value < range.upper * factor

/-- How far a decimal lies from the number, over the denominator and the decimal's own factor. -/
def distance (range : Interval) (decimal : Decimal) : Nat :=
  let (value, factor) := range.scaled decimal
  (value - range.middle * factor) + (range.middle * factor - value)

/-- The decimals of one power of ten next to the number, below and above it. -/
def neighbours (range : Interval) (power : Int) : Decimal × Decimal :=
  let below := range.middle * Nat.pow 10 (-power).toNat /
    (range.denominator * Nat.pow 10 power.toNat)
  (⟨below, power⟩, ⟨below + 1, power⟩)

/-- The neighbour of one power of ten that is read as the number, the nearer one when both
are, and of two equally near ones the one with an even coefficient. -/
def nearest? (range : Interval) (power : Int) : Option Decimal :=
  let (below, above) := range.neighbours power
  match range.holds below, range.holds above with
  | true, true =>
    if range.distance below < range.distance above then some below
    else if range.distance above < range.distance below then some above
    else if below.coefficient % 2 = 0 then some below else some above
  | true, false => some below
  | false, true => some above
  | false, false => none

/-- The first neighbour read as the number, from one power of ten down. -/
def shortestFrom (range : Interval) (power : Int) : Nat → Decimal
  | 0 => (range.neighbours power).1
  | more + 1 => (range.nearest? power).getD (range.shortestFrom (power - 1) more)

/-- The shortest decimal that is read as the number; seventeen digits always suffice. -/
def shortest (range : Interval) : Decimal :=
  range.shortestFrom (leadingPower range.middle range.denominator) 17

end Interval

/-- Which numbers are written without an exponent, and how an exponent is written. -/
structure Layout where
  /-- The least power of ten of a leading digit without an exponent. -/
  lowest : Int
  /-- The greatest power of ten of a leading digit without an exponent. -/
  highest : Int
  /-- The least count of digits of an exponent. -/
  exponentDigits : Nat

/-- Leading digits from the fourth place after the point to the sixteenth before it need no
exponent; an exponent has two digits or more. -/
def layout : Layout := ⟨-4, 15, 2⟩

/-- The digits of a decimal without zeros at the end. -/
def Decimal.digits (decimal : Decimal) : List Char :=
  (((Nat.toDigits 10 decimal.coefficient).reverse).dropWhile (· == '0')).reverse

/-- The power of ten of the first digit of a decimal. -/
def Decimal.leading (decimal : Decimal) : Int := decimal.power + digitCount decimal.coefficient - 1

/-- Digits whose first one stands at a power of ten, with a decimal point between the ones and
the tenths. -/
def positional (digits : List Char) (leading : Int) : List Char :=
  if leading < 0 then
    '0' :: '.' :: (List.replicate (-leading - 1).toNat '0' ++ digits)
  else
    let whole := leading.toNat + 1
    let fraction := digits.drop whole
    digits.take whole ++ List.replicate (whole - digits.length) '0' ++
      '.' :: (if fraction.isEmpty then ['0'] else fraction)

/-- Digits with the power of ten of the first one written as an exponent. -/
def scientific (digits : List Char) (leading : Int) : List Char :=
  let exponent := Nat.toDigits 10 leading.natAbs
  let point := if (digits.drop 1).isEmpty then [] else '.' :: digits.drop 1
  digits.take 1 ++ point ++ 'e' :: (if leading < 0 then '-' else '+') ::
    (List.replicate (layout.exponentDigits - exponent.length) '0' ++ exponent)

/-- The text of the size of a finite number. -/
def sizeText (number : Binary64) : List Char :=
  if number.significand = 0 then ['0', '.', '0']
  else
    let decimal := number.interval.shortest
    if layout.lowest ≤ decimal.leading ∧ decimal.leading ≤ layout.highest then
      positional decimal.digits decimal.leading
    else scientific decimal.digits decimal.leading

/-- The text of a number. -/
def text (number : Binary64) : String :=
  let sign := if number.isNegative then ['-'] else []
  if number.isFinite then String.ofList (sign ++ number.sizeText)
  else if number.fractionField ≠ 0 then "nan"
  else String.ofList (sign ++ ['i', 'n', 'f'])

end TagBinding.Binary64
