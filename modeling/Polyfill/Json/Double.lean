/-!
# Doubles

A number that is no integer of 64 bits is kept in double precision: with 53 significant bits, in whole
units of the least positive double. So a magnitude is a natural number, and every operation is an
exact quotient of natural numbers, rounded once.
-/

namespace Polyfill.Json

def unitsPerOne : Nat :=
  1 <<< 1074

/-- The magnitudes from here on are beyond double precision. -/
def unitsLimit : Nat :=
  1 <<< 2098

def powerOfTen (exponent : Nat) : Nat :=
  Nat.pow 10 exponent

/-- The whole number nearest to a quotient; of two equally near ones the even one. -/
def roundQuotient (numerator denominator : Nat) : Nat :=
  let floor := numerator / denominator
  let remainder := numerator % denominator
  match compare (2 * remainder) denominator with
  | .lt => floor
  | .gt => floor + 1
  | .eq => floor + floor % 2

/-- The magnitude nearest to a quotient, in units. -/
def magnitudeOfQuotient (numerator denominator : Nat) : Nat :=
  let units := numerator * unitsPerOne
  let spacing := 1 <<< ((units / denominator).log2 - 52)
  roundQuotient units (denominator * spacing) * spacing

def magnitudeOfNat (number : Nat) : Nat :=
  magnitudeOfQuotient number 1

def magnitudeMul (a b : Nat) : Nat :=
  magnitudeOfQuotient (a * b) (unitsPerOne * unitsPerOne)

def magnitudeDiv (a b : Nat) : Nat :=
  magnitudeOfQuotient a b

/-- A number of double precision. -/
structure Double where
  negative : Bool
  /-- The magnitude, in units of the least positive double. -/
  units : Nat
  deriving DecidableEq, Repr

namespace Double

/-- Decimal digits without trailing zeros, and the place of the point before, in or after them. -/
structure Decimal where
  digits : List Char
  point : Int
  deriving DecidableEq, Repr

/--
The point of a decimal grid that stands for a magnitude: of the two neighbours of the magnitude that
round to it the nearer one, of two equally near ones the even one. Grid points are a power of ten
apart, which is given by its exponent.
-/
def gridPoint? (units : Nat) (exponent : Int) : Option Nat :=
  let gap := 1 <<< (units.log2 - 52)
  let fine := powerOfTen (-exponent).toNat
  let value := 4 * units * fine
  let upper := value + 2 * gap * fine
  let lower := value - (if units == gap <<< 52 && gap != 1 then gap else 2 * gap) * fine
  let step := 4 * unitsPerOne * powerOfTen exponent.toNat
  let closed := (units / gap) % 2 == 0
  let below := value / step
  let belowHits := if closed then lower ≤ below * step else lower < below * step
  let aboveHits := if closed then (below + 1) * step ≤ upper else (below + 1) * step < upper
  match decide belowHits, decide aboveHits with
  | false, false => none
  | true, false => some below
  | false, true => some (below + 1)
  | true, true => some (roundQuotient value step)

/--
The first grid with a point for a magnitude, among a number of grids of which each is finer by a digit
than the one before it.
-/
def searchGrid (units : Nat) : Int → Nat → Decimal
  | _, 0 => ⟨[], 0⟩
  | exponent, tries + 1 =>
    match gridPoint? units exponent with
    | some point =>
      let digits := Nat.toDigits 10 point
      ⟨(digits.reverse.dropWhile (· == '0')).reverse, digits.length + exponent⟩
    | none => searchGrid units (exponent - 1) tries

/-- The exponent of a power of ten that makes whole numbers of all magnitudes, with digits to spare. -/
def fineness : Nat :=
  400

/--
The number of decimal digits of a positive number. The binary logarithm, which is 4096/1233 times the
decimal one but for less than a digit, leaves three possible numbers.
-/
def digitCount (number : Nat) : Nat :=
  let least := number.log2 * 1233 / 4096
  if number < powerOfTen (least + 1) then least + 1
  else if number < powerOfTen (least + 2) then least + 2
  else least + 3

/-- The exponent of the first digit of a positive magnitude. -/
def leadingExponent (units : Nat) : Int :=
  (digitCount (units * powerOfTen fineness / unitsPerOne) : Int) - fineness - 1

/-- The fewest digits that stand for a positive magnitude, and of those the nearest. -/
def shortest (units : Nat) : Decimal :=
  searchGrid units (leadingExponent units) 17

/-- Digits with the point put in. -/
def positional (decimal : Decimal) : List Char :=
  let digits := decimal.digits
  if decimal.point ≤ 0 then
    ['0', '.'] ++ List.replicate (-decimal.point).toNat '0' ++ digits
  else
    let whole := decimal.point.toNat
    if digits.length ≤ whole then
      digits ++ List.replicate (whole - digits.length) '0' ++ ['.', '0']
    else digits.take whole ++ ['.'] ++ digits.drop whole

/-- Digits with one before the point, and an exponent that always has a sign. -/
def scientific (decimal : Decimal) : List Char :=
  let exponent := decimal.point - 1
  let sign := if exponent < 0 then '-' else '+'
  decimal.digits.take 1 ++ (if decimal.digits.length ≤ 1 then [] else '.' :: decimal.digits.drop 1) ++
    ['e', sign] ++ Nat.toDigits 10 exponent.natAbs

/-- Up to sixteen places before the point and five zeros after it are written out. -/
def isPositional (decimal : Decimal) : Bool :=
  -5 < decimal.point && decimal.point ≤ 16

/-- The text of a double: the fewest digits that read back, always with a point or an exponent. -/
def text (number : Double) : List Char :=
  let magnitude :=
    if number.units == 0 then ['0', '.', '0']
    else
      let decimal := shortest number.units
      if isPositional decimal then positional decimal else scientific decimal
  if number.negative then '-' :: magnitude else magnitude

end Double

end Polyfill.Json
