import Polyfill.Json.Double
import Polyfill.Json.Fault
import Polyfill.Text.Scan

/-!
# Numerals

A numeral is a number as a JSON text writes it: a sign, whole digits, and perhaps a fraction and an
exponent. Its value is an integer if it is written as one and fits into 64 bits, and a double else.
-/

namespace Polyfill.Json

open Text

inductive Number where
  | integer (value : Int)
  | double (value : Double)
  deriving DecidableEq, Repr

def Number.text : Number → List Char
  | .integer value => (toString value).toList
  | .double value => value.text

/-- A number as it is written. -/
structure Numeral where
  negative : Bool
  whole : List Nat
  fraction : List Nat := []
  /-- The exponent: whether it is negative, and its digits. -/
  exponent : Option (Bool × List Nat) := none
  deriving DecidableEq, Repr

namespace Numeral

/-- Integers from here on do not fit into 64 bits. -/
def wordLimit : Nat :=
  UInt64.size

/--
Put digits after a significand as long as it fits into 64 bits: the significand, and the number of
digits left over.
-/
def absorb (significand : Nat) : List Nat → Nat × Nat
  | [] => (significand, 0)
  | digit :: rest =>
    if 10 * significand + digit < wordLimit then absorb (10 * significand + digit) rest
    else (significand, rest.length + 1)

/--
The size of an exponent. One that does not fit into 64 bits counts as the first that does not, which
is out of range just as well.
-/
def exponentSize (digits : List Nat) : Nat :=
  match absorb 0 digits with
  | (size, 0) => size
  | _ => wordLimit

/-- The greatest power of ten that a magnitude is scaled by in one step. -/
def maxPower : Nat :=
  308

/-- A magnitude divided by the greatest power of ten some times, and then by ten to the power. -/
def scaleDown (power : Nat) : Nat → Nat → Nat
  | 0, units => magnitudeDiv units (magnitudeOfNat (powerOfTen power))
  | times + 1, units =>
    if units == 0 then 0
    else scaleDown power times (magnitudeDiv units (magnitudeOfNat (powerOfTen maxPower)))

/-- A whole number times a power of ten, in units; it has to stay within double precision. -/
def scale (significand : Nat) (exponent : Int) : Except Fault Nat :=
  let units := magnitudeOfNat significand
  match exponent with
  | .ofNat power =>
    if units == 0 then .ok 0
    else if maxPower < power then .error .malformed
    else
      let scaled := magnitudeMul units (magnitudeOfNat (powerOfTen power))
      if scaled < unitsLimit then .ok scaled else .error .malformed
  | .negSucc power =>
    let times := power / maxPower
    .ok (scaleDown (power + 1 - times * maxPower) times units)

/-- The value of a numeral with a fraction, an exponent or more digits than fit. -/
def doubleValue (numeral : Numeral) : Except Fault Double := do
  let (significand, dropped) := absorb 0 numeral.whole
  let (significand, left) := absorb significand numeral.fraction
  let shift : Int := match numeral.exponent with
    | none => 0
    | some (true, digits) => -(exponentSize digits : Int)
    | some (false, digits) => exponentSize digits
  let taken := numeral.fraction.length - left
  return ⟨numeral.negative, ← scale significand (dropped - taken + shift)⟩

/-- Whether a numeral has digits only. -/
def isWhole (numeral : Numeral) : Bool :=
  numeral.fraction.isEmpty && numeral.exponent.isNone

/-- The value of a numeral. A negative zero is no integer. -/
def value (numeral : Numeral) : Except Fault Number :=
  let (magnitude, dropped) := absorb 0 numeral.whole
  let isInteger := numeral.isWhole && dropped == 0
  if isInteger && !numeral.negative then
    .ok (.integer magnitude)
  else if isInteger && numeral.negative && 0 < magnitude && 2 * magnitude ≤ wordLimit then
    .ok (.integer (-magnitude))
  else .double <$> numeral.doubleValue

/-- The digits a text starts with. -/
def leadingDigits (text : List Char) : List Nat :=
  (text.takeWhile Char.isDigit).map fun c => c.toNat - '0'.toNat

/-- One or more digits; a text that has none is refused, as cut short if nothing is left of it. -/
def scanDigits (text : List Char) : Except Fault (List Nat) :=
  match leadingDigits text, text with
  | [], [] => .error .truncated
  | [], _ => .error .malformed
  | digits, _ => .ok digits

/-- The whole digits of a numeral: a zero stands alone. -/
def scanWhole (text : List Char) : Except Fault (List Nat) :=
  match scanDigits text with
  | .ok (0 :: _ :: _) => .error .malformed
  | other => other

/-- The fraction of a numeral, if the text goes on with one. -/
def scanFraction : List Char → Except Fault (List Nat × Nat)
  | '.' :: rest => do
    let digits ← scanDigits rest
    return (digits, digits.length + 1)
  | _ => return ([], 0)

/-- The sign of an exponent and the length it is written with. -/
def scanSign : List Char → Bool × Nat
  | '+' :: _ => (false, 1)
  | '-' :: _ => (true, 1)
  | _ => (false, 0)

/-- The exponent of a numeral, if the text goes on with one. -/
def scanExponent : List Char → Except Fault (Option (Bool × List Nat) × Nat)
  | [] => return (none, 0)
  | c :: rest =>
    if c == 'e' || c == 'E' then do
      let (negative, length) := scanSign rest
      let digits ← scanDigits (rest.drop length)
      return (some (negative, digits), digits.length + length + 1)
    else return (none, 0)

/-- The numeral that a text starts with, and its length. -/
def scan (text : List Char) : Except Fault (Numeral × Nat) := do
  let negative := text.head? == some '-'
  let signLength := if negative then 1 else 0
  let whole ← scanWhole (text.drop signLength)
  let wholeEnd := signLength + whole.length
  let (fraction, fractionLength) ← scanFraction (text.drop wholeEnd)
  let (exponent, exponentLength) ← scanExponent (text.drop (wholeEnd + fractionLength))
  return ({ negative, whole, fraction, exponent }, wholeEnd + fractionLength + exponentLength)

end Numeral

end Polyfill.Json
