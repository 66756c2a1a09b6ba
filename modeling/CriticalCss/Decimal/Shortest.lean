import CriticalCss.Decimal.Binary
/-! The shortest decimal text that reads back as a given binary number. Among the decimals with the
fewest digits that round to the number, the nearest is written; positional notation is used for
values from 10^-4 up to 10^16, and a whole number ends in a point and a zero.
-/

namespace CriticalCss.Decimal

/-- A fraction of two whole numbers, compared by cross products. -/
structure Fraction where
  num : Nat
  den : Nat

/-- `coefficient * base ^ exponent` as a fraction. -/
def Fraction.power (coefficient base : Nat) (exponent : Int) : Fraction :=
  ⟨coefficient * Nat.pow base exponent.toNat, Nat.pow base (-exponent).toNat⟩

/-- Is the first fraction at most the second? -/
def Fraction.le (a b : Fraction) : Bool :=
  a.num * b.den ≤ b.num * a.den

/-- Is the first fraction less than the second? -/
def Fraction.lt (a b : Fraction) : Bool :=
  a.num * b.den < b.num * a.den

/-- Does the decimal `digits * 10 ^ place` round to `mantissa * 2 ^ exponent`? The numbers that do
lie between the midpoints to the neighbours, ends included if the mantissa is even. -/
def roundsTo (mantissa : Nat) (exponent : Int) (digits : Nat) (place : Int) : Bool :=
  let below := if mantissa = twoTo 52 && -1074 < exponent then 1 else 2
  let low := Fraction.power (4 * mantissa - below) 2 (exponent - 2)
  let high := Fraction.power (4 * mantissa + 2) 2 (exponent - 2)
  let value := Fraction.power digits 10 place
  if mantissa % 2 = 0 then low.le value && value.le high else low.lt value && value.lt high

/-- The power of ten of the leading digit of a positive fraction. -/
def leadingPlace (value : Fraction) : Int :=
  if value.den ≤ value.num then (digitCount (value.num / value.den) : Int) - 1
  else
    let guess : Int := -(digitCount (value.den / value.num) : Int)
    if (Fraction.power 1 10 (guess + 1)).le value then guess + 1 else guess

/-- The nearer of the two neighbours of a number on the grid of multiples of `10 ^ place` that
round to it. -/
def neighbour? (mantissa : Nat) (exponent place : Int) : Option Nat :=
  let value := Fraction.power mantissa 2 exponent
  let scaled : Fraction :=
    ⟨value.num * tenTo (-place).toNat, value.den * tenTo place.toNat⟩
  let down := scaled.num / scaled.den
  let nearest := roundDiv scaled.num scaled.den
  let other := if nearest = down then down + 1 else down
  if roundsTo mantissa exponent nearest place then some nearest
  else if roundsTo mantissa exponent other place then some other
  else none

/-- The shortest decimal of a positive number: digits and the place of the last one. -/
def shortest (mantissa : Nat) (exponent : Int) : Nat × Int :=
  let top := leadingPlace (Fraction.power mantissa 2 exponent)
  let found := (List.range 17).findSome? fun (count : Nat) =>
    let place := top - (count : Int)
    (neighbour? mantissa exponent place).map fun digits => (digits, place)
  found.getD (mantissa, exponent)

/-- The digits without trailing zeros, and the place of the last one left. -/
def dropTrailingZeros (digits : List Char) (place : Int) : List Char × Int :=
  let kept := (digits.reverse.dropWhile (· == '0')).reverse
  (kept, place + (digits.length - kept.length : Nat))

/-- The text of a decimal with the given digits, the last of them at `place`. -/
def writeDecimal (digits : List Char) (place : Int) : List Char :=
  let (digits, place) := dropTrailingZeros digits place
  let point : Int := place + digits.length
  if -4 < point && point ≤ 16 then
    if point ≤ 0 then "0.".toList ++ List.replicate (-point).toNat '0' ++ digits
    else if 0 ≤ place then digits ++ List.replicate place.toNat '0' ++ ".0".toList
    else digits.take point.toNat ++ '.' :: digits.drop point.toNat
  else
    let power := point - 1
    let mark := (if power < 0 then "e-" else "e+").toList
    let magnitude := Nat.toDigits 10 power.natAbs
    let width := List.replicate (2 - magnitude.length) '0'
    let fraction := if digits.length ≤ 1 then [] else '.' :: digits.drop 1
    digits.take 1 ++ fraction ++ mark ++ width ++ magnitude

/-- The shortest text that reads back as the number. -/
def Binary.text : Binary → String
  | .finite negative mantissa exponent =>
    let body :=
      if mantissa = 0 then "0.0".toList
      else
        let (digits, place) := shortest mantissa exponent
        writeDecimal (Nat.toDigits 10 digits) place
    String.ofList (if negative then '-' :: body else body)
  | .infinite negative => if negative then "-inf" else "inf"
  | .notANumber => "nan"

end CriticalCss.Decimal
