/-! Binary floating-point numbers of double width, as exact values, and the rounding of decimal
numbers to them.

A finite number is a mantissa below 2^53 times a power of two from 2^-1074 to 2^971. Rounding goes
to the nearest such number, of two equally near ones to the one with the even mantissa; what lies
half a unit or more beyond the largest becomes infinite.
-/

namespace CriticalCss.Decimal

/-- A binary floating-point number of double width. -/
inductive Binary where
  | finite (negative : Bool) (mantissa : Nat) (exponent : Int)
  | infinite (negative : Bool)
  | notANumber
  deriving Repr, DecidableEq

/-- A power of two. -/
def twoTo (exponent : Nat) : Nat :=
  Nat.pow 2 exponent

/-- A power of ten. -/
def tenTo (exponent : Nat) : Nat :=
  Nat.pow 10 exponent

/-- The nearest whole number to a quotient; a half goes to the even neighbour. -/
def roundDiv (num den : Nat) : Nat :=
  let quotient := num / den
  let twice := 2 * (num % den)
  if twice < den || (twice == den && quotient % 2 == 0) then quotient else quotient + 1

/-- The nearest number to `num / den`, where `den` is positive. -/
def ofRatio (negative : Bool) (num den : Nat) : Binary :=
  if num = 0 then .finite negative 0 0
  else
    let scaled (exponent : Int) : Nat × Nat :=
      (num * twoTo (-exponent).toNat, den * twoTo exponent.toNat)
    let first : Int := (num.log2 : Int) - den.log2 - 52
    let reached := (scaled first).1 / (scaled first).2
    let exponent := max (if reached < twoTo 52 then first - 1 else first) (-1074)
    let mantissa := roundDiv (scaled exponent).1 (scaled exponent).2
    let (mantissa, exponent) :=
      if mantissa = twoTo 53 then (twoTo 52, exponent + 1) else (mantissa, exponent)
    if 971 < exponent then .infinite negative else .finite negative mantissa exponent

/-- The number of decimal digits of a number. -/
def digitCount (n : Nat) : Nat :=
  (Nat.toDigits 10 n).length

/-- The nearest number to `digits * 10 ^ exponent`. Exponents far outside the range are settled
before any power is computed. -/
def ofDecimal (negative : Bool) (digits : Nat) (exponent : Int) : Binary :=
  if digits = 0 then .finite negative 0 0
  else if 400 < exponent + digitCount digits then .infinite negative
  else if exponent + digitCount digits < -400 then .finite negative 0 0
  else ofRatio negative (digits * tenTo exponent.toNat) (tenTo (-exponent).toNat)

/-- The number as a whole number, if it is one. -/
def Binary.toInt? : Binary → Option Int
  | .finite negative mantissa exponent =>
    let den := twoTo (-exponent).toNat
    let num := mantissa * twoTo exponent.toNat
    if num % den = 0 then
      some (if negative then -((num / den : Nat) : Int) else (num / den : Nat))
    else none
  | _ => none

/-- Is the number greater than the whole number? The comparison is exact. -/
def Binary.exceeds : Binary → Int → Bool
  | .finite negative mantissa exponent, bound =>
    let num : Int := (mantissa * twoTo exponent.toNat : Nat)
    let den : Int := twoTo (-exponent).toNat
    bound * den < (if negative then -num else num)
  | .infinite negative, _ => !negative
  | .notANumber, _ => false

/-- The number times a small power of two; the product of a number in range is exact unless it
leaves the range at the top. -/
def Binary.scale (power : Nat) : Binary → Binary
  | .finite negative mantissa exponent =>
    ofRatio negative (mantissa * twoTo (exponent + power).toNat)
      (twoTo (-(exponent + power)).toNat)
  | other => other

end CriticalCss.Decimal
