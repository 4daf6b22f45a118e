/-!
# Binary floating-point numbers of 64 bits

A `Double` is a value of the 64-bit binary format: not a number, one of two infinities, or
a sign with `significand * 2 ^ exponent`.  Nothing here rests on machine arithmetic:
`Double.ofRatio` rounds a quotient of natural numbers to the nearest value of the format by
exact arithmetic, a tie going to the even significand, and every other way to make a
`Double` (from an integer, from a decimal numeral) goes through it.
-/

namespace QueryTools

/-- A value of the 64-bit binary format. -/
inductive Double where
  /-- The result of an undefined operation. -/
  | nan
  /-- An infinity, below zero when `negative`. -/
  | infinity (negative : Bool)
  /-- The value `significand * 2 ^ exponent`, below zero (or a zero with a sign) when `negative`. -/
  | finite (negative : Bool) (significand : Nat) (exponent : Int)
  deriving DecidableEq, Repr, Inhabited

namespace Double

/-- The least exponent of the format: its smallest positive value is `2 ^ minExponent`. -/
def minExponent : Int := -1074

/-- The greatest exponent of the format. -/
def maxExponent : Int := 971

/-- One past the greatest significand. -/
def significandBound : Nat := Nat.pow 2 53

/-- The zero with the given sign. -/
def zero (negative : Bool) : Double := .finite negative 0 minExponent

/-- The quotient `n / d`, a half going to the even neighbour. -/
def roundHalfEven (n d : Nat) : Nat :=
  let q := n / d
  let r := n % d
  if 2 * r < d then q
  else if 2 * r > d then q + 1
  else if q % 2 = 0 then q else q + 1

/-- The quotient `n / (d * 2 ^ e)`, written without fractions. -/
def scaled (n d : Nat) (e : Int) : Nat × Nat :=
  if 0 ≤ e then (n, d * Nat.pow 2 e.toNat) else (n * Nat.pow 2 (-e).toNat, d)

/-- The largest `e` with `2 ^ e ≤ n / d`, for positive `n` and `d`. -/
def floorLog2 (n d : Nat) : Int :=
  let k : Int := (Nat.log2 n : Int) - (Nat.log2 d : Int)
  let (a, b) := scaled n d k
  if b ≤ a then k else k - 1

/-- The value of the format nearest to `n / d` in size, with the given sign. -/
def ofRatio (negative : Bool) (n d : Nat) : Double :=
  if n = 0 then zero negative
  else
    let e := max (floorLog2 n d - 52) minExponent
    let (a, b) := scaled n d e
    let m := roundHalfEven a b
    let (m, e) := if m = significandBound then (Nat.pow 2 52, e + 1) else (m, e)
    if maxExponent < e then .infinity negative else .finite negative m e

/-- The value nearest to an integer; too large an integer gives an infinity. -/
def ofInt (i : Int) : Double := ofRatio (decide (i < 0)) i.natAbs 1

/-- How many decimal digits `n` has. -/
def decimalLength (n : Nat) : Nat := (Nat.toDigits 10 n).length

/-- The value nearest to `digits * 10 ^ exponent`.  Sizes far outside the format's range are
settled by the number of digits alone. -/
def ofDecimal (negative : Bool) (digits : Nat) (exponent : Int) : Double :=
  if digits = 0 then zero negative
  else
    let top := exponent + decimalLength digits
    if 310 < top then .infinity negative
    else if top < -330 then zero negative
    else if 0 ≤ exponent then ofRatio negative (digits * Nat.pow 10 exponent.toNat) 1
    else ofRatio negative digits (Nat.pow 10 (-exponent).toNat)

/-- Whether the value is neither an infinity nor undefined. -/
def isFinite : Double → Bool
  | .finite .. => true
  | _ => false

/-- Whether the value equals zero, of either sign. -/
def isZero : Double → Bool
  | .finite _ m _ => m == 0
  | _ => false

/-- Whether the value lies above zero. -/
def isPositive : Double → Bool
  | .finite negative m _ => !negative && m != 0
  | .infinity negative => !negative
  | .nan => false

/-- The integer that the value is, if it is one. -/
def toInt? : Double → Option Int
  | .finite negative m e =>
    let size : Option Nat :=
      if 0 ≤ e then some (m * Nat.pow 2 e.toNat)
      else
        let d := Nat.pow 2 (-e).toNat
        if m % d = 0 then some (m / d) else none
    size.map fun k => if negative then -(k : Int) else (k : Int)
  | _ => none

end Double

end QueryTools
