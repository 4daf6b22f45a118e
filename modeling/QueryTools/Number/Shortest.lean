import QueryTools.Number.Double

/-!
# The shortest decimal that reads back

The text of a finite `Double` holds the fewest decimal digits that still round to that very
value, and of those the nearest to it.  `Double.shortest` finds them: the reals that round to
`m * 2 ^ e` form an interval, and on the decimal grids of one digit, two digits and so on the
first with a point in the interval wins.  If a grid has any point there, one of the value's two
neighbours on that grid is one, so only those two are tried.

`Double.text` then writes the digits: positionally when the decimal exponent lies between -4
and 15, else with an exponent of at least two digits, and always with a mark of being a
fraction.
-/

namespace QueryTools.Double

/-- A positive real written as a fraction. -/
structure Ratio where
  num : Nat
  den : Nat

namespace Ratio

/-- Whether one fraction is strictly below another. -/
def lt (x y : Ratio) : Bool := x.num * y.den < y.num * x.den

/-- Whether one fraction is at most another. -/
def le (x y : Ratio) : Bool := x.num * y.den ≤ y.num * x.den

/-- The fraction `n * 2 ^ e`. -/
def ofBinary (n : Nat) (e : Int) : Ratio :=
  if 0 ≤ e then ⟨n * Nat.pow 2 e.toNat, 1⟩ else ⟨n, Nat.pow 2 (-e).toNat⟩

/-- The fraction `n * 10 ^ k`. -/
def ofDecimal (n : Nat) (k : Int) : Ratio :=
  if 0 ≤ k then ⟨n * Nat.pow 10 k.toNat, 1⟩ else ⟨n, Nat.pow 10 (-k).toNat⟩

/-- The whole part of `x / 10 ^ k`. -/
def floorDecimal (x : Ratio) (k : Int) : Nat :=
  if 0 ≤ k then x.num / (x.den * Nat.pow 10 k.toNat) else x.num * Nat.pow 10 (-k).toNat / x.den

end Ratio

/-- The reals that round to a value, with a flag for whether the ends belong to them. -/
structure RoundingInterval where
  low : Ratio
  high : Ratio
  closed : Bool

/-- Whether a fraction rounds to the value of the interval. -/
def RoundingInterval.contains (i : RoundingInterval) (x : Ratio) : Bool :=
  if i.closed then i.low.le x && x.le i.high else i.low.lt x && x.lt i.high

/-- The reals that round to `m * 2 ^ e`.  Below a power of two the neighbouring values lie
closer together, so the lower half of the interval is shorter there. -/
def roundingInterval (m : Nat) (e : Int) : RoundingInterval where
  low := if m = Nat.pow 2 52 ∧ minExponent < e then .ofBinary (4 * m - 1) (e - 2) else .ofBinary (2 * m - 1) (e - 1)
  high := .ofBinary (2 * m + 1) (e - 1)
  closed := m % 2 == 0

/-- The grid point `n * 10 ^ k` of step `10 ^ k` that rounds to the value `x`, the nearer one
when both neighbours of `x` do. -/
def gridPoint? (x : Ratio) (i : RoundingInterval) (k : Int) : Option Nat :=
  let below := x.floorDecimal k
  let above := below + 1
  match i.contains (.ofDecimal below k), i.contains (.ofDecimal above k) with
  | true, true =>
    -- `x - below ≤ above - x`, doubled to stay among whole numbers
    if (Ratio.ofDecimal (2 * below + 1) k).lt ⟨2 * x.num, x.den⟩ then some above else some below
  | true, false => some below
  | false, true => some above
  | false, false => none

/-- The first grid, from step `10 ^ k` downwards, that has a point rounding to the value. -/
def firstGrid (x : Ratio) (i : RoundingInterval) (k : Int) : Nat → Nat × Int
  | 0 => (x.floorDecimal k, k)
  | steps + 1 =>
    match gridPoint? x i k with
    | some n => (n, k)
    | none => firstGrid x i (k - 1) steps

/-- The exponent of ten of the leading digit, found from an estimate that is at most one too
large. -/
def leadingExponent (x : Ratio) (estimate : Int) : Nat → Int
  | 0 => estimate
  | steps + 1 => if 0 < x.floorDecimal estimate then estimate else leadingExponent x (estimate - 1) steps

/-- The digits and the exponent of the shortest decimal `n * 10 ^ k` that reads back as
`m * 2 ^ e`, for a positive `m`. -/
def shortest (m : Nat) (e : Int) : Nat × Int :=
  let x := Ratio.ofBinary m e
  let estimate := ((Nat.log2 m : Int) + e) * 30103 / 100000 + 1
  firstGrid x (roundingInterval m e) (leadingExponent x estimate 3) 20

/-- The digits without trailing zeros, which move into the exponent. -/
def trimZeros (n : Nat) (k : Int) : Nat → Nat × Int
  | 0 => (n, k)
  | steps + 1 => if n % 10 = 0 ∧ n ≠ 0 then trimZeros (n / 10) (k + 1) steps else (n, k)

/-- A run of zeros. -/
def zeros (n : Nat) : List Char := List.replicate n '0'

/-- A decimal exponent with its sign and at least two digits. -/
def exponentText (e : Int) : List Char :=
  let digits := Nat.toDigits 10 e.natAbs
  (if e < 0 then '-' else '+') :: (if digits.length < 2 then '0' :: digits else digits)

/-- The decimal `digits * 10 ^ k` in positional notation, or with an exponent when the leading
digit stands for less than a ten-thousandth or for at least ten to the sixteenth. -/
def writeDecimal (digits : List Char) (k : Int) : List Char :=
  let lead : Int := (digits.length : Int) + k - 1
  if lead < -4 ∨ 16 ≤ lead then
    match digits with
    | [] => []
    | [d] => d :: 'e' :: exponentText lead
    | d :: rest => d :: '.' :: rest ++ 'e' :: exponentText lead
  else if 0 ≤ k then digits ++ zeros k.toNat ++ ['.', '0']
  else if 0 ≤ lead then digits.take (lead.toNat + 1) ++ '.' :: digits.drop (lead.toNat + 1)
  else '0' :: '.' :: zeros (-lead - 1).toNat ++ digits

/-- The text of a value: the shortest decimal that reads back, always with a point or an
exponent, or one of the words for the values that are no numbers. -/
def text : Double → String
  | .nan => "nan"
  | .infinity negative => if negative then "-inf" else "inf"
  | .finite negative m e =>
    let body : List Char :=
      if m = 0 then ['0', '.', '0']
      else
        let (n, k) := shortest m e
        let (n, k) := trimZeros n k 400
        writeDecimal (Nat.toDigits 10 n) k
    String.ofList (if negative then '-' :: body else body)

end QueryTools.Double
