/-!
# Tables of code points

Properties of characters are given as ranges of code points, and large tables are written as text:
words with hexadecimal numbers, `a-b` for the range from `a` to `b` and `a` for one code point, and
`a-b=c` where the code points from `c` on stand for a range.
-/

namespace QueryTools.Text

/-- Whether a code point lies in one of the ranges. -/
def inRanges (n : Nat) : List (Nat × Nat) → Bool
  | [] => false
  | (low, high) :: rest => (low ≤ n && n ≤ high) || inRanges n rest

theorem inRanges_eq_true_iff {n : Nat} {ranges : List (Nat × Nat)} :
    inRanges n ranges = true ↔ ∃ r ∈ ranges, r.1 ≤ n ∧ n ≤ r.2 := by
  induction ranges with
  | nil => simp [inRanges]
  | cons r rest ih => simp [inRanges, ih]

namespace CodeTable

/-- Words between spaces and line ends, after the part of a word already read, its last character
first. -/
def wordsFrom (word : List Char) : List Char → List (List Char)
  | [] => if word.isEmpty then [] else [word.reverse]
  | c :: rest =>
    if c == ' ' || c == '\n' then
      if word.isEmpty then wordsFrom [] rest else word.reverse :: wordsFrom [] rest
    else wordsFrom (c :: word) rest

/-- The words of a table. -/
def words (table : String) : List (List Char) := wordsFrom [] table.toList

/-- The number that hexadecimal digits spell. -/
def number (digits : List Char) : Nat :=
  digits.foldl (fun n c => n * 16 + (if c.isDigit then c.toNat - 48 else c.toNat - 87)) 0

/-- The range that a word spells. -/
def range (word : List Char) : Nat × Nat :=
  let low := word.takeWhile (· != '-')
  match word.drop low.length with
  | _ :: high => (number low, number high)
  | [] => (number low, number low)

/-- The ranges of a table. -/
def ranges (table : String) : List (Nat × Nat) := (words table).map range

/-- The code points in the ranges of a table, in order. -/
def codes (table : String) : List Nat :=
  (ranges table).flatMap fun (low, high) => (List.range (high + 1 - low)).map (low + ·)

/-- A range of numbers and the number that stands for the first of them; for the others the numbers
that follow stand. -/
structure Shift where
  low : Nat
  high : Nat
  target : Nat
  deriving DecidableEq, Repr

/-- The shift that a word of the form `a-b=c` or `a=c` spells. -/
def shift (word : List Char) : Shift :=
  let left := word.takeWhile (· != '=')
  let (low, high) := range left
  ⟨low, high, number (word.drop (left.length + 1))⟩

/-- The shifts of a table. -/
def shifts (table : String) : List Shift := (words table).map shift

/-- What stands for a number in a table, if anything does. -/
def shifted? (n : Nat) (table : List Shift) : Option Nat :=
  (table.find? fun s => s.low ≤ n && n ≤ s.high).map fun s => s.target + (n - s.low)

end CodeTable

end QueryTools.Text
