import QueryTools.Text.Marks

/-!
# Directions

A name of a host that holds letters written from right to left has to keep to rules, so that its
labels cannot be shown in an order that is not theirs: each label begins with a letter, holds
characters of one direction, and ends with one that has it.
-/

namespace QueryTools.Host

/-- How a character stands to the direction of text. -/
inductive Direction where
  /-- A letter written from left to right. -/
  | rightward
  /-- A letter written from right to left. -/
  | leftward
  /-- A digit of a script that is written from right to left. -/
  | leftwardDigit
  | digit
  /-- A mark, which goes with the character before it. -/
  | mark
  /-- What has no direction. -/
  | neutral
  deriving DecidableEq, Repr

/-- Letters written from right to left. -/
def leftwardLetters : List (Nat × Nat) := Text.CodeTable.ranges "
  5be 5c0 5c3 5c6 5d0-5f4 608 60b 60d 61b-64a 66d-66f 671-6d5 6e5-6e6 6ee-6ef 6fa-710 712-72f
  74d-7a5 7b1-7ea 7f4-7f5 7fa 7fe-815 81a 824 828 830-858 85e-88f 8a0-8c9 fbb2-fbd2 fd90-fdce fe73
  10800-1091b 10920-10a00 10a10-10a35 10a40-10ae4 10aeb-10b35 10b40-10d23 10d40-10d4f 10d6e-10d8f
  10e80-10ea9 10ead-10ed8 10f00-10f45 10f51-10f81 10f86-10ff6 1e800-1e8cf 1e922-1e943 1e94b-1ed3d"

/-- Digits of scripts that are written from right to left. -/
def leftwardDigits : List (Nat × Nat) := Text.CodeTable.ranges "
  660-669 66b-66c 10d30-10d39 10e60-10e7e"

/-- Digits of no script. -/
def plainDigits : List (Nat × Nat) := Text.CodeTable.ranges "
  30-39 6f0-6f9 102e1-102fb"

/-- Characters without a direction. -/
def neutrals : List (Nat × Nat) := Text.CodeTable.ranges "
  0-8 e-1b 21-2f 3a-60 7b-d7 f7 2b9-2ba 2c2-2cf 2d2-2ed 2ef-2ff 375 3f6 58a-58f 606-607 609-60a
  60c 60e-60f 66a 6de 6e9 7f6-7f9 9f2-9f3 9fb af1 bf3-bfa c78-c7e e3f f3a-f3d 1390-1399 1400
  169b-169c 17db 17f0-180a 1940-1945 19de-19ff 200c-20c1 2104-214d 218a-2335 237b-2394 2396-2426
  2440-26ab 26ad-27ff 2900-2b95 2b97-2bff 2ce5-2cea 2cf9-2cff 2e00-3004 3008-3020 3030 3037
  303d-303f 30a0 30fb 31c0-31e3 4dc0-4dff a490-a4c6 a60d-a60f a673 a67e-a67f a700-a721 a788
  a828-a82b a838-a839 a874-a877 ab6a-ab6b fd3e-fd4f fdcf-fdff fe45-fe46 10101 10140-1018c
  10190-101a0 1091f 10b39-10b3f 11052-11065 11660-1166c 11fd5-11ff1 16fe2 1d1e9-1d241 1d245
  1d300-1d356 1e2ff 1eef0-1f12f 1f16d-1f16f 1f1ad 1f260-1f6d7 1f6dc-1f776 1f77b-1f8b1 1f900-1fa53
  1fa60-1fa88 1fa90-1fabd 1fabf-1fac5 1face-1fadb 1fae0-1fae8 1faf0-1fbca"

/-- The direction of a character. -/
def Direction.of (c : Char) : Direction :=
  let n := c.toNat
  if Text.inRanges n plainDigits then .digit
  else if Text.inRanges n neutrals then .neutral
  else if Text.inRanges n leftwardLetters then .leftward
  else if Text.inRanges n leftwardDigits then .leftwardDigit
  else if Text.inRanges n Text.nonspacingMarks then .mark
  else .rightward

/-- Whether a label makes its name one that is written from right to left. -/
def isLeftward (label : List Char) : Bool :=
  label.any fun c => Direction.of c = .leftward || Direction.of c = .leftwardDigit

/-- The direction of the last character of a label that is no mark. -/
def lastDirection? (label : List Char) : Option Direction :=
  (label.map Direction.of).reverse.find? fun d => d != .mark

/-- Whether a label keeps to the rules of a name that is written from right to left. -/
def keepsDirection (label : List Char) : Bool :=
  let directions := label.map Direction.of
  match directions with
  | [] => true
  | .leftward :: _ =>
    !directions.contains .rightward
      && !(directions.contains .digit && directions.contains .leftwardDigit)
      && (lastDirection? label).any fun d =>
        d = .leftward || d = .leftwardDigit || d = .digit
  | .rightward :: _ =>
    !directions.contains .leftward && !directions.contains .leftwardDigit
      && (lastDirection? label).any fun d => d = .rightward || d = .digit
  | _ => false

end QueryTools.Host
