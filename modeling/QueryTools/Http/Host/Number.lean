import QueryTools.Text.Blank

/-!
# Hosts in numbers

A host can be named by its number: by up to four numbers with dots between them, of which the last
takes up all bytes left, or by eight groups of sixteen bits with colons between them, of which one
run of zeros can be left out.

* `readGroups?` reads the second form and `writeGroups` writes it, with its longest run of zeros
  left out.
-/

namespace QueryTools.Host

/-- A number as part of a host: decimal, or octal or hexadecimal behind its mark. -/
def number? (cs : List Char) : Option Nat :=
  let value (base : Nat) (digits : List Char) : Option Nat :=
    digits.foldlM (fun n c =>
      let d := if c.isDigit then c.toNat - 48 else if c.isLower then c.toNat - 87 else base
      if d < base then some (n * base + d) else none) 0
  match cs with
  | [] => none
  | '0' :: 'x' :: digits => value 16 digits
  | '0' :: digits => value 8 digits
  | digits => value 10 digits

/-- The four bytes of a host written in numbers, of which the last takes up all bytes left. -/
def readBytes? (parts : List (List Char)) : Option (List Nat) := do
  let numbers ← parts.mapM number?
  let last ← numbers.getLast?
  let front := numbers.dropLast
  if front.length ≤ 3 && front.all (· < 256) && last < Nat.pow 256 (4 - front.length) then
    let n := front.zipIdx.foldl (fun n (x, i) => n + x * Nat.pow 256 (3 - i)) last
    some [n / Nat.pow 256 3, n / Nat.pow 256 2 % 256, n / 256 % 256, n % 256]
  else none

/-- The text of four bytes. -/
def writeBytes (bytes : List Nat) : List Char := (".".intercalate (bytes.map toString)).toList

/-- Whether a host that ends in this part is written in numbers. -/
def endsInNumber (last : List Char) : Bool :=
  !last.isEmpty && (last.all Char.isDigit || (number? last).isSome)

/-- A group: one to four hexadecimal digits of either case. -/
def readGroup? (cs : List Char) : Option Nat :=
  let digit? (c : Char) : Option Nat :=
    let c := c.toLower
    if c.isDigit then some (c.toNat - 48)
    else if 'a' ≤ c ∧ c ≤ 'f' then some (c.toNat - 87)
    else none
  if cs.isEmpty || 4 < cs.length then none
  else cs.foldlM (fun n c => (digit? c).map fun d => n * 16 + d) 0

/-- A byte in decimal digits, with no zero before another digit. -/
def readByte? (cs : List Char) : Option Nat :=
  match cs with
  | [] | '0' :: _ :: _ => none
  | cs =>
    if cs.all Char.isDigit && cs.length ≤ 3 then
      let n := cs.foldl (fun n c => n * 10 + (c.toNat - 48)) 0
      if n < 256 then some n else none
    else none

/-- Groups, of which the last can be written as four bytes. -/
def readRun? : List (List Char) → Option (List Nat)
  | [] => some []
  | [last] =>
    match readGroup? last with
    | some n => some [n]
    | none => do
      match ← (Text.splitChars '.' last).mapM readByte? with
      | [a, b, c, d] => some [a * 256 + b, c * 256 + d]
      | _ => none
  | group :: rest => do return (← readGroup? group) :: (← readRun? rest)

/-- The texts before and after the first pair of colons. -/
def splitGap : List Char → Option (List Char × List Char)
  | ':' :: ':' :: rest => some ([], rest)
  | c :: rest => (splitGap rest).map fun (before, after) => (c :: before, after)
  | [] => none

/-- The eight groups that a text spells; a pair of colons stands for as many zeros as are missing,
which is one at least. -/
def readGroups? (cs : List Char) : Option (List Nat) := do
  let parts (text : List Char) : List (List Char) :=
    if text.isEmpty then [] else Text.splitChars ':' text
  match splitGap cs with
  | none =>
    let groups ← readRun? (Text.splitChars ':' cs)
    if groups.length = 8 then some groups else none
  | some (before, after) =>
    let before ← (parts before).mapM readGroup?
    let after ← readRun? (parts after)
    if before.length + after.length < 8 then
      some (before ++ List.replicate (8 - before.length - after.length) 0 ++ after)
    else none

/-- How many zeros groups begin with. -/
def leadingZeros (groups : List Nat) : Nat := (groups.takeWhile (· == 0)).length

/-- The place and the length of the longest run of zeros, the first of those as long. -/
def longestGap (groups : List Nat) : Nat × Nat :=
  (List.range groups.length).foldl (fun best i =>
    let n := leadingZeros (groups.drop i)
    if best.2 < n then (i, n) else best) (0, 0)

/-- The text of groups, with the longest run of zeros left out if there is more than one zero in
it. -/
def writeGroups (groups : List Nat) : List Char :=
  let run (gs : List Nat) : List Char := [':'].intercalate (gs.map (Nat.toDigits 16))
  let (start, length) := longestGap groups
  if length < 2 then run groups
  else run (groups.take start) ++ ':' :: ':' :: run (groups.drop (start + length))

end QueryTools.Host
