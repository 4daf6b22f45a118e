/-!
# Text in steps

A text that holds characters beyond ASCII is written in ASCII: first its ASCII characters, then, in
the order of their code points, the steps that lead to each place where another character stands.
A step is a number in digits to the base 36 whose weights follow the steps before it.  `write` gives
the steps of a text, and `read?` puts the characters back.

* `scaled` and `stepDigits` end because each of their rounds makes a number smaller; no bound is
  set from outside.
-/

namespace QueryTools.Steps

/-- The digit of a value below 36: a letter, or a decimal digit from 26 on. -/
def digit (d : Nat) : Char := if d < 26 then Char.ofNat (97 + d) else Char.ofNat (22 + d)

/-- The value of a digit. -/
def value? (c : Char) : Option Nat :=
  if c.isLower then some (c.toNat - 97) else if c.isDigit then some (c.toNat - 22) else none

/-- The least digit behind which a number goes on, at a place counted in steps of 36. -/
def leastInner (place bias : Nat) : Nat := max 1 (min 26 (place - bias))

theorem one_le_leastInner (place bias : Nat) : 1 ≤ leastInner place bias := by
  simp only [leastInner]; omega

/-- The digits of a step, those of low weight first. -/
def stepDigits (bias place q : Nat) : List Char :=
  let t := leastInner place bias
  if q < t then [digit q]
  else digit (t + (q - t) % (36 - t)) :: stepDigits bias (place + 36) ((q - t) / (36 - t))
termination_by q
decreasing_by
  have := one_le_leastInner place bias
  exact Nat.lt_of_le_of_lt (Nat.div_le_self _ _) (by omega)

/-- The bias that a number of this size asks for, counted from `place`. -/
def scaled (place n : Nat) : Nat :=
  if 455 < n then scaled (place + 36) (n / 35) else place + 36 * n / (n + 38)
termination_by n
decreasing_by exact Nat.div_lt_self (by omega) (by omega)

/-- The bias behind a step, with how many characters are in place then; the first step of a label is
long as a rule. -/
def biasAfter (isFirst : Bool) (step placed : Nat) : Nat :=
  let n := if isFirst then step / 700 else step / 2
  scaled 0 (n + n / placed)

/-- How far the steps of a text are written. -/
structure Progress where
  /-- The digits so far, the last first. -/
  digits : List Char
  /-- The steps taken since the last digit was written. -/
  pending : Nat
  bias : Nat
  /-- The characters in place. -/
  placed : Nat

/-- One character of the text passed, in the search for the places of `wanted`. -/
def Progress.pass (first wanted : Nat) (p : Progress) (c : Char) : Progress :=
  if c.toNat < wanted then { p with pending := p.pending + 1 }
  else if c.toNat = wanted then
    { digits := (stepDigits p.bias 36 p.pending).reverse ++ p.digits
      pending := 0
      bias := biasAfter (p.placed = first) p.pending (p.placed + 1)
      placed := p.placed + 1 }
  else p

/-- The steps to all places of `wanted`, after those of all code points up to `before`. -/
def Progress.seek (text : List Char) (first : Nat) :
    Progress × Nat → Nat → Progress × Nat := fun (p, before) wanted =>
  let start := { p with pending := p.pending + (wanted - before) * (p.placed + 1) }
  let stop := text.foldl (Progress.pass first wanted) start
  ({ stop with pending := stop.pending + 1 }, wanted + 1)

/-- The characters of a text as steps behind its ASCII characters. -/
def write (text : List Char) : List Char :=
  let basic := text.filter (·.toNat < 0x80)
  let wanted := ((text.map Char.toNat).filter (0x80 ≤ ·)).eraseDups.mergeSort
  let start : Progress := { digits := [], pending := 0, bias := 72, placed := basic.length }
  let (stop, _) := wanted.foldl (Progress.seek text basic.length) (start, 0x80)
  (if basic.isEmpty then [] else basic ++ ['-']) ++ stop.digits.reverse

/-- How far the steps of a text are read. -/
structure Reading where
  /-- The characters in place. -/
  chars : List Char
  /-- The code point reached. -/
  code : Nat := 0x80
  /-- The steps counted, those since `code` was reached and those of the number being read. -/
  count : Nat := 0
  /-- The steps counted before the number being read. -/
  before : Nat := 0
  weight : Nat := 1
  place : Nat := 36
  bias : Nat := 72
  isFirst : Bool := true

/-- Reads a digit; with the last of a number a character is put into its place. -/
def Reading.take (r : Reading) (c : Char) : Option Reading := do
  let d ← value? c
  let t := leastInner r.place r.bias
  let count := r.count + d * r.weight
  if t ≤ d then
    some { r with count, weight := r.weight * (36 - t), place := r.place + 36 }
  else
    let size := r.chars.length + 1
    let code := r.code + count / size
    if (0xd800 ≤ code ∧ code < 0xe000) ∨ 0x110000 ≤ code then none
    else
      let position := count % size
      some {
        chars := r.chars.take position ++ Char.ofNat code :: r.chars.drop position
        code
        count := position + 1
        before := position + 1
        bias := biasAfter r.isFirst (count - r.before) size
        isFirst := false }

/-- Reads digits up to one that does not fit. -/
def Reading.takeAll (r : Reading) : List Char → Reading
  | [] => r
  | c :: rest =>
    match r.take c with
    | some s => s.takeAll rest
    | none => r

/-- Whether no number is left half read. -/
def Reading.isComplete (r : Reading) : Bool := r.place == 36

/-- The text that steps behind ASCII characters stand for. -/
def read? (text : List Char) : Option (List Char) := do
  let digits := (text.reverse.takeWhile (· != '-')).reverse
  let chars := text.take (text.length - digits.length - 1)
  let stop ← digits.foldlM Reading.take ({ chars } : Reading)
  if stop.isComplete && chars.all (·.toNat < 0x80) then some stop.chars else none

/-- The text that bytes stand for as far as their steps can be read, with a replacement for other
bytes before the steps; or the byte among the steps that is beyond ASCII, with its place. -/
def readPartly (bytes : List Nat) : Except (Nat × Nat) (List Char) :=
  let digits := (bytes.reverse.takeWhile (· != 0x2d)).reverse
  let start := bytes.take (bytes.length - digits.length - 1)
  match digits.zipIdx.find? fun (b, _) => 0x80 ≤ b with
  | some found => .error found
  | none =>
    let chars := start.map fun b => if b < 0x80 then Char.ofNat b else '\ufffd'
    .ok (({ chars } : Reading).takeAll (digits.map fun b => (Char.ofNat b).toLower)).chars

end QueryTools.Steps
