import QueryTools.Number.Double
import QueryTools.Text.Blank

/-!
# Numerals in settings

Numbers that people write into settings: whole ones with an optional sign, and fractions with an
optional exponent or as one of the words for infinity and for what is no number.  Digits may be
grouped by underscores, in ways that differ from one place to another; each place removes them
first.
-/

namespace QueryTools.Numeral

/-- The code points of the digit zero in all scripts; the other nine digits follow each. -/
def zeros : List Nat :=
  [0x30, 0x660, 0x6f0, 0x7c0, 0x966, 0x9e6, 0xa66, 0xae6, 0xb66, 0xbe6, 0xc66, 0xce6, 0xd66,
    0xde6, 0xe50, 0xed0, 0xf20, 0x1040, 0x1090, 0x17e0, 0x1810, 0x1946, 0x19d0, 0x1a80, 0x1a90,
    0x1b50, 0x1bb0, 0x1c40, 0x1c50, 0xa620, 0xa8d0, 0xa900, 0xa9d0, 0xa9f0, 0xaa50, 0xabf0,
    0xff10, 0x104a0, 0x10d30, 0x11066, 0x110f0, 0x11136, 0x111d0, 0x112f0, 0x11450, 0x114d0,
    0x11650, 0x116c0, 0x11730, 0x118e0, 0x11950, 0x11c50, 0x11d50, 0x11da0, 0x16a60, 0x16ac0,
    0x16b50, 0x1d7ce, 0x1d7d8, 0x1d7e2, 0x1d7ec, 0x1d7f6, 0x1e140, 0x1e2f0, 0x1e950, 0x1fbf0]

/-- The digit of the decimal system that a character of any script stands for, as one of `0` to
`9`; other characters stay. -/
def plainDigit (c : Char) : Char :=
  match zeros.find? fun z => z ≤ c.toNat && c.toNat < z + 10 with
  | some z => Char.ofNat (0x30 + (c.toNat - z))
  | none => c

/-- The number that a row of digits spells. -/
def digitsValue (ds : List Char) : Nat := ds.foldl (fun n d => 10 * n + (d.toNat - 0x30)) 0

/-- Whether there are characters and all are digits. -/
def isDigits (cs : List Char) : Bool := !cs.isEmpty && cs.all Char.isDigit

/-- A sign taken off the front: whether it is a minus, and what follows. -/
def takeSign : List Char → Bool × List Char
  | '-' :: rest => (true, rest)
  | '+' :: rest => (false, rest)
  | cs => (false, cs)

/-- The whole number that a sign and digits spell. -/
def whole? (cs : List Char) : Option Int :=
  let (negative, digits) := takeSign cs
  if isDigits digits then
    some (if negative then -(digitsValue digits : Int) else (digitsValue digits : Int))
  else none

/-- An exponent with the letter before it; where nothing is left it is zero. -/
def exponent? : List Char → Option Int
  | [] => some 0
  | c :: rest => if c = 'e' ∨ c = 'E' then whole? rest else none

/-- The fraction that digits, a point and an exponent spell. -/
def unsigned? (negative : Bool) (cs : List Char) : Option Double :=
  let word := cs.map Char.toLower
  if word = "inf".toList ∨ word = "infinity".toList then some (.infinity negative)
  else if word = "nan".toList then some .nan
  else
    let before := cs.takeWhile Char.isDigit
    let rest := cs.dropWhile Char.isDigit
    let (after, rest) := match rest with
      | '.' :: more => (more.takeWhile Char.isDigit, more.dropWhile Char.isDigit)
      | rest => ([], rest)
    if before.isEmpty && after.isEmpty then none
    else
      (exponent? rest).map fun e =>
        .ofDecimal negative (digitsValue (before ++ after)) (e - after.length)

/-- The fraction that a sign and a numeral spell. -/
def fraction? (cs : List Char) : Option Double :=
  let (negative, rest) := takeSign cs
  unsigned? negative rest

/-- The characters without underscores, if each of those stands between two digits. -/
def ungroup? (previous : Option Char) : List Char → Option (List Char)
  | [] => some []
  | '_' :: rest =>
    let between := previous.any Char.isDigit && (rest.head?.any Char.isDigit)
    if between then ungroup? (some '_') rest else none
  | c :: rest => (ungroup? (some c) rest).map (c :: ·)

/-- The numeral inside a text: without white space around it, in plain digits, without
underscores between them. -/
def strict? (s : String) : Option (List Char) :=
  ungroup? none ((Text.trimBy Text.isBlank s.toList).map plainDigit)

/-- Whether two underscores stand side by side. -/
def hasPair : List Char → Bool
  | '_' :: '_' :: _ => true
  | _ :: rest => hasPair rest
  | [] => false

/-- The characters without underscores, where none is first or last and no two are side by
side; else as they are. -/
def loosen (cs : List Char) : List Char :=
  if cs.head? == some '_' || cs.getLast? == some '_' || hasPair cs then cs
  else cs.filter (· != '_')

/-- The digits without leading zeros, of which underscores between them count as part, and behind
which a minus may stand; nothing where something else stands in front. -/
def dropZeros? (last : Char) : List Char → Option (List Char)
  | [] => some [last]
  | c :: rest =>
    if c = '0' ∨ c = '_' then dropZeros? c rest
    else if c.isDigit ∨ c = '-' then some (c :: rest)
    else if c = '.' then some (last :: c :: rest)
    else none

/-- The characters without a point and the zeros behind it, if zeros are behind it and nothing
else. -/
def dropEmptyFraction (cs : List Char) : List Char :=
  match cs.dropWhile (· != '.') with
  | '.' :: zeros =>
    if !zeros.isEmpty && zeros.all (· == '0') then cs.takeWhile (· != '.') else cs
  | _ => cs

/-- The whole number that digits spell, perhaps behind a minus; a zero stands in front of no other
digit. -/
def canonicalWhole? (cs : List Char) : Option Int :=
  let digits := match cs with
    | '-' :: rest => rest
    | cs => cs
  match digits with
  | '0' :: _ :: _ => none
  | digits => if isDigits digits then whole? cs else none

/-- The whole number that a setting's text spells. -/
def settingWhole? (s : String) : Option Int := do
  let cs := Text.trimBy Text.isSpace s.toList
  let cs ← match cs with
    | '+' :: '-' :: _ => none
    | '+' :: rest => some rest
    | cs => some cs
  let cs ← match cs with
    | '0' :: rest => dropZeros? '0' rest
    | c :: rest => if c.isDigit || c == '-' then some (c :: rest) else none
    | [] => none
  canonicalWhole? (loosen (dropEmptyFraction cs))

/-- The fraction that a setting's text spells.  Underscores between digits do not count, but then
there is no white space around. -/
def settingFraction? (s : String) : Option Double :=
  let cs := s.toList
  match fraction? (Text.trimBy Text.isSpace cs) with
  | some x => some x
  | none => fraction? (loosen cs)

/-- The most digits of a whole number that an option takes. -/
def optionDigitLimit : Nat := 4300

/-- The whole number that the argument of an option spells. -/
def optionWhole? (s : String) : Option Int := do
  let cs ← strict? s
  if optionDigitLimit < (cs.filter Char.isDigit).length then none else whole? cs

/-- The fraction that the argument of an option spells. -/
def optionFraction? (s : String) : Option Double := (strict? s).bind fraction?

end QueryTools.Numeral
