import QueryTools.Text.Half

/-!
# Bytes as text

Decoding of bytes as the units of Unicode.  `Utf8.decode` refuses the first bytes that are not UTF-8
and says why; `Utf8.decodeLossyFrom` puts the replacement character in the place of each bad sequence
and never fails, and so `Wide` gives nothing in its place.  `Utf8.decodeHalvesFrom?` lets bytes spell
halves of pairs too.
-/

namespace QueryTools

/-- The character that stands for bytes that cannot be read. -/
def replacement : Char := '\ufffd'

/-- Why bytes are not UTF-8. -/
inductive Utf8Cause where
  | badStart
  | badContinuation
  | unexpectedEnd
  deriving DecidableEq, Repr

/-- Bytes that are not UTF-8: where the bad sequence starts, its length, and its first byte. -/
structure Utf8Fault where
  cause : Utf8Cause
  position : Nat
  length : Nat
  byte : UInt8
  deriving DecidableEq, Repr

/-- The wording of a fault. -/
def Utf8Fault.message (f : Utf8Fault) : String :=
  let reason := match f.cause with
    | .badStart => "invalid start byte"
    | .badContinuation => "invalid continuation byte"
    | .unexpectedEnd => "unexpected end of data"
  let digits := Nat.toDigits 16 f.byte.toNat
  let hex := String.ofList (if digits.length < 2 then '0' :: digits else digits)
  let bytes :=
    if f.length = 1 then s!"byte 0x{hex} in position {f.position}"
    else s!"bytes in position {f.position}-{f.position + f.length - 1}"
  s!"'utf-8' codec can't decode {bytes}: {reason}"

namespace Utf8

/-- Whether a byte continues a sequence. -/
def isTail (b : UInt8) : Bool := 0x80 ≤ b && b ≤ 0xbf

/-- Whether a second byte fits the first of a sequence of three or four bytes: the shortest form is
required, and surrogates and what lies past the last code point are excluded. -/
def fitsSecond (a b : UInt8) : Bool :=
  isTail b
    && !(a == 0xe0 && b < 0xa0) && !(a == 0xed && 0xa0 ≤ b)
    && !(a == 0xf0 && b < 0x90) && !(a == 0xf4 && 0x90 ≤ b)

/-- The low six bits of a continuation byte. -/
def tailBits (b : UInt8) : Nat := b.toNat % 0x40

/-- The sequence at the front of bytes that begin with `a`: a character and its length, or the
cause and the length of a bad sequence. -/
def readChar (a : UInt8) (rest : List UInt8) : Except (Utf8Cause × Nat) (Char × Nat) :=
  if a < 0x80 then .ok (Char.ofNat a.toNat, 1)
  else if a < 0xc2 then .error (.badStart, 1)
  else if a < 0xe0 then
    match rest with
    | [] => .error (.unexpectedEnd, 1)
    | b :: _ =>
      if isTail b then .ok (Char.ofNat (a.toNat % 0x20 * 0x40 + tailBits b), 2)
      else .error (.badContinuation, 1)
  else if a < 0xf0 then
    match rest with
    | [] => .error (.unexpectedEnd, 1)
    | b :: rest =>
      if !fitsSecond a b then .error (.badContinuation, 1)
      else
        match rest with
        | [] => .error (.unexpectedEnd, 2)
        | c :: _ =>
          if isTail c then
            .ok (Char.ofNat ((a.toNat % 0x10 * 0x40 + tailBits b) * 0x40 + tailBits c), 3)
          else .error (.badContinuation, 2)
  else if a < 0xf5 then
    match rest with
    | [] => .error (.unexpectedEnd, 1)
    | b :: rest =>
      if !fitsSecond a b then .error (.badContinuation, 1)
      else
        match rest with
        | [] => .error (.unexpectedEnd, 2)
        | c :: rest =>
          if !isTail c then .error (.badContinuation, 2)
          else
            match rest with
            | [] => .error (.unexpectedEnd, 3)
            | d :: _ =>
              if isTail d then
                .ok (Char.ofNat
                  (((a.toNat % 0x08 * 0x40 + tailBits b) * 0x40 + tailBits c) * 0x40 + tailBits d), 4)
              else .error (.badContinuation, 3)
  else .error (.badStart, 1)

/-- The characters of bytes from a position on, after bytes that belong to the character before. -/
def decodeFrom (skip position : Nat) : List UInt8 → Except Utf8Fault (List Char)
  | [] => .ok []
  | a :: rest =>
    match skip with
    | k + 1 => decodeFrom k (position + 1) rest
    | 0 =>
      match readChar a rest with
      | .ok (c, n) => do return c :: (← decodeFrom (n - 1) (position + 1) rest)
      | .error (cause, n) => .error { cause, position, length := n, byte := a }

/-- The characters of bytes that have to be UTF-8. -/
def decode (bytes : List UInt8) : Except Utf8Fault (List Char) := decodeFrom 0 0 bytes

/-- The characters of bytes, with replacements for bad sequences. -/
def decodeLossyFrom (skip : Nat) : List UInt8 → List Char
  | [] => []
  | a :: rest =>
    match skip with
    | k + 1 => decodeLossyFrom k rest
    | 0 =>
      match readChar a rest with
      | .ok (c, n) => c :: decodeLossyFrom (n - 1) rest
      | .error (_, n) => replacement :: decodeLossyFrom (n - 1) rest

/-- The half of a pair at the front of bytes that spell it as UTF-8 spells a character. -/
def readHalf? : List UInt8 → Option Char
  | 0xed :: b :: c :: _ =>
    if isTail b && 0xa0 ≤ b && isTail c then
      some (Text.half ((0xd * 0x40 + tailBits b) * 0x40 + tailBits c))
    else none
  | _ => none

/-- The characters of bytes that may spell halves of pairs beside characters, if all can be read. -/
def decodeHalvesFrom? (skip : Nat) : List UInt8 → Option (List Char)
  | [] => some []
  | a :: rest =>
    match skip with
    | k + 1 => decodeHalvesFrom? k rest
    | 0 =>
      match readChar a rest, readHalf? (a :: rest) with
      | .ok (c, n), _ => (decodeHalvesFrom? (n - 1) rest).map (c :: ·)
      | .error _, some c => (decodeHalvesFrom? 2 rest).map (c :: ·)
      | .error _, none => none

/-- The bytes of a character. -/
def encodeChar (c : Char) : List UInt8 :=
  let n := c.toNat
  let tail := fun (m : Nat) => UInt8.ofNat (0x80 + m % 0x40)
  if n < 0x80 then [UInt8.ofNat n]
  else if n < 0x800 then [UInt8.ofNat (0xc0 + n / 0x40), tail n]
  else if n < 0x10000 then [UInt8.ofNat (0xe0 + n / 0x1000), tail (n / 0x40), tail n]
  else [UInt8.ofNat (0xf0 + n / 0x40000), tail (n / 0x1000), tail (n / 0x40), tail n]

/-- The bytes of a text. -/
def encode (s : String) : List UInt8 := s.toList.flatMap encodeChar

end Utf8

/-- The order of the bytes of a unit. -/
inductive ByteOrder where
  | little
  | big
  deriving DecidableEq, Repr

namespace Wide

/-- A code point as a character, if it is one. -/
def charOf? (n : Nat) : Option Char :=
  if (0xd800 ≤ n ∧ n < 0xe000) ∨ 0x110000 ≤ n then none else some (Char.ofNat n)

/-- A code point as a character, or as a half of a pair where it is one. -/
def charOrHalf? (n : Nat) : Option Char :=
  if 0xd800 ≤ n ∧ n < 0xe000 then some (Text.half n) else charOf? n

/-- The value of a unit of bytes. -/
def unit (order : ByteOrder) (bytes : List UInt8) : Nat :=
  let ordered := match order with
    | .big => bytes
    | .little => bytes.reverse
  ordered.foldl (fun n b => n * 0x100 + b.toNat) 0

/-- Units of two bytes; an odd byte at the end gives nothing. -/
def units16 (order : ByteOrder) : List UInt8 → List (Option Nat)
  | a :: b :: rest => some (unit order [a, b]) :: units16 order rest
  | [_] => [none]
  | [] => []

/-- Units of four bytes; bytes left over at the end give nothing. -/
def units32 (order : ByteOrder) : List UInt8 → List (Option Nat)
  | a :: b :: c :: d :: rest => some (unit order [a, b, c, d]) :: units32 order rest
  | [] => []
  | _ => [none]

/-- Characters of units of sixteen bits, which `char?` reads where they make no pair; nothing where a unit
is no character. -/
def decode16 (char? : Nat → Option Char) : List (Option Nat) → List (Option Char)
  | [some hi, none] => if 0xd800 ≤ hi ∧ hi < 0xdc00 then [none] else [char? hi, none]
  | some hi :: some lo :: rest =>
    if 0xd800 ≤ hi ∧ hi < 0xdc00 ∧ 0xdc00 ≤ lo ∧ lo < 0xe000 then
      some (Char.ofNat (0x10000 + (hi - 0xd800) * 0x400 + (lo - 0xdc00))) :: decode16 char? rest
    else
      char? hi :: decode16 char? (some lo :: rest)
  | some n :: rest => char? n :: decode16 char? rest
  | none :: rest => none :: decode16 char? rest
  | [] => []

/-- Characters of units of thirty-two bits, which `char?` reads; nothing where a unit is no character. -/
def decode32 (char? : Nat → Option Char) (units : List (Option Nat)) : List (Option Char) :=
  units.map fun u => u.bind char?

/-- The order that a byte order mark of two bytes tells, and the bytes behind it. -/
def marked16? : List UInt8 → Option (ByteOrder × List UInt8)
  | 0xff :: 0xfe :: rest => some (.little, rest)
  | 0xfe :: 0xff :: rest => some (.big, rest)
  | _ => none

/-- The order that a byte order mark of four bytes tells, and the bytes behind it. -/
def marked32? : List UInt8 → Option (ByteOrder × List UInt8)
  | 0xff :: 0xfe :: 0 :: 0 :: rest => some (.little, rest)
  | 0 :: 0 :: 0xfe :: 0xff :: rest => some (.big, rest)
  | _ => none

end Wide

end QueryTools
