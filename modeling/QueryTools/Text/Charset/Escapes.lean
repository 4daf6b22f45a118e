import QueryTools.Text.Charset.Plane
import QueryTools.Text.Encoding

/-!
# Escapes

Character sets that write what they lack in ASCII: as code points behind a backslash, or as units of
sixteen bits in digits to the base 64 between a plus sign and a minus sign.
-/

namespace QueryTools.Text

/-- The value of a hexadecimal digit of either case. -/
def hexOfByte? (b : Nat) : Option Nat :=
  if 0x30 ≤ b ∧ b ≤ 0x39 then some (b - 0x30)
  else if 0x41 ≤ b ∧ b ≤ 0x46 then some (b - 0x37)
  else if 0x61 ≤ b ∧ b ≤ 0x66 then some (b - 0x57)
  else none

/-- A code point in so many hexadecimal digits, behind two bytes. -/
def readDigits (count : Nat) (rest : List Nat) : Found :=
  let digits := ((rest.take count).map hexOfByte?).takeWhile Option.isSome
  if digits.length = count then
    match Wide.charOf? (digits.foldl (fun n d => n * 16 + d.getD 0) 0) with
    | some c => .char c (count + 2)
    | none => .bad (count + 2)
  else if digits.length = rest.length then .cut
  else .bad (digits.length + 2)

/-- The character that a letter behind a backslash stands for. -/
def letterEscape? (b : Nat) : Option Char :=
  match Char.ofNat b with
  | '\\' => some '\\'
  | '\'' => some '\''
  | '"' => some '"'
  | 'a' => some '\x07'
  | 'b' => some '\x08'
  | 'f' => some '\x0c'
  | 'n' => some '\n'
  | 'r' => some '\r'
  | 't' => some '\t'
  | 'v' => some '\x0b'
  | _ => none

/-- A character by its name in braces, behind two bytes; names are not known. -/
def readNamed (rest : List Nat) : Found :=
  match rest with
  | [] => .cut
  | 0x7b :: rest =>
    let name := rest.takeWhile (· != 0x7d)
    if name.length = rest.length then .cut
    else .bad (if name.isEmpty then 3 else name.length + 4)
  | _ => .bad 2

/-- Reads a character that may be written behind a backslash. -/
def readEscaped (a : Nat) (rest : List Nat) : Found :=
  if a ≠ 0x5c then .char (Char.ofNat a) 1
  else
    match rest with
    | [] => .cut
    | 0x0a :: _ => .nothing 2
    | b :: rest =>
      let octal := ((b :: rest).take 3).takeWhile fun d => 0x30 ≤ d && d ≤ 0x37
      if !octal.isEmpty then
        .char (Char.ofNat (octal.foldl (fun n d => n * 8 + (d - 0x30)) 0)) (octal.length + 1)
      else
        match Char.ofNat b, letterEscape? b with
        | _, some c => .char c 2
        | 'x', none => readDigits 2 rest
        | 'u', none => readDigits 4 rest
        | 'U', none => readDigits 8 rest
        | 'N', none => readNamed rest
        | _, none => .char '\\' 1

/-- Reads a character of which only code points are written behind a backslash. -/
def readRawEscaped (a : Nat) (rest : List Nat) : Found :=
  if a ≠ 0x5c then .char (Char.ofNat a) 1
  else
    match rest with
    | 0x75 :: rest => readDigits 4 rest
    | 0x55 :: rest => readDigits 8 rest
    | _ => .char '\\' 1

/-- The value of a digit to the base 64. -/
def sixBits? (b : Nat) : Option Nat :=
  if 0x41 ≤ b ∧ b ≤ 0x5a then some (b - 0x41)
  else if 0x61 ≤ b ∧ b ≤ 0x7a then some (b - 0x61 + 26)
  else if 0x30 ≤ b ∧ b ≤ 0x39 then some (b - 0x30 + 52)
  else if b = 0x2b then some 62
  else if b = 0x2f then some 63
  else none

/-- Bits between a plus sign and what ends them. -/
structure Bits where
  count : Nat := 0
  value : Nat := 0
  /-- The first of two units that are one character. -/
  high : Option Nat := none

/-- Whether bits are left that do not just fill up a digit. -/
def Bits.isPartial (b : Bits) : Bool := 6 ≤ b.count || b.value != 0

/-- The bits with a digit more, and the characters that are complete with it. -/
def Bits.push (b : Bits) (digit : Nat) : Bits × List (Option Char) :=
  let count := b.count + 6
  let value := b.value * 64 + digit
  if count < 16 then ({ b with count, value }, [])
  else
    let scale := Nat.pow 2 (count - 16)
    let unit := value / scale
    let left : Bits := { count := count - 16, value := value % scale }
    match b.high with
    | some high =>
      if 0xdc00 ≤ unit ∧ unit < 0xe000 then
        (left, [some (Char.ofNat (0x10000 + (high - 0xd800) * 0x400 + (unit - 0xdc00)))])
      else if 0xd800 ≤ unit ∧ unit < 0xdc00 then ({ left with high := some unit }, [none])
      else (left, [none, some (Char.ofNat unit)])
    | none =>
      if 0xd800 ≤ unit ∧ unit < 0xdc00 then ({ left with high := some unit }, [])
      else (left, [Wide.charOf? unit])

/-- The character of a byte outside of bits. -/
def plainChar? (b : Nat) : Option Char := if b < 0x80 then some (Char.ofNat b) else none

/-- The characters of bytes, some of them written as bits, after bits already read. -/
def decodeBits (bits : Option Bits) (skip : Bool) : List Nat → List (Option Char)
  | [] =>
    match bits with
    | some b => if b.isPartial || b.high.isSome then [none] else []
    | none => []
  | a :: rest =>
    if skip then decodeBits bits false rest
    else
      match bits with
      | some b =>
        match sixBits? a with
        | some digit =>
          let (b, chars) := b.push digit
          chars ++ decodeBits (some b) false rest
        | none =>
          if b.isPartial then none :: decodeBits none false rest
          else
            (if b.high.isSome && a < 0x80 then [none] else [])
              ++ (if a = 0x2d then [] else [plainChar? a]) ++ decodeBits none false rest
      | none =>
        if a = 0x2b then
          match rest.head? with
          | some 0x2d => some '+' :: decodeBits none true rest
          | some b =>
            if (sixBits? b).isNone then none :: decodeBits none true rest
            else decodeBits (some {}) false rest
          | none => decodeBits (some {}) false rest
        else plainChar? a :: decodeBits none false rest

end QueryTools.Text
