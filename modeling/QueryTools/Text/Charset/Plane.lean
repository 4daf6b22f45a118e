import QueryTools.Text.CodeTable

/-!
# Planes

Character sets with more characters than a byte can tell apart arrange them in rows and write a
character as two bytes.  A plane is written as text: one line a row, with a dot where the plane is
empty.  `Found` is what the bytes at some place stand for; `Found.decode` goes through bytes with a
reader of single characters and never fails.
-/

namespace QueryTools.Text

/-- Characters by row and column. -/
structure Plane where
  rows : Array (Array Char)

namespace Plane

/-- Lines, after the part of a line already read, its last character first. -/
def linesFrom (line : List Char) : List Char → List (Array Char)
  | [] => [line.reverse.toArray]
  | c :: rest =>
    if c == '\n' then line.reverse.toArray :: linesFrom [] rest else linesFrom (c :: line) rest

/-- The plane that lines spell. -/
def ofText (text : String) : Plane := ⟨(linesFrom [] text.toList).toArray⟩

/-- The character at a place, both counted from zero. -/
def get? (p : Plane) (row column : Nat) : Option Char :=
  ((p.rows[row]?).bind fun r => r[column]?).filter (· != '.')

/-- All characters, row by row. -/
def chars (p : Plane) : List Char :=
  (p.rows.toList.flatMap Array.toList).filter (· != '.')

end Plane

/-- What the bytes at some place stand for. -/
inductive Found where
  | char (c : Char) (length : Nat)
  | two (c d : Char) (length : Nat)
  /-- So many bytes that say something of what follows. -/
  | nothing (length : Nat)
  /-- So many bytes that stand for nothing. -/
  | bad (length : Nat)
  /-- The beginning of something that does not end before the bytes do. -/
  | cut
  deriving Repr

namespace Found

/-- A character of a given length, or a byte that stands for nothing. -/
def ofOption (length : Nat) : Option Char → Found
  | some c => .char c length
  | none => .bad 1

/-- The characters of bytes, nothing in the place of what stands for none, after bytes that belong
to the character before. -/
def decodeFrom (read : Nat → List Nat → Found) (skip : Nat) : List Nat → List (Option Char)
  | [] => []
  | a :: rest =>
    match skip with
    | k + 1 => decodeFrom read k rest
    | 0 =>
      match read a rest with
      | .char c n => some c :: decodeFrom read (n - 1) rest
      | .two c d n => some c :: some d :: decodeFrom read (n - 1) rest
      | .nothing n => decodeFrom read (n - 1) rest
      | .bad n => none :: decodeFrom read (n - 1) rest
      | .cut => [none]

/-- The characters of bytes. -/
def decode (read : Nat → List Nat → Found) (bytes : List Nat) : List (Option Char) :=
  decodeFrom read 0 bytes

/-- Reads a character of ASCII, or one of two bytes. -/
def pair (ofPair : Nat → Nat → Option Char) (a : Nat) : List Nat → Found
  | [] => if a < 0x80 then .char (Char.ofNat a) 1 else .cut
  | b :: _ => if a < 0x80 then .char (Char.ofNat a) 1 else ofOption 2 (ofPair a b)

end Found

end QueryTools.Text
