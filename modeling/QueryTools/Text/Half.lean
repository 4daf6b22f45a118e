/-!
# Halves of pairs

A character past the basic plane is written as two units of sixteen bits.  Such a unit on its own is
no character, and yet a text may spell one; it is held as a private character of the last plane,
`Text.half`, and written as the unit again.

By this convention the 2048 private characters from U+10D800 to U+10DFFF stand for halves of pairs
wherever the library reads or writes a text: no text of the library holds one of these characters as
itself, and what comes from outside with one in it is taken to spell the half.
-/

namespace QueryTools.Text

/-- The character that holds a unit of a pair. -/
def half (unit : Nat) : Char := Char.ofNat (0x100000 + unit)

/-- The unit of a pair that a character holds, if it holds one. -/
def half? (c : Char) : Option Nat :=
  if 0x10d800 ≤ c.toNat ∧ c.toNat < 0x10e000 then some (c.toNat - 0x100000) else none

/-- The number of the character that stands for a valid code point. -/
theorem toNat_charOfNat {n : Nat} (valid : n.isValidChar) : (Char.ofNat n).toNat = n := by
  rw [Char.ofNat, dif_pos valid]
  rfl

/-- A unit of a pair is given back by the character that holds it. -/
theorem half?_half {unit : Nat} (low : 0xd800 ≤ unit) (high : unit < 0xe000) :
    half? (half unit) = some unit := by
  have number : (half unit).toNat = 0x100000 + unit := toNat_charOfNat (Or.inr ⟨by omega, by omega⟩)
  have inside : 0x10d800 ≤ (half unit).toNat ∧ (half unit).toNat < 0x10e000 := by omega
  have back : (half unit).toNat - 0x100000 = unit := by omega
  rw [half?, if_pos inside, back]

end QueryTools.Text
