import QueryTools.Proofs.Outcome
import QueryTools.Text.Encoding
import QueryTools.Text.Half

/-!
# Which bytes are texts

Bytes are UTF-8 where they are the bytes of some characters, and then of these only.  `Utf8.decode` is
exact: it gives the characters of just these bytes, and refuses all others.

`Utf8.Spelled` lists the four forms in which a code point is written.  They are what is read at the front
of bytes (`Utf8.readChar_of_spelled`, `Utf8.exists_spelled_of_readChar`), and they are the bytes of
characters (`Utf8.Spelled.encode`, `Utf8.spelled_encode`).

Main statement: `Utf8.decode_eq_ok_iff`.
-/

namespace QueryTools.Utf8

/-! ## How code points are written -/

/-- How a code point is written, by the number of bytes.  The lower bounds keep to the shortest form, and
`fitsSecond` keeps to code points of characters. -/
inductive Spelled : Nat → List UInt8 → Prop
  | one {a : UInt8} : a < 0x80 → Spelled a.toNat [a]
  | two {a b : UInt8} : ¬ a < 0xc2 → a < 0xe0 → isTail b = true →
    Spelled (a.toNat % 0x20 * 0x40 + tailBits b) [a, b]
  | three {a b c : UInt8} : ¬ a < 0xe0 → a < 0xf0 → fitsSecond a b = true → isTail c = true →
    Spelled ((a.toNat % 0x10 * 0x40 + tailBits b) * 0x40 + tailBits c) [a, b, c]
  | four {a b c d : UInt8} : ¬ a < 0xf0 → a < 0xf5 → fitsSecond a b = true → isTail c = true →
    isTail d = true →
    Spelled (((a.toNat % 0x08 * 0x40 + tailBits b) * 0x40 + tailBits c) * 0x40 + tailBits d) [a, b, c, d]

theorem not_lt_of_le {a x y : UInt8} (high : ¬ a < y) (below : x ≤ y) : ¬ a < x :=
  fun low => high (UInt8.lt_of_lt_of_le low below)

/-- What is written at the front of bytes is read there. -/
theorem readChar_of_spelled {n : Nat} {a : UInt8} {tail : List UInt8} (spelled : Spelled n (a :: tail))
    (rest : List UInt8) : readChar a (tail ++ rest) = .ok (Char.ofNat n, tail.length + 1) := by
  cases spelled with
  | one low => simp [readChar, low]
  | two high low second =>
      have pastOne := not_lt_of_le high (x := 0x80) (by decide)
      simp [readChar, pastOne, high, low, second]
  | three high low second third =>
      have pastOne := not_lt_of_le high (x := 0x80) (by decide)
      have pastBad := not_lt_of_le high (x := 0xc2) (by decide)
      simp [readChar, pastOne, pastBad, high, low, second, third]
  | four high low second third fourth =>
      have pastOne := not_lt_of_le high (x := 0x80) (by decide)
      have pastBad := not_lt_of_le high (x := 0xc2) (by decide)
      have pastTwo := not_lt_of_le high (x := 0xe0) (by decide)
      simp [readChar, pastOne, pastBad, pastTwo, high, low, second, third, fourth]

/-- What is read at the front of bytes is written there. -/
theorem exists_spelled_of_readChar {a : UInt8} {rest : List UInt8} {c : Char} {length : Nat}
    (reads : readChar a rest = .ok (c, length)) :
    ∃ n tail later, Spelled n (a :: tail) ∧ c = Char.ofNat n ∧ length = tail.length + 1 ∧
      rest = tail ++ later := by
  unfold readChar at reads
  by_cases one : a < 0x80
  · rw [if_pos one] at reads
    cases reads
    exact ⟨_, [], rest, .one one, rfl, rfl, rfl⟩
  rw [if_neg one] at reads
  by_cases bad : a < 0xc2
  · rw [if_pos bad] at reads
    cases reads
  rw [if_neg bad] at reads
  by_cases two : a < 0xe0
  · rw [if_pos two] at reads
    cases rest with
    | nil => cases reads
    | cons b rest =>
        by_cases second : isTail b = true
        · simp only [second, if_true] at reads
          cases reads
          exact ⟨_, [b], rest, .two bad two second, rfl, rfl, rfl⟩
        · simp only [second] at reads
          cases reads
  rw [if_neg two] at reads
  by_cases three : a < 0xf0
  · rw [if_pos three] at reads
    cases rest with
    | nil => cases reads
    | cons b rest =>
        by_cases second : fitsSecond a b = true
        · cases rest with
          | nil => simp [second] at reads
          | cons c' rest =>
              by_cases third : isTail c' = true
              · simp only [second, third, Bool.not_true, Bool.false_eq_true, if_true, if_false] at reads
                cases reads
                exact ⟨_, [b, c'], rest, .three two three second third, rfl, rfl, rfl⟩
              · simp [second, third] at reads
        · simp [second] at reads
  rw [if_neg three] at reads
  by_cases four : a < 0xf5
  · rw [if_pos four] at reads
    cases rest with
    | nil => cases reads
    | cons b rest =>
        by_cases second : fitsSecond a b = true
        · cases rest with
          | nil => simp [second] at reads
          | cons c' rest =>
              by_cases third : isTail c' = true
              · cases rest with
                | nil => simp [second, third] at reads
                | cons d rest =>
                    by_cases fourth : isTail d = true
                    · simp only [second, third, fourth, Bool.not_true, Bool.false_eq_true, if_true,
                        if_false] at reads
                      cases reads
                      exact ⟨_, [b, c', d], rest, .four three four second third fourth, rfl, rfl, rfl⟩
                    · simp [second, third, fourth] at reads
              · simp [second, third] at reads
        · simp [second] at reads
  · rw [if_neg four] at reads
    cases reads

/-! ## Characters -/

/-- Bytes that go on are those from 80 to bf. -/
theorem isTail_iff {b : UInt8} : isTail b = true ↔ 0x80 ≤ b.toNat ∧ b.toNat ≤ 0xbf := by
  simp [isTail, UInt8.le_iff_toNat_le]

/-- What fits as a second byte, in numbers. -/
theorem fitsSecond_iff {a b : UInt8} :
    fitsSecond a b = true ↔ (0x80 ≤ b.toNat ∧ b.toNat ≤ 0xbf) ∧ (a.toNat = 0xe0 → 0xa0 ≤ b.toNat) ∧
      (a.toNat = 0xed → b.toNat < 0xa0) ∧ (a.toNat = 0xf0 → 0x90 ≤ b.toNat) ∧
      (a.toNat = 0xf4 → b.toNat < 0x90) := by
  simp [fitsSecond, isTail_iff, UInt8.le_iff_toNat_le, UInt8.lt_iff_toNat_lt, ← UInt8.toNat_inj, and_assoc]
  intros
  omega

/-- A character is encoded in one byte to four, by its number. -/
theorem utf8EncodeChar_ofNat {n : Nat} (valid : n.isValidChar) :
    String.utf8EncodeChar (Char.ofNat n) =
      if n ≤ 127 then [UInt8.ofNat n]
      else if n ≤ 2047 then [UInt8.ofNat (n / 64 % 32 + 192), UInt8.ofNat (n % 64 + 128)]
      else if n ≤ 65535 then
        [UInt8.ofNat (n / 4096 % 16 + 224), UInt8.ofNat (n / 64 % 64 + 128), UInt8.ofNat (n % 64 + 128)]
      else
        [UInt8.ofNat (n / 262144 % 8 + 240), UInt8.ofNat (n / 4096 % 64 + 128),
          UInt8.ofNat (n / 64 % 64 + 128), UInt8.ofNat (n % 64 + 128)] := by
  have same : (Char.ofNat n).val.toNat = n := Text.toNat_charOfNat valid
  unfold String.utf8EncodeChar
  simp only [same]

/-- A byte is told by its number. -/
theorem ofNat_eq {n : Nat} {b : UInt8} (same : n = b.toNat) : UInt8.ofNat n = b := by
  rw [same, UInt8.ofNat_toNat]

/-- What is written is a character with these bytes. -/
theorem Spelled.encode {n : Nat} {bytes : List UInt8} (spelled : Spelled n bytes) :
    n.isValidChar ∧ String.utf8EncodeChar (Char.ofNat n) = bytes := by
  cases spelled with
  | @one a low =>
      rw [UInt8.lt_iff_toNat_lt] at low
      have low : a.toNat < 128 := low
      have valid : a.toNat.isValidChar := .inl (by omega)
      refine ⟨valid, ?_⟩
      rw [utf8EncodeChar_ofNat valid, if_pos (by omega), UInt8.ofNat_toNat]
  | @two a b high low second =>
      rw [UInt8.lt_iff_toNat_lt] at high low
      have high : ¬ a.toNat < 194 := high
      have low : a.toNat < 224 := low
      obtain ⟨least, most⟩ := isTail_iff.1 second
      unfold tailBits
      have valid : (a.toNat % 32 * 64 + b.toNat % 64).isValidChar := .inl (by omega)
      refine ⟨valid, ?_⟩
      rw [utf8EncodeChar_ofNat valid, if_neg (by omega), if_pos (by omega)]
      congr 1
      · exact ofNat_eq (by omega)
      · congr 1
        exact ofNat_eq (by omega)
  | @three a b c high low second third =>
      rw [UInt8.lt_iff_toNat_lt] at high low
      have high : ¬ a.toNat < 224 := high
      have low : a.toNat < 240 := low
      obtain ⟨⟨least, most⟩, shortest, noSurrogate, -, -⟩ := fitsSecond_iff.1 second
      obtain ⟨least', most'⟩ := isTail_iff.1 third
      unfold tailBits
      have valid : ((a.toNat % 16 * 64 + b.toNat % 64) * 64 + c.toNat % 64).isValidChar := by
        unfold Nat.isValidChar
        omega
      refine ⟨valid, ?_⟩
      rw [utf8EncodeChar_ofNat valid, if_neg (by omega), if_neg (by omega), if_pos (by omega)]
      congr 1
      · exact ofNat_eq (by omega)
      congr 1
      · exact ofNat_eq (by omega)
      congr 1
      exact ofNat_eq (by omega)
  | @four a b c d high low second third fourth =>
      rw [UInt8.lt_iff_toNat_lt] at high low
      have high : ¬ a.toNat < 240 := high
      have low : a.toNat < 245 := low
      obtain ⟨⟨least, most⟩, -, -, shortest, last⟩ := fitsSecond_iff.1 second
      obtain ⟨least', most'⟩ := isTail_iff.1 third
      obtain ⟨least'', most''⟩ := isTail_iff.1 fourth
      unfold tailBits
      have valid :
          (((a.toNat % 8 * 64 + b.toNat % 64) * 64 + c.toNat % 64) * 64 + d.toNat % 64).isValidChar := by
        unfold Nat.isValidChar
        omega
      refine ⟨valid, ?_⟩
      rw [utf8EncodeChar_ofNat valid, if_neg (by omega), if_neg (by omega), if_neg (by omega)]
      congr 1
      · exact ofNat_eq (by omega)
      congr 1
      · exact ofNat_eq (by omega)
      congr 1
      · exact ofNat_eq (by omega)
      congr 1
      exact ofNat_eq (by omega)

/-! ### The bytes of a character -/

theorem Spelled.of_eq {n m : Nat} {bytes : List UInt8} (spelled : Spelled m bytes) (same : m = n) :
    Spelled n bytes := same ▸ spelled

theorem byte_lt {n : Nat} {b : UInt8} (small : n < 256) : UInt8.ofNat n < b ↔ n < b.toNat := by
  rw [UInt8.lt_iff_toNat_lt, UInt8.toNat_ofNat_of_lt' small]

theorem toNat_tail (n : Nat) : (UInt8.ofNat (n % 64 + 128)).toNat = n % 64 + 128 := by
  have small : n % 64 + 128 < 256 := by omega
  exact UInt8.toNat_ofNat_of_lt' small

theorem isTail_tail (n : Nat) : isTail (UInt8.ofNat (n % 64 + 128)) = true := by
  rw [isTail_iff, toNat_tail]
  omega

theorem tailBits_tail (n : Nat) : tailBits (UInt8.ofNat (n % 64 + 128)) = n % 64 := by
  rw [tailBits, toNat_tail]
  omega

/-- The bytes of a character are how its code point is written. -/
theorem spelled_encode (c : Char) : Spelled c.toNat (String.utf8EncodeChar c) := by
  have valid : c.toNat < 0xd800 ∨ 0xdfff < c.toNat ∧ c.toNat < 0x110000 := c.valid
  unfold String.utf8EncodeChar
  rw [Char.toNat_val]
  generalize c.toNat = n at valid
  by_cases one : n ≤ 127
  · have small : n < 256 := by omega
    have low : UInt8.ofNat n < 0x80 := (byte_lt small).2 (Nat.lt_succ_of_le one)
    simp only [one, if_true]
    exact (Spelled.one low).of_eq (UInt8.toNat_ofNat_of_lt' small)
  by_cases two : n ≤ 2047
  · have small : n / 64 % 32 + 192 < 256 := by omega
    have high : ¬ UInt8.ofNat (n / 64 % 32 + 192) < 0xc2 := by
      rw [byte_lt small]
      show ¬ n / 64 % 32 + 192 < 194
      omega
    have low : UInt8.ofNat (n / 64 % 32 + 192) < 0xe0 := by
      rw [byte_lt small]
      show n / 64 % 32 + 192 < 224
      omega
    simp only [one, two, if_true, if_false]
    refine (Spelled.two high low (isTail_tail n)).of_eq ?_
    rw [UInt8.toNat_ofNat_of_lt' small, tailBits_tail]
    omega
  by_cases three : n ≤ 65535
  · have small : n / 4096 % 16 + 224 < 256 := by omega
    have high : ¬ UInt8.ofNat (n / 4096 % 16 + 224) < 0xe0 := by
      rw [byte_lt small]
      show ¬ n / 4096 % 16 + 224 < 224
      omega
    have low : UInt8.ofNat (n / 4096 % 16 + 224) < 0xf0 := by
      rw [byte_lt small]
      show n / 4096 % 16 + 224 < 240
      omega
    have second : fitsSecond (UInt8.ofNat (n / 4096 % 16 + 224)) (UInt8.ofNat (n / 64 % 64 + 128)) =
        true := by
      rw [fitsSecond_iff, UInt8.toNat_ofNat_of_lt' small, toNat_tail]
      omega
    simp only [one, two, three, if_true, if_false]
    refine (Spelled.three high low second (isTail_tail n)).of_eq ?_
    rw [UInt8.toNat_ofNat_of_lt' small, tailBits_tail, tailBits_tail]
    omega
  · have small : n / 262144 % 8 + 240 < 256 := by omega
    have high : ¬ UInt8.ofNat (n / 262144 % 8 + 240) < 0xf0 := by
      rw [byte_lt small]
      show ¬ n / 262144 % 8 + 240 < 240
      omega
    have low : UInt8.ofNat (n / 262144 % 8 + 240) < 0xf5 := by
      rw [byte_lt small]
      show n / 262144 % 8 + 240 < 245
      omega
    have second : fitsSecond (UInt8.ofNat (n / 262144 % 8 + 240)) (UInt8.ofNat (n / 4096 % 64 + 128)) =
        true := by
      rw [fitsSecond_iff, UInt8.toNat_ofNat_of_lt' small, toNat_tail]
      omega
    simp only [one, two, three, if_false]
    refine (Spelled.four high low second (isTail_tail _) (isTail_tail n)).of_eq ?_
    rw [UInt8.toNat_ofNat_of_lt' small, tailBits_tail, tailBits_tail, tailBits_tail]
    omega

/-! ## Texts -/

/-- The bytes of characters. -/
def bytes (cs : List Char) : List UInt8 := cs.flatMap String.utf8EncodeChar

/-- Bytes that were read are skipped. -/
theorem decodeFrom_skip (before rest : List UInt8) (position : Nat) :
    decodeFrom before.length position (before ++ rest) =
      decodeFrom 0 (position + before.length) rest := by
  induction before generalizing position with
  | nil => rfl
  | cons a before ih =>
      rw [List.length_cons, List.cons_append, decodeFrom, ih]
      congr 1
      omega

/-- What is read of bytes that begin with a character is the character and what is read of the rest. -/
theorem decodeFrom_of_spelled {n : Nat} {front : List UInt8} (spelled : Spelled n front)
    (rest : List UInt8) (position : Nat) :
    decodeFrom 0 position (front ++ rest) =
      (decodeFrom 0 (position + front.length) rest).map fun cs => Char.ofNat n :: cs := by
  obtain ⟨a, tail, rfl⟩ : ∃ a tail, front = a :: tail := by cases spelled <;> exact ⟨_, _, rfl⟩
  rw [List.cons_append, decodeFrom, readChar_of_spelled spelled]
  show (do return Char.ofNat n :: (← decodeFrom tail.length (position + 1) (tail ++ rest))) = _
  rw [decodeFrom_skip]
  have same : position + 1 + tail.length = position + (a :: tail).length := by
    rw [List.length_cons]
    omega
  rw [same]
  cases decodeFrom 0 (position + (a :: tail).length) rest <;> rfl

/-- The bytes of a text are decoded as the text. -/
theorem decodeFrom_bytes (cs : List Char) (position : Nat) :
    decodeFrom 0 position (bytes cs) = .ok cs := by
  induction cs generalizing position with
  | nil => rfl
  | cons c cs ih =>
      show decodeFrom 0 position (String.utf8EncodeChar c ++ bytes cs) = _
      rw [decodeFrom_of_spelled (spelled_encode c), ih, Char.ofNat_toNat]
      rfl

/-- Bytes that are decoded are those of the text. -/
theorem bytes_of_decodeFrom {input : List UInt8} {cs : List Char} {position : Nat}
    (decoded : decodeFrom 0 position input = .ok cs) : input = bytes cs := by
  induction counted : input.length using Nat.strongRecOn generalizing input cs position with
  | ind size ih =>
      cases input with
      | nil =>
          cases decoded
          rfl
      | cons a rest =>
          cases reads : readChar a rest with
          | error fault =>
              rw [decodeFrom, reads] at decoded
              cases decoded
          | ok read =>
              obtain ⟨c, length⟩ := read
              obtain ⟨n, tail, later, spelled, rfl, -, rfl⟩ := exists_spelled_of_readChar reads
              rw [← List.cons_append, decodeFrom_of_spelled spelled] at decoded
              obtain ⟨cs, decodedLater, rfl⟩ := Outcome.map_eq_ok.1 decoded
              have shorter : later.length < size := by
                rw [← counted, List.length_cons, List.length_append]
                omega
              have same := ih later.length shorter decodedLater rfl
              show (a :: tail) ++ later = String.utf8EncodeChar (Char.ofNat n) ++ bytes cs
              rw [spelled.encode.2, same]

/-- **Decoding is exact.** -/
theorem decode_eq_ok_iff {input : List UInt8} {cs : List Char} :
    decode input = .ok cs ↔ input = bytes cs := by
  constructor
  · exact bytes_of_decodeFrom
  · rintro rfl
    exact decodeFrom_bytes cs 0

/-- The bytes of a text's characters are those of the text. -/
theorem bytes_toList (text : String) : bytes text.toList = text.toUTF8.data.toList := by
  have same : text.toUTF8 = (bytes text.toList).toByteArray := by
    have encoded := String.toByteArray_ofList (l := text.toList)
    rwa [String.ofList_toList] at encoded
  rw [same, List.data_toByteArray]

end QueryTools.Utf8
