import QueryTools.Text.Blank
import QueryTools.Text.Charset.Bytes
import QueryTools.Text.Charset.Escapes
import QueryTools.Text.Charset.Switching
import QueryTools.Text.Charset.Traditional
import QueryTools.Text.Encoding
import QueryTools.Text.Steps

/-!
# Character sets

The character sets that a response can name for its body.  A set has a name and other names, which
may be written with any signs between letters and digits.  `Charset.decode` puts nothing in the place
of what cannot be read; it fails only where the set does not let bytes be read so at all.
-/

namespace QueryTools

/-- Why bytes cannot be read in a character set. -/
inductive CharsetFault where
  /-- Units of so many bits need a byte order mark. -/
  | unmarked (bits : Nat)
  /-- The set refuses what cannot be read instead of passing over it. -/
  | strict
  | undefined
  /-- The name is one of a code for bytes. -/
  | bytesCode
  /-- The name is one of a code for letters. -/
  | lettersCode
  /-- A byte beyond ASCII where only ASCII can stand. -/
  | beyondAscii (byte position : Nat)
  deriving DecidableEq, Repr

/-- The wording of a fault. -/
def CharsetFault.message : CharsetFault → String
  | .unmarked bits => s!"UTF-{bits} stream does not start with BOM"
  | .strict => "Unsupported error handling replace"
  | .undefined => "undefined encoding"
  | .bytesCode => ""
  | .lettersCode => "descriptor 'translate' for 'str' objects doesn't apply to a 'bytes' object"
  | .beyondAscii byte position =>
    let hex := String.ofList (Nat.toDigits 16 byte)
    s!"'ascii' codec can't decode byte 0x{hex} in position {position}: ordinal not in range(128)"

/-- A character set whose characters take one byte or more. -/
inductive PairSet where
  | simplified
  | ideographs
  | every
  | traditional
  | traditionalMore
  | hongKong
  | markedKanji
  | markedLevels (edition : Text.Edition)
  | shiftedKanji
  | shiftedLevels (edition : Text.Edition)
  | rareKanji
  | spelledHangul
  | everySyllable
  | bitSyllables
  deriving DecidableEq, Repr

/-- The reader of a character set. -/
def PairSet.read : PairSet → Nat → List Nat → Text.Found
  | .simplified => .pair Text.simplified?
  | .ideographs => .pair Text.ideograph?
  | .every => Text.readEvery
  | .traditional => .pair Text.traditional?
  | .traditionalMore => .pair Text.traditionalMore?
  | .hongKong => Text.readHongKong
  | .markedKanji => Text.readMarkedKanji
  | .markedLevels edition => Text.readMarkedLevels edition
  | .shiftedKanji => Text.readShiftedKanji
  | .shiftedLevels edition => Text.readShiftedLevels edition
  | .rareKanji => Text.readRareKanji
  | .spelledHangul => Text.readSpelledHangul
  | .everySyllable => .pair Text.everySyllable?
  | .bitSyllables => .pair Text.bits?

/-- A character set. -/
inductive Charset where
  | utf8
  /-- UTF-8 whose byte order mark is no part of the text. -/
  | utf8Marked
  /-- Units of sixteen bits; without an order the byte order mark decides. -/
  | utf16 (order : Option ByteOrder)
  | utf32 (order : Option ByteOrder)
  | bits
  | bytes (set : Text.ByteSet)
  | pairs (set : PairSet)
  | switching (set : Text.Switching)
  | tilde
  | escaped
  | rawEscaped
  | steps
  /-- A name by which nothing can be read. -/
  | unusable (fault : CharsetFault)

namespace Charset

/-- The escapes of Japanese text. -/
def japanese (more : List Text.CodedSet) : Charset :=
  .switching ⟨[.roman, .kanji, .oldKanji] ++ more, false⟩

/-- The escapes of Japanese text with kanji of all levels. -/
def japaneseLevels (edition : Text.Edition) : Charset :=
  .switching ⟨[.kanji, .firstLevels edition, .laterLevels], false⟩

/-- The character sets of more than bytes with their names, the first of which is their own. -/
def named : List (Charset × String) := [
  (.utf8, "utf_8 cp65001 u8 utf utf8 utf8_ucs2 utf8_ucs4"),
  (.utf8Marked, "utf_8_sig"),
  (.utf16 none, "utf_16 u16 utf16"),
  (.utf16 (some .big), "utf_16_be unicodebigunmarked utf_16be"),
  (.utf16 (some .little), "utf_16_le unicodelittleunmarked utf_16le"),
  (.utf32 none, "utf_32 u32 utf32"),
  (.utf32 (some .big), "utf_32_be utf_32be"),
  (.utf32 (some .little), "utf_32_le utf_32le"),
  (.bits, "utf_7 u7 unicode_1_1_utf_7 utf7"),
  (.pairs .simplified, "gb2312 chinese csiso58gb231280 euc_cn euccn eucgb2312_cn gb2312_1980 gb2312_80
    iso_ir_58 x_mac_simp_chinese"),
  (.pairs .ideographs, "gbk 936 cp936 ms936"),
  (.pairs .every, "gb18030 gb18030_2000"),
  (.tilde, "hz hz_gb hz_gb_2312 hzgb"),
  (.pairs .traditional, "big5 big5_tw csbig5 x_mac_trad_chinese"),
  (.pairs .hongKong, "big5hkscs big5_hkscs hkscs"),
  (.pairs .traditionalMore, "cp950 950 ms950"),
  (.pairs .markedKanji, "euc_jp eucjp u_jis ujis"),
  (.pairs (.markedLevels .second), "euc_jis_2004 euc_jis2004 eucjis2004 jisx0213"),
  (.pairs (.markedLevels .first), "euc_jisx0213 eucjisx0213"),
  (.pairs .shiftedKanji, "shift_jis csshiftjis s_jis shiftjis sjis x_mac_japanese"),
  (.pairs (.shiftedLevels .second), "shift_jis_2004 s_jis_2004 shiftjis2004 sjis_2004"),
  (.pairs (.shiftedLevels .first), "shift_jisx0213 s_jisx0213 shiftjisx0213 sjisx0213"),
  (.pairs .rareKanji, "cp932 932 ms932 ms_kanji mskanji"),
  (japanese [], "iso2022_jp csiso2022jp iso2022jp iso_2022_jp"),
  (japanese [.moreKanji], "iso2022_jp_1 iso2022jp_1 iso_2022_jp_1"),
  (japanese [.moreKanji, .hangul, .simplified], "iso2022_jp_2 iso2022jp_2 iso_2022_jp_2"),
  (japaneseLevels .second, "iso2022_jp_2004 iso2022jp_2004 iso_2022_jp_2004"),
  (japaneseLevels .first, "iso2022_jp_3 iso2022jp_3 iso_2022_jp_3"),
  (japanese [.moreKanji, .halfKana], "iso2022_jp_ext iso2022jp_ext iso_2022_jp_ext"),
  (.pairs .spelledHangul, "euc_kr euckr korean ks_c_5601 ks_c_5601_1987 ks_x_1001 ksc5601 ksx1001
    x_mac_korean"),
  (.pairs .everySyllable, "cp949 949 ms949 uhc"),
  (.pairs .bitSyllables, "johab cp1361 ms1361"),
  (.switching ⟨[.hangul], true⟩, "iso2022_kr csiso2022kr iso2022kr iso_2022_kr"),
  (.escaped, "unicode_escape"),
  (.rawEscaped, "raw_unicode_escape"),
  (.steps, "punycode"),
  (.unusable .strict, "idna"),
  (.unusable .undefined, "undefined"),
  (.unusable .bytesCode, "base64_codec base64 base_64"),
  (.unusable .bytesCode, "bz2_codec bz2"),
  (.unusable .bytesCode, "hex_codec hex"),
  (.unusable .bytesCode, "quopri_codec quopri quoted_printable quotedprintable"),
  (.unusable .bytesCode, "uu_codec uu"),
  (.unusable .bytesCode, "zlib_codec zip zlib"),
  (.unusable .lettersCode, "rot_13 rot13")]

/-- All character sets with their names. -/
def all : List (Charset × List String) :=
  named.map (fun (set, names) => (set, (Text.CodeTable.words names).map String.ofList))
    ++ Text.byteSets.map fun set => (.bytes set, set.names)

/-- Letters, digits and points, with one sign for the signs between two of these; `gap` says whether
there are any before. -/
def plainFrom (gap hasBegun : Bool) : List Char → List Char
  | [] => []
  | c :: rest =>
    if c.isAlphanum || c == '.' then
      (if gap && hasBegun then ['_'] else []) ++ c :: plainFrom false true rest
    else plainFrom true hasBegun rest

/-- A name as character sets are known by. -/
def plainName (name : String) : String :=
  String.ofList (plainFrom false false (Text.lower name).toList)

/-- The character set of a name, if it is known; in names other than its own a point can stand for
any sign. -/
def ofName? (name : String) : Option Charset :=
  let plain := plainName name
  let signs := String.ofList (plain.toList.map fun c => if c == '.' then '_' else c)
  (all.find? fun (_, names) => names.contains plain || (names.drop 1).contains signs).map Prod.fst

/-- The characters of bytes in which at least one is, nothing in the place of what cannot be
read. -/
def decode (set : Charset) (bytes : List UInt8) : Except CharsetFault (List (Option Char)) :=
  let numbers := bytes.map UInt8.toNat
  match set with
  | .utf8 => .ok ((Utf8.decodeLossyFrom 0 bytes).map some)
  | .utf8Marked =>
    .ok <| match bytes with
      | 0xef :: 0xbb :: 0xbf :: rest => (Utf8.decodeLossyFrom 0 rest).map some
      | [0xef, 0xbb] | [0xef] => []
      | bytes => (Utf8.decodeLossyFrom 0 bytes).map some
  | .utf16 (some order) => .ok (Wide.decode16 Wide.charOf? (Wide.units16 order bytes))
  | .utf16 none =>
    match Wide.marked16? bytes with
    | some (order, rest) => .ok (Wide.decode16 Wide.charOf? (Wide.units16 order rest))
    | none => if bytes.length < 2 then .ok [none] else .error (.unmarked 16)
  | .utf32 (some order) => .ok (Wide.decode32 Wide.charOf? (Wide.units32 order bytes))
  | .utf32 none =>
    match Wide.marked32? bytes with
    | some (order, rest) => .ok (Wide.decode32 Wide.charOf? (Wide.units32 order rest))
    | none => if bytes.length < 4 then .ok [none] else .error (.unmarked 32)
  | .bits => .ok (Text.decodeBits none false numbers)
  | .bytes set => .ok (numbers.map set.char?)
  | .pairs set => .ok (Text.Found.decode set.read numbers)
  | .switching set => .ok (set.decode numbers)
  | .tilde => .ok (Text.decodeTilde false 0 numbers)
  | .escaped => .ok (Text.Found.decode Text.readEscaped numbers)
  | .rawEscaped => .ok (Text.Found.decode Text.readRawEscaped numbers)
  | .steps =>
    match Steps.readPartly numbers with
    | .ok chars => .ok (chars.map some)
    | .error (byte, position) => .error (.beyondAscii byte position)
  | .unusable fault => .error fault

/-- The text of bytes, with replacements for what cannot be read; no bytes are the empty text. -/
def decodeLossy (set : Charset) (bytes : List UInt8) : Except CharsetFault String :=
  if bytes.isEmpty then .ok ""
  else (decode set bytes).map fun chars => String.ofList (chars.map fun c => c.getD replacement)

end Charset

end QueryTools
