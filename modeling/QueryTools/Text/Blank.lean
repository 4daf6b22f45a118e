/-!
# Blank characters and trimming

The characters that count as white space at the ends of a setting or a header, and the text
without them.
-/

namespace QueryTools.Text

/-- Whether a character is white space: the space, the controls that move the position, and the
separators of Unicode. -/
def isBlank (c : Char) : Bool :=
  let n := c.toNat
  (0x9 ≤ n && n ≤ 0xd) || (0x1c ≤ n && n ≤ 0x20) || n == 0x85 || n == 0xa0 || n == 0x1680
    || (0x2000 ≤ n && n ≤ 0x200a) || n == 0x2028 || n == 0x2029 || n == 0x202f || n == 0x205f
    || n == 0x3000

/-- Whether a character is white space where the separators among the controls are not. -/
def isSpace (c : Char) : Bool := isBlank c && !(0x1c ≤ c.toNat && c.toNat ≤ 0x1f)

/-- The characters without those at either end that `p` holds of. -/
def trimBy (p : Char → Bool) (cs : List Char) : List Char :=
  ((cs.dropWhile p).reverse.dropWhile p).reverse

/-- The text without white space at either end. -/
def trim (s : String) : String := String.ofList (trimBy isBlank s.toList)

/-- The text with the letters `A` to `Z` made small.  It is used on names and words that can only
match plain ASCII. -/
def lower (s : String) : String := String.ofList (s.toList.map Char.toLower)

/-- The text before and after the first occurrence of a character. -/
def splitAt? (c : Char) (s : String) : Option (String × String) :=
  match s.toList.span (· != c) with
  | (_, []) => none
  | (before, _ :: after) => some (String.ofList before, String.ofList after)

/-- The texts between the occurrences of a character; always at least one. -/
def splitChars (c : Char) : List Char → List (List Char)
  | [] => [[]]
  | x :: rest =>
    if x = c then [] :: splitChars c rest
    else
      match splitChars c rest with
      | [] => [[x]]
      | piece :: pieces => (x :: piece) :: pieces

/-- The texts between the occurrences of a character. -/
def split (c : Char) (s : String) : List String := (splitChars c s.toList).map String.ofList

end QueryTools.Text
