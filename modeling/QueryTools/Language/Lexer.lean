import QueryTools.Language.Token
import QueryTools.Text.BlockText

/-!
# Reading tokens

`Tokens.ofChars` cuts a document into tokens.  Blanks, commas, comments and byte order marks
stand between tokens and are skipped.  The text is walked once by structural recursion: at the
start of a token `readToken` says what it is and how long, and the characters it covers are then
passed over.
-/

namespace QueryTools.Lexer

/-- A token with its length, or a fault at a position. -/
abbrev Reading := Except (Nat × SyntaxFault) (Token × Nat)

/-- Whether a name may begin with a character. -/
def isNameStart (c : Char) : Bool := c.isAlpha || c == '_'

/-- Whether a name may go on with a character. -/
def isNameContinue (c : Char) : Bool := c.isAlphanum || c == '_'

/-- Whether a character may stand between tokens. -/
def isIgnored (c : Char) : Bool :=
  c == ' ' || c == '\t' || c == ',' || c == '\ufeff' || c == '\n' || c == '\r'

/-- How many digits follow, where one has to. -/
def readDigits (position : Nat) (cs : List Char) : Except (Nat × SyntaxFault) Nat :=
  match cs.takeWhile Char.isDigit with
  | [] => .error (position, .missingDigit cs.head?)
  | digits => .ok digits.length

/-- The length of an optional fraction. -/
def readFraction (position : Nat) : List Char → Except (Nat × SyntaxFault) Nat
  | '.' :: rest => do return 1 + (← readDigits (position + 1) rest)
  | _ => .ok 0

/-- The length of an optional exponent. -/
def readExponent (position : Nat) : List Char → Except (Nat × SyntaxFault) Nat
  | c :: rest =>
    if c = 'e' ∨ c = 'E' then
      match rest with
      | s :: digits =>
        if s = '+' ∨ s = '-' then do return 2 + (← readDigits (position + 2) digits)
        else do return 1 + (← readDigits (position + 1) rest)
      | [] => do return 1 + (← readDigits (position + 1) rest)
    else .ok 0
  | [] => .ok 0

/-- The length of the whole part of a number: a zero alone, or digits. -/
def readWhole (position : Nat) : List Char → Except (Nat × SyntaxFault) Nat
  | '0' :: rest =>
    match rest with
    | d :: _ => if d.isDigit then .error (position + 1, .digitAfterZero d) else .ok 1
    | [] => .ok 1
  | cs => readDigits position cs

/-- The number at the front of a text, after its sign if it has one. -/
def readNumber (position : Nat) (cs : List Char) : Reading := do
  let sign := if cs.head? = some '-' then 1 else 0
  let whole := sign + (← readWhole (position + sign) (cs.drop sign))
  let fraction ← readFraction (position + whole) (cs.drop whole)
  let exponent ← readExponent (position + whole + fraction) (cs.drop (whole + fraction))
  let length := whole + fraction + exponent
  match cs.drop length with
  | c :: _ =>
    if c = '.' ∨ isNameStart c then throw (position + length, .missingDigit (some c))
  | [] => pure ()
  let text := String.ofList (cs.take length)
  return (if fraction + exponent = 0 then .int text else .float text, length)

/-- The value of a digit in base sixteen. -/
def hexValue? (c : Char) : Option Nat :=
  if c.isDigit then some (c.toNat - '0'.toNat)
  else if 'a' ≤ c ∧ c ≤ 'f' then some (c.toNat - 'a'.toNat + 10)
  else if 'A' ≤ c ∧ c ≤ 'F' then some (c.toNat - 'A'.toNat + 10)
  else none

/-- The number of four digits in base sixteen. -/
def hexUnit? : List Char → Option Nat
  | [a, b, c, d] => do
    return (((← hexValue? a) * 16 + (← hexValue? b)) * 16 + (← hexValue? c)) * 16 + (← hexValue? d)
  | _ => none

/-- Whether a number is a code point that is no surrogate. -/
def isScalar (n : Nat) : Bool := n < 0xd800 || (0xe000 ≤ n && n ≤ 0x10ffff)

/-- The escape `\u` with braces: its character and length, or its text up to where it goes wrong.
`taken` is the number of characters read so far and `limit` the most that count. -/
def readBraced (point taken limit : Nat) : List Char → Except Nat (Char × Nat)
  | [] => .error taken
  | c :: rest =>
    if limit ≤ taken then .error taken
    else if c = '\x7d' then
      if 5 ≤ taken + 1 ∧ isScalar point then .ok (Char.ofNat point, taken + 1) else .error (taken + 1)
    else
      match hexValue? c with
      | some d => readBraced (point * 16 + d) (taken + 1) limit rest
      | none => .error (taken + 1)

/-- The escape at the front of a text (a backslash first): its character and length, or the fault. -/
def readEscape (cs : List Char) : Except SyntaxFault (Char × Nat) :=
  match cs.drop 1 with
  | 'u' :: '\x7b' :: rest =>
    match readBraced 0 3 (min 12 cs.length) rest with
    | .ok r => .ok r
    | .error n => .error (.badUnicodeEscape (String.ofList (cs.take n)))
  | 'u' :: rest =>
    let refused := .error (.badUnicodeEscape (String.ofList (cs.take 6)))
    match hexUnit? (rest.take 4) with
    | none => refused
    | some n =>
      if isScalar n then .ok (Char.ofNat n, 6)
      else
        match rest.drop 4 with
        | '\\' :: 'u' :: more =>
          match hexUnit? (more.take 4) with
          | some m =>
            if n < 0xdc00 ∧ 0xdc00 ≤ m ∧ m < 0xe000 then
              .ok (Char.ofNat (0x10000 + (n - 0xd800) * 0x400 + (m - 0xdc00)), 12)
            else refused
          | none => refused
        | _ => refused
  | c :: _ =>
    match c with
    | '"' => .ok ('"', 2)
    | '\\' => .ok ('\\', 2)
    | '/' => .ok ('/', 2)
    | 'b' => .ok ('\x08', 2)
    | 'f' => .ok ('\x0c', 2)
    | 'n' => .ok ('\n', 2)
    | 'r' => .ok ('\r', 2)
    | 't' => .ok ('\t', 2)
    | _ => .error (.badEscape (String.ofList (cs.take 2)))
  | [] => .error (.badEscape (String.ofList (cs.take 2)))

/-- The text of a string after its opening quote, and its length up to the closing one.  `skip`
characters belong to the escape before; `value` holds the text so far, last character first. -/
def readString (position taken : Nat) (value : List Char) (skip : Nat) :
    List Char → Except (Nat × SyntaxFault) (List Char × Nat)
  | [] => .error (position, .unterminatedString)
  | c :: rest =>
    match skip with
    | k + 1 => readString (position + 1) (taken + 1) value k rest
    | 0 =>
      if c = '"' then .ok (value.reverse, taken + 1)
      else if c = '\\' then
        match readEscape (c :: rest) with
        | .ok (x, n) => readString (position + 1) (taken + 1) (x :: value) (n - 1) rest
        | .error fault => .error (position, fault)
      else if c = '\n' ∨ c = '\r' then .error (position, .unterminatedString)
      else readString (position + 1) (taken + 1) (c :: value) 0 rest

/-- The raw text of block text after its opening quotes, and its length up to the closing ones. -/
def readBlock (position taken : Nat) (value : List Char) :
    List Char → Except (Nat × SyntaxFault) (List Char × Nat)
  | '"' :: '"' :: '"' :: _ => .ok (value.reverse, taken + 3)
  | '\\' :: '"' :: '"' :: '"' :: rest =>
    readBlock (position + 4) (taken + 4) ('"' :: '"' :: '"' :: value) rest
  | c :: rest => readBlock (position + 1) (taken + 1) (c :: value) rest
  | [] => .error (position, .unterminatedString)

/-- The mark that a character is, if it is one. -/
def mark? : Char → Option Token
  | '!' => some .bang
  | '$' => some .dollar
  | '&' => some .ampersand
  | '(' => some .parenOpen
  | ')' => some .parenClose
  | ':' => some .colon
  | '=' => some .equals
  | '@' => some .at
  | '[' => some .bracketOpen
  | ']' => some .bracketClose
  | '\x7b' => some .braceOpen
  | '|' => some .pipe
  | '\x7d' => some .braceClose
  | _ => none

/-- What dots at the front of a text are. -/
def readDots (position : Nat) (afterDot : List Char) : Reading :=
  match afterDot with
  | '.' :: '.' :: _ => .ok (.spread, 3)
  | '.' :: _ => .error (position, .twoDots)
  | rest =>
    match rest.takeWhile Char.isDigit with
    | [] => .error (position, .unexpectedCharacter '.')
    | digits => .error (position, .fractionWithoutWhole (String.ofList digits))

/-- The token at the front of a text that begins with `c`. -/
def readToken (position : Nat) (c : Char) (rest : List Char) : Reading :=
  match mark? c with
  | some t => .ok (t, 1)
  | none =>
    if isNameStart c then
      let name := c :: rest.takeWhile isNameContinue
      .ok (.name (String.ofList name), name.length)
    else if c = '.' then readDots position rest
    else if c = '"' then
      match rest with
      | '"' :: '"' :: body => do
        let (raw, length) ← readBlock (position + 3) 3 [] body
        let text := ['\n'].intercalate (Text.dedent (Text.lines raw))
        return (.blockString (String.ofList text), length)
      | body => do
        let (text, length) ← readString (position + 1) 1 [] 0 body
        return (.string (String.ofList text), length)
    else if c.isDigit ∨ c = '-' then readNumber position (c :: rest)
    else if c = '\'' then .error (position, .singleQuote)
    else .error (position, .unexpectedCharacter c)

/-- How the walk treats the next character. -/
inductive Mode where
  /-- A token may begin. -/
  | ready
  /-- That many characters belong to the token before. -/
  | inside (left : Nat)
  /-- The rest of the line is a comment. -/
  | comment

/-- The tokens of the rest of a text. -/
def scan (mode : Mode) (position : Nat) : List Char → Tokens
  | [] => .last position
  | c :: rest =>
    match mode with
    | .inside (k + 1) => scan (if k = 0 then .ready else .inside k) (position + 1) rest
    | .comment =>
      scan (if c = '\n' ∨ c = '\r' then .ready else .comment) (position + 1) rest
    | _ =>
      if isIgnored c then scan .ready (position + 1) rest
      else if c = '#' then scan .comment (position + 1) rest
      else
        match readToken position c rest with
        | .ok (t, n) =>
          .cons position t (scan (if n ≤ 1 then .ready else .inside (n - 1)) (position + 1) rest)
        | .error (position, fault) => .fault position fault

end QueryTools.Lexer

namespace QueryTools

/-- The tokens of a text. -/
def Tokens.ofChars (cs : List Char) : Tokens := Lexer.scan .ready 0 cs

end QueryTools
