import QueryTools.Json.Basic
import QueryTools.Text.Half

/-!
# Reading JSON text

`Json.read` turns a text into a value or says where and why it is none.  The text is first cut
into tokens (`Json.scan`), which needs no context; the tokens then drive a machine whose state
holds the lists and objects still open (`Json.State.step`).  Both run over their input by
structural recursion.  Beyond the standard, `NaN`, `Infinity` and `-Infinity` are numbers; whole
numbers may not be longer than `digitLimit`, nor lists and objects stand deeper in each other than
`nestingLimit`; of members with one name the last value counts, in the place of the first.
-/

namespace QueryTools.Json

/-- Why a text is not JSON. -/
inductive Fault where
  | expectingValue
  | expectingName
  | expectingColon
  | expectingComma
  | unterminatedString
  | badEscape
  | badUnicodeEscape
  | controlCharacter
  | extraData
  | byteOrderMark
  /-- A whole number is too long to be read. -/
  | tooManyDigits (count : Nat)
  /-- A list or an object, named by the word, stands too deep inside others. -/
  | tooDeep (word : String)
  deriving DecidableEq, Repr

/-- The most digits of a whole number that is read. -/
def digitLimit : Nat := 4300

/-- The most lists and objects that may stand in each other. -/
def nestingLimit : Nat := 985

/-- The wording of a fault. -/
def Fault.message : Fault → String
  | .expectingValue => "Expecting value"
  | .expectingName => "Expecting property name enclosed in double quotes"
  | .expectingColon => "Expecting ':' delimiter"
  | .expectingComma => "Expecting ',' delimiter"
  | .unterminatedString => "Unterminated string starting at"
  | .badEscape => "Invalid \\escape"
  | .badUnicodeEscape => "Invalid \\uXXXX escape"
  | .controlCharacter => "Invalid control character at"
  | .extraData => "Extra data"
  | .byteOrderMark => "Unexpected UTF-8 BOM (decode using utf-8-sig)"
  | .tooManyDigits count =>
    s!"Exceeds the limit ({digitLimit} digits) for integer string conversion: value has {count} "
      ++ "digits; use sys.set_int_max_str_digits() to increase the limit"
  | .tooDeep word =>
    s!"maximum recursion depth exceeded while decoding a JSON {word} from a unicode string"

/-- Whether the text does not have the form of JSON, and not only spells something too large. -/
def Fault.isForm : Fault → Bool
  | .tooManyDigits _ | .tooDeep _ => false
  | _ => true

/-- A fault at a place of the text: characters, lines and columns, the last two from one. -/
structure ReadError where
  fault : Fault
  position : Nat
  line : Nat
  column : Nat
  deriving DecidableEq, Repr

/-- Whether the text has the form of JSON as far as it was read, and only a number in it is too
long. -/
def ReadError.isOversized (e : ReadError) : Bool :=
  match e.fault with
  | .tooManyDigits _ => true
  | _ => false

/-- Whether the text nests lists and objects too deeply to be read on. -/
def ReadError.isTooDeep (e : ReadError) : Bool :=
  match e.fault with
  | .tooDeep _ => true
  | _ => false

/-- The wording of a fault, with its place where it is one of form. -/
def ReadError.message (e : ReadError) : String :=
  if e.fault.isForm then
    s!"{e.fault.message}: line {e.line} column {e.column} (char {e.position})"
  else e.fault.message

/-- A lexical unit of JSON text. -/
inductive Token where
  | listOpen
  | listClose
  | objectOpen
  | objectClose
  | comma
  | colon
  /-- A number, or one of the words. -/
  | scalar (value : Json)
  | text (value : String)
  /-- A string or a number that goes wrong at a position. -/
  | bad (fault : Fault) (position : Nat)
  /-- A character that begins no token. -/
  | unknown

/-- The value of a digit in base sixteen. -/
def hexValue? (c : Char) : Option Nat :=
  if '0' ≤ c ∧ c ≤ '9' then some (c.toNat - '0'.toNat)
  else if 'a' ≤ c ∧ c ≤ 'f' then some (c.toNat - 'a'.toNat + 10)
  else if 'A' ≤ c ∧ c ≤ 'F' then some (c.toNat - 'A'.toNat + 10)
  else none

/-- The value of digits in base sixteen. -/
def hexNumber? (cs : List Char) : Option Nat :=
  cs.foldl (fun acc c => do return 16 * (← acc) + (← hexValue? c)) (some 0)

/-- The character that a one-letter escape stands for. -/
def simpleEscape? : Char → Option Char
  | '"' => some '"'
  | '\\' => some '\\'
  | '/' => some '/'
  | 'b' => some '\x08'
  | 'f' => some '\x0c'
  | 'n' => some '\n'
  | 'r' => some '\r'
  | 't' => some '\t'
  | _ => none

/-- The character of a code point, which may be a surrogate. -/
def pointChar (n : Nat) : Char :=
  if 0xd800 ≤ n ∧ n < 0xe000 then Text.half n else Char.ofNat n

/-- Characters from code points in which a character past the basic plane may stand as two
surrogates; a surrogate on its own is held as `Text.half`. -/
def joinSurrogates : List Nat → List Char
  | [] => []
  | [n] => [pointChar n]
  | hi :: lo :: rest =>
    if 0xd800 ≤ hi ∧ hi < 0xdc00 ∧ 0xdc00 ≤ lo ∧ lo < 0xe000 then
      Char.ofNat (0x10000 + (hi - 0xd800) * 0x400 + (lo - 0xdc00)) :: joinSurrogates rest
    else pointChar hi :: joinSurrogates (lo :: rest)

/-- The code points of a string after its opening quote, and the position after the closing one.
`start` is the position of the opening quote, `position` that of the next character. -/
def readText (start position : Nat) (points : List Nat) : List Char → Except (Fault × Nat) (List Nat × Nat)
  | [] => .error (.unterminatedString, start)
  | '"' :: _ => .ok (points.reverse, position + 1)
  | '\\' :: 'u' :: a :: b :: c :: d :: next :: rest =>
    match hexNumber? [a, b, c, d] with
    | some n => readText start (position + 6) (n :: points) (next :: rest)
    | none => .error (.badUnicodeEscape, position + 1)
  | '\\' :: 'u' :: _ => .error (.badUnicodeEscape, position + 1)
  | '\\' :: c :: rest =>
    match simpleEscape? c with
    | some x => readText start (position + 2) (x.toNat :: points) rest
    | none => .error (.badEscape, position)
  | ['\\'] => .error (.unterminatedString, start)
  | c :: rest =>
    if c.toNat < 0x20 then .error (.controlCharacter, position)
    else readText start (position + 1) (c.toNat :: points) rest

/-- The number that digits in base ten stand for. -/
def decimalNumber (digits : List Char) : Nat :=
  digits.foldl (fun n c => 10 * n + (c.toNat - '0'.toNat)) 0

/-- The fraction after a point, if digits follow the point. -/
def readFraction? : List Char → Option (List Char)
  | '.' :: rest =>
    let digits := rest.takeWhile Char.isDigit
    if digits.isEmpty then none else some digits
  | _ => none

/-- The exponent after an `e`, if digits follow it, and how many characters it takes. -/
def readExponent? : List Char → Option (Int × Nat)
  | e :: rest =>
    if e = 'e' ∨ e = 'E' then
      let (negative, digits, signs) : Bool × List Char × Nat :=
        match rest with
        | '-' :: ds => (true, ds, 1)
        | '+' :: ds => (false, ds, 1)
        | ds => (false, ds, 0)
      let digits := digits.takeWhile Char.isDigit
      if digits.isEmpty then none
      else
        let n : Int := decimalNumber digits
        some (if negative then -n else n, 1 + signs + digits.length)
    else none
  | [] => none

/-- The whole number that digits spell. -/
def wholeNumber (negative : Bool) (digits : List Char) : Int :=
  let n : Int := decimalNumber digits
  if negative then -n else n

/-- The number at the front of a text that does not begin with a sign, and its length. -/
def readUnsigned? (negative : Bool) (cs : List Char) : Option (Except Fault Json × Nat) :=
  let whole := match cs with
    | '0' :: _ => ['0']
    | _ => cs.takeWhile Char.isDigit
  if whole.isEmpty then none
  else
    let rest := cs.drop whole.length
    let fraction := readFraction? rest
    let fractionDigits := fraction.getD []
    let fractionLength := if fraction.isSome then fractionDigits.length + 1 else 0
    match fraction, readExponent? (rest.drop fractionLength) with
    | none, none =>
      let count := whole.length
      if digitLimit < count then some (.error (.tooManyDigits count), count)
      else some (.ok (.int (wholeNumber negative whole)), count)
    | _, exponent =>
      let (e, exponentLength) := exponent.getD (0, 0)
      let digits := decimalNumber (whole ++ fractionDigits)
      some (.ok (.float (.ofDecimal negative digits (e - fractionDigits.length))),
        whole.length + fractionLength + exponentLength)

/-- The token that a number at a position is. -/
def Token.ofNumber (position : Nat) : Except Fault Json → Token
  | .ok v => .scalar v
  | .error fault => .bad fault position

/-- The token at the front of a text that does not begin with a blank, and its length. -/
def readToken (position : Nat) (cs : List Char) : Token × Nat :=
  match cs with
  | '[' :: _ => (.listOpen, 1)
  | ']' :: _ => (.listClose, 1)
  | '\x7b' :: _ => (.objectOpen, 1)
  | '\x7d' :: _ => (.objectClose, 1)
  | ',' :: _ => (.comma, 1)
  | ':' :: _ => (.colon, 1)
  | '"' :: rest =>
    match readText position (position + 1) [] rest with
    | .ok (points, past) => (.text (String.ofList (joinSurrogates points)), past - position)
    | .error (fault, at_) => (.bad fault at_, 1)
  | 'n' :: 'u' :: 'l' :: 'l' :: _ => (.scalar .null, 4)
  | 't' :: 'r' :: 'u' :: 'e' :: _ => (.scalar (.bool true), 4)
  | 'f' :: 'a' :: 'l' :: 's' :: 'e' :: _ => (.scalar (.bool false), 5)
  | 'N' :: 'a' :: 'N' :: _ => (.scalar (.float .nan), 3)
  | 'I' :: rest =>
    if "nfinity".toList.isPrefixOf rest then (.scalar (.float (.infinity false)), 8)
    else (.unknown, 1)
  | '-' :: rest =>
    if "Infinity".toList.isPrefixOf rest then (.scalar (.float (.infinity true)), 9)
    else
      match readUnsigned? true rest with
      | some (v, n) => (.ofNumber position v, n + 1)
      | none => (.unknown, 1)
  | cs =>
    match readUnsigned? false cs with
    | some (v, n) => (.ofNumber position v, n)
    | none => (.unknown, 1)

/-- Whether a character may stand between tokens. -/
def isSpace (c : Char) : Bool := c == ' ' || c == '\t' || c == '\n' || c == '\r'

/-- The tokens of a text with their positions, after skipping characters that belong to the token
before. -/
def scan (skip position : Nat) : List Char → List (Nat × Token)
  | [] => []
  | c :: rest =>
    match skip with
    | k + 1 => scan k (position + 1) rest
    | 0 =>
      if isSpace c then scan 0 (position + 1) rest
      else
        let (token, length) := readToken position (c :: rest)
        (position, token) :: scan (length - 1) (position + 1) rest

/-- A list or an object that is still open, with what it holds so far. -/
inductive Frame where
  /-- A list, its items last first. -/
  | items (done : List Json)
  /-- An object and the name of the member whose value comes next. -/
  | member (done : List (String × Json)) (name : String)

/-- Where the reader stands between two tokens. -/
inductive State where
  /-- A value has to come. -/
  | value (stack : List Frame)
  /-- A value, or the end of the list just opened. -/
  | listStart (stack : List Frame)
  /-- A name, or the end of the object just opened. -/
  | objectStart (stack : List Frame)
  /-- A name has to come. -/
  | nextName (done : List (String × Json)) (stack : List Frame)
  /-- The colon after a name has to come. -/
  | colon (done : List (String × Json)) (name : String) (stack : List Frame)
  /-- A comma or the end of the innermost list. -/
  | afterItem (done : List Json) (stack : List Frame)
  /-- A comma or the end of the innermost object. -/
  | afterMember (done : List (String × Json)) (stack : List Frame)
  /-- The value is complete. -/
  | finished (value : Json)

namespace State

/-- The fault of a token, or of the end of the text, that the state does not admit. -/
def expected : State → Fault
  | .value _ | .listStart _ => .expectingValue
  | .objectStart _ | .nextName _ _ => .expectingName
  | .colon _ _ _ => .expectingColon
  | .afterItem _ _ | .afterMember _ _ => .expectingComma
  | .finished _ => .extraData

/-- The state after a complete value inside the open lists and objects. -/
def complete (v : Json) : List Frame → State
  | [] => .finished v
  | .items done :: stack => .afterItem (v :: done) stack
  | .member done name :: stack => .afterMember (Keyed.put name v done) stack

/-- The state inside a list or an object that opens at a position, unless it is one too many. -/
def enter (position : Nat) (word : String) (inside : State) (stack : List Frame) :
    Except (Fault × Nat) State :=
  if stack.length < nestingLimit then .ok inside else .error (.tooDeep word, position)

/-- The state after a token where a value has to come. -/
def stepValue (position : Nat) (stack : List Frame) (refused : Except (Fault × Nat) State) :
    Token → Except (Fault × Nat) State
  | .scalar v => .ok (complete v stack)
  | .text s => .ok (complete (.str s) stack)
  | .listOpen => enter position "array" (.listStart stack) stack
  | .objectOpen => enter position "object" (.objectStart stack) stack
  | .bad fault position => .error (fault, position)
  | _ => refused

/-- The state after a token where a name has to come. -/
def stepName (done : List (String × Json)) (stack : List Frame)
    (refused : Except (Fault × Nat) State) : Token → Except (Fault × Nat) State
  | .text s => .ok (.colon done s stack)
  | .bad fault position => if fault.isForm then .error (fault, position) else refused
  | _ => refused

/-- The state after a token at a position. -/
def step (s : State) (position : Nat) (t : Token) : Except (Fault × Nat) State :=
  let refused := .error (s.expected, position)
  match s, t with
  | .listStart stack, .listClose => .ok (complete (.arr []) stack)
  | .listStart stack, t => stepValue position (.items [] :: stack) refused t
  | .value stack, t => stepValue position stack refused t
  | .objectStart stack, .objectClose => .ok (complete (.obj []) stack)
  | .objectStart stack, t => stepName [] stack refused t
  | .nextName done stack, t => stepName done stack refused t
  | .colon done name stack, .colon => .ok (.value (.member done name :: stack))
  | .afterItem done stack, .comma => .ok (.value (.items done :: stack))
  | .afterItem done stack, .listClose => .ok (complete (.arr done.reverse) stack)
  | .afterMember done stack, .comma => .ok (.nextName done stack)
  | .afterMember done stack, .objectClose => .ok (complete (.obj done) stack)
  | _, _ => refused

/-- The value that the tokens spell from a state on, in a text of the given length. -/
def run (length : Nat) (s : State) : List (Nat × Token) → Except (Fault × Nat) Json
  | [] =>
    match s with
    | .finished v => .ok v
    | s => .error (s.expected, length)
  | (position, t) :: rest =>
    match s.step position t with
    | .ok s => run length s rest
    | .error e => .error e

end State

/-- A fault with the line and column of its position. -/
def ReadError.locate (cs : List Char) (fault : Fault) (position : Nat) : ReadError :=
  let before := cs.take position
  { fault, position
    line := before.count '\n' + 1
    column := (before.reverse.takeWhile (· != '\n')).length + 1 }

/-- The value that a text spells. -/
def read (text : String) : Except ReadError Json :=
  let cs := text.toList
  match cs with
  | '\ufeff' :: _ => .error (.locate cs .byteOrderMark 0)
  | _ =>
    match State.run cs.length (.value []) (scan 0 0 cs) with
    | .ok v => .ok v
    | .error (fault, position) => .error (.locate cs fault position)

end QueryTools.Json
