/-!
# Tokens and the faults of a document

The lexical units of the query language, the reasons why a text is not a document, and the stream
of tokens that a text gives: it ends either at the end of the text or at the first place where no
token can be read.
-/

namespace QueryTools

/-- A lexical unit of the query language. -/
inductive Token where
  | bang
  | dollar
  | ampersand
  | parenOpen
  | parenClose
  | spread
  | colon
  | equals
  | at
  | bracketOpen
  | bracketClose
  | braceOpen
  | pipe
  | braceClose
  | name (text : String)
  | int (text : String)
  | float (text : String)
  | string (text : String)
  | blockString (text : String)
  deriving DecidableEq, Repr

namespace Token

/-- How a message names a token: a mark between quotes, other kinds with their text. -/
def describe : Token → String
  | .bang => "'!'"
  | .dollar => "'$'"
  | .ampersand => "'&'"
  | .parenOpen => "'('"
  | .parenClose => "')'"
  | .spread => "'...'"
  | .colon => "':'"
  | .equals => "'='"
  | .at => "'@'"
  | .bracketOpen => "'['"
  | .bracketClose => "']'"
  | .braceOpen => "'\x7b'"
  | .pipe => "'|'"
  | .braceClose => "'\x7d'"
  | .name text => "Name '" ++ text ++ "'"
  | .int text => "Int '" ++ text ++ "'"
  | .float text => "Float '" ++ text ++ "'"
  | .string text => "String '" ++ text ++ "'"
  | .blockString text => "BlockString '" ++ text ++ "'"

/-- The text that a token carries; marks carry none. -/
def text? : Token → Option String
  | .name text | .int text | .float text | .string text | .blockString text => some text
  | _ => none

/-- How a message names a token or, where there is none, the end of the document. -/
def describe? : Option Token → String
  | some t => t.describe
  | none => "<EOF>"

end Token

/-- Why a text is not a document. -/
inductive SyntaxFault where
  /-- Another token, named by its description, has to stand here. -/
  | expected (what : String) (found : Option Token)
  | unexpected (found : Option Token)
  | variableInConstant (name : String)
  /-- The token carries the text of another literal. -/
  | reservedEnumValue (found : Token)
  | tooDeep
  | describedShorthand
  | misplacedDescription
  | unexpectedCharacter (c : Char)
  | singleQuote
  | twoDots
  /-- A fraction without digits before the point; its digits follow. -/
  | fractionWithoutWhole (digits : String)
  | digitAfterZero (c : Char)
  | missingDigit (found : Option Char)
  | unterminatedString
  | badEscape (text : String)
  | badUnicodeEscape (text : String)
  deriving DecidableEq, Repr

namespace SyntaxFault

/-- How a message names a character: as it is if it is printable ASCII, else by its number. -/
def describeChar (c : Char) : String :=
  let n := c.toNat
  if 0x20 ≤ n ∧ n ≤ 0x7e then
    if c = '"' then "'\"'" else "'" ++ String.singleton c ++ "'"
  else
    let digits := (Nat.toDigits 16 n).map Char.toUpper
    "U+" ++ String.ofList (List.replicate (4 - digits.length) '0' ++ digits)

/-- The wording of a fault. -/
def message : SyntaxFault → String
  | .expected what found => s!"Expected {what}, found {Token.describe? found}."
  | .unexpected found => s!"Unexpected {Token.describe? found}."
  | .variableInConstant name => s!"Unexpected variable '${name}' in constant value."
  | .reservedEnumValue found =>
    s!"{found.describe} is reserved and cannot be used for an enum value."
  | .tooDeep => "Document is nested too deeply. Parsing aborted."
  | .describedShorthand =>
    "Unexpected description, descriptions are not supported on shorthand queries."
  | .misplacedDescription => "Unexpected description, only GraphQL definitions support descriptions."
  | .unexpectedCharacter c => s!"Unexpected character: {describeChar c}."
  | .singleQuote =>
    "Unexpected single quote character ('), did you mean to use a double quote (\")?"
  | .twoDots => "Unexpected '..', did you mean '...'?"
  | .fractionWithoutWhole digits =>
    s!"Invalid number, expected digit before '.', did you mean '0.{digits}'?"
  | .digitAfterZero c => s!"Invalid number, unexpected digit after 0: {describeChar c}."
  | .missingDigit (some c) => s!"Invalid number, expected digit but got: {describeChar c}."
  | .missingDigit none => "Invalid number, expected digit but got: <EOF>."
  | .unterminatedString => "Unterminated string."
  | .badEscape text => s!"Invalid character escape sequence: '{text}'."
  | .badUnicodeEscape text => s!"Invalid Unicode escape sequence: '{text}'."

end SyntaxFault

/-- The tokens of a text with their positions, up to the end of the text or the first fault. -/
inductive Tokens where
  | last (position : Nat)
  | fault (position : Nat) (cause : SyntaxFault)
  | cons (position : Nat) (token : Token) (rest : Tokens)
  deriving Repr

namespace Tokens

/-- How many tokens there are. -/
def length : Tokens → Nat
  | .last _ => 0
  | .fault _ _ => 0
  | .cons _ _ rest => rest.length + 1

/-- The tokens alone, where the text has no fault. -/
def toList? : Tokens → Option (List Token)
  | .last _ => some []
  | .fault _ _ => none
  | .cons _ t rest => rest.toList?.map (t :: ·)

end Tokens

end QueryTools
