import QueryTools.Language.Document
import QueryTools.Text.BlockText

/-!
# Written constants

Values printed as documents write them.  Numbers and words keep their spelling, strings are
quoted with escapes or as block text, and lists and objects that would make a line longer than
`longestLine` characters are spread over several lines.
-/

namespace QueryTools

namespace Text

/-- A character inside a quoted string of a document. -/
def documentChar (c : Char) : List Char :=
  match c with
  | '"' => ['\\', '"']
  | '\\' => ['\\', '\\']
  | '\x08' => ['\\', 'b']
  | '\t' => ['\\', 't']
  | '\n' => ['\\', 'n']
  | '\x0c' => ['\\', 'f']
  | '\r' => ['\\', 'r']
  | c =>
    let n := c.toNat
    if n < 0x20 ∨ (0x7f ≤ n ∧ n ≤ 0x9f) then
      let digits := (Nat.toDigits 16 n).map Char.toUpper
      '\\' :: 'u' :: List.replicate (4 - digits.length) '0' ++ digits
    else [c]

/-- A text as a quoted string of a document. -/
def documentString (s : String) : String :=
  String.ofList ('"' :: s.toList.flatMap documentChar ++ ['"'])

/-- A text as block text of a document. -/
def documentBlock (s : String) : String := String.ofList (writeBlock s.toList)

/-- A text with every line but the first moved to the right. -/
def indentLines (indentation : String) (s : String) : String :=
  ("\n" ++ indentation).intercalate (split '\n' s)

end Text

namespace Literal

/-- The longest line of a list or an object. -/
def longestLine : Nat := 80

/-- Entries on a line of their own each, indented, between two marks. -/
def spread (opening closing : String) (entries : List String) : String :=
  let body := "\n".intercalate entries
  let inner := if body = "" then "" else "  " ++ Text.indentLines "  " body
  opening ++ "\n" ++ inner ++ "\n" ++ closing

/-- A list of printed items. -/
def listText (items : List String) : String :=
  let line := "[" ++ ", ".intercalate items ++ "]"
  if longestLine < line.length then spread "[" "]" items else line

/-- An object of printed fields. -/
def objectText (fields : List String) : String :=
  let line := "\x7b " ++ ", ".intercalate fields ++ " \x7d"
  if longestLine < line.length then spread "\x7b" "\x7d" fields else line

mutual

/-- The value as documents write it. -/
def text : Literal → String
  | .variable name => "$" ++ name
  | .int text => text
  | .float text => text
  | .string text block => if block then Text.documentBlock text else Text.documentString text
  | .boolean true => "true"
  | .boolean false => "false"
  | .null => "null"
  | .enum name => name
  | .list items => listText (itemTexts items)
  | .object fields => objectText (fieldTexts fields)

/-- Each item of a list. -/
def itemTexts : List Literal → List String
  | [] => []
  | v :: rest => text v :: itemTexts rest

/-- Each field of an object. -/
def fieldTexts : List (String × Literal) → List String
  | [] => []
  | (k, v) :: rest => (k ++ ": " ++ text v) :: fieldTexts rest

end

end Literal

end QueryTools
