import QueryTools.Json.Basic
import QueryTools.Text.Quoted

/-!
# JSON text

JSON written as ASCII: every character beyond the printable ones of ASCII is escaped, those past
the basic plane as two units, and what holds one unit of a pair as that unit.  `Json.compact`
writes one line with a space after each comma and colon; `Json.indented` puts every member and item
on a line of its own, two spaces deeper than its parent.
-/

namespace QueryTools.Json

/-- A unit of sixteen bits as an escape. -/
def unitEscape (n : Nat) : List Char := '\\' :: 'u' :: Text.hexDigits 4 n

/-- A character inside a string of JSON text. -/
def escapeChar (c : Char) : List Char :=
  match c with
  | '"' => ['\\', '"']
  | '\\' => ['\\', '\\']
  | '\n' => ['\\', 'n']
  | '\r' => ['\\', 'r']
  | '\t' => ['\\', 't']
  | '\x08' => ['\\', 'b']
  | '\x0c' => ['\\', 'f']
  | c =>
    let n := c.toNat
    if 0x20 ≤ n ∧ n < 0x7f then [c]
    else if n < 0x10000 then unitEscape n
    else if let some unit := Text.half? c then unitEscape unit
    else
      let m := n - 0x10000
      unitEscape (0xd800 + m / 0x400) ++ unitEscape (0xdc00 + m % 0x400)

/-- A text as a JSON string. -/
def stringText (s : String) : String :=
  String.ofList ('"' :: s.toList.flatMap escapeChar ++ ['"'])

/-- A fraction as JSON text, with words for the values that are no numbers. -/
def floatText (x : Double) : String :=
  match x with
  | .nan => "NaN"
  | .infinity negative => if negative then "-Infinity" else "Infinity"
  | .finite .. => x.text

/-- The text of a value without items or members; other values are none of its business. -/
def scalarText : Json → String
  | .null => "null"
  | .bool true => "true"
  | .bool false => "false"
  | .int n => toString n
  | .float x => floatText x
  | .str s => stringText s
  | .arr _ => "[]"
  | .obj _ => "\x7b\x7d"

mutual

/-- A value on one line. -/
def compact : Json → String
  | .arr items => "[" ++ ", ".intercalate (compactItems items) ++ "]"
  | .obj members => "\x7b" ++ ", ".intercalate (compactMembers members) ++ "\x7d"
  | .null => scalarText .null
  | .bool b => scalarText (.bool b)
  | .int n => scalarText (.int n)
  | .float x => scalarText (.float x)
  | .str s => scalarText (.str s)

/-- The items of a list, each on one line. -/
def compactItems : List Json → List String
  | [] => []
  | v :: rest => compact v :: compactItems rest

/-- The members of an object, each on one line. -/
def compactMembers : List (String × Json) → List String
  | [] => []
  | (k, v) :: rest => (stringText k ++ ": " ++ compact v) :: compactMembers rest

end

/-- A line break and the indentation of a depth. -/
def lineBreak (depth : Nat) : String := "\n" ++ String.ofList (List.replicate (2 * depth) ' ')

mutual

/-- A value over several lines, its own parts one level deeper than `depth`. -/
def indentedAt (depth : Nat) : Json → String
  | .arr [] => "[]"
  | .arr (v :: rest) =>
    "[" ++ lineBreak (depth + 1)
      ++ ("," ++ lineBreak (depth + 1)).intercalate (indentedItems (depth + 1) (v :: rest))
      ++ lineBreak depth ++ "]"
  | .obj [] => "\x7b\x7d"
  | .obj (p :: rest) =>
    "\x7b" ++ lineBreak (depth + 1)
      ++ ("," ++ lineBreak (depth + 1)).intercalate (indentedMembers (depth + 1) (p :: rest))
      ++ lineBreak depth ++ "\x7d"
  | .null => scalarText .null
  | .bool b => scalarText (.bool b)
  | .int n => scalarText (.int n)
  | .float x => scalarText (.float x)
  | .str s => scalarText (.str s)

/-- The items of a list at a depth. -/
def indentedItems (depth : Nat) : List Json → List String
  | [] => []
  | v :: rest => indentedAt depth v :: indentedItems depth rest

/-- The members of an object at a depth. -/
def indentedMembers (depth : Nat) : List (String × Json) → List String
  | [] => []
  | (k, v) :: rest => (stringText k ++ ": " ++ indentedAt depth v) :: indentedMembers depth rest

end

/-- A value over several lines, two spaces deeper at every level. -/
def indented (v : Json) : String := indentedAt 0 v

end QueryTools.Json
