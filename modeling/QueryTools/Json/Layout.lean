import QueryTools.Json.Display
import QueryTools.Text.Blank

/-!
# Values on several lines

How a long value is shown inside a message: as `Json.display` shows it where that fits on a line, and
else with each item of a list, each member of an object and each piece of a text on a line of its own,
behind as many spaces as stand for what it is part of.
-/

namespace QueryTools

namespace Text

/-- Whether a character ends a line of a text that is shown in pieces. -/
def endsLine (c : Char) : Bool :=
  (0xa ≤ c.toNat && c.toNat ≤ 0xd) || (0x1c ≤ c.toNat && c.toNat ≤ 0x1e) || c.toNat == 0x85
    || c.toNat == 0x2028 || c.toNat == 0x2029

/-- The lines of a text with what ends them; a text that ends with a line has no more. -/
def wholeLines : List Char → List (List Char)
  | [] => []
  | '\r' :: '\n' :: rest => ['\r', '\n'] :: wholeLines rest
  | c :: rest =>
    if endsLine c then [c] :: wholeLines rest
    else
      match wholeLines rest with
      | [] => [[c]]
      | line :: lines => (c :: line) :: lines

/-- The words of a line, each with the white space behind it. -/
def words : List Char → List (List Char)
  | [] => []
  | [c] => [[c]]
  | c :: d :: rest =>
    if isBlank c && !isBlank d then [c] :: words (d :: rest)
    else
      match words (d :: rest) with
      | [] => [[c]]
      | word :: more => (c :: word) :: more

/-- Words put together to pieces of at most `room` characters when quoted, the last of at most `lastRoom`;
`piece` is the one begun. -/
def pieces (room lastRoom : Nat) (piece : List Char) : List (List Char) → List (List Char)
  | [] => if piece.isEmpty then [] else [piece]
  | word :: rest =>
    let longer := piece ++ word
    if (if rest.isEmpty then lastRoom else room) < (quoteChars longer).length then
      (if piece.isEmpty then [] else [piece]) ++ pieces room lastRoom word rest
    else pieces room lastRoom longer rest

/-- The pieces of lines that each have so much room, the last line less. -/
def piecesOfLines (room lastRoom : Nat) : List (List Char) → List (List Char)
  | [] => []
  | line :: rest =>
    let here := if rest.isEmpty then lastRoom else room
    (if (quoteChars line).length ≤ here then [line] else pieces room here [] (words line))
      ++ piecesOfLines room lastRoom rest

end Text

namespace Json

/-- The most characters of a line. -/
def lineWidth : Nat := 72

/-- What stands between two entries that begin `indent` characters in. -/
def entryBreak (indent : Nat) : String := ",\n" ++ String.ofList (List.replicate indent ' ')

mutual

/-- A value that begins `indent` characters in, with `behind` characters after it on its last line. -/
def layOut (indent behind : Nat) (v : Json) : String :=
  let whole := v.display
  if whole.length + indent + behind ≤ lineWidth then whole
  else
    match v with
    | .arr items => "[" ++ layOutItems (indent + 1) (behind + 1) items ++ "]"
    | .obj members => "\x7b" ++ layOutMembers (indent + 1) (behind + 1) members ++ "\x7d"
    | .str "" => whole
    | .str s =>
      let room := lineWidth - indent
      let pieces := Text.piecesOfLines room (room - behind) (Text.wholeLines s.toList)
      ("\n" ++ String.ofList (List.replicate indent ' ')).intercalate
        (pieces.map fun piece => String.ofList (Text.quoteChars piece))
    | _ => whole

/-- The items of a list, each on a line of its own. -/
def layOutItems (indent behind : Nat) : List Json → String
  | [] => ""
  | [v] => layOut indent behind v
  | v :: rest => layOut indent 1 v ++ entryBreak indent ++ layOutItems indent behind rest

/-- The members of an object, each on a line of its own. -/
def layOutMembers (indent behind : Nat) : List (String × Json) → String
  | [] => ""
  | [(k, v)] =>
    let name := Text.quoted k
    name ++ ": " ++ layOut (indent + name.length + 2) behind v
  | (k, v) :: rest =>
    let name := Text.quoted k
    name ++ ": " ++ layOut (indent + name.length + 2) 1 v ++ entryBreak indent
      ++ layOutMembers indent behind rest

end

/-- A value on as many lines as it takes. -/
def laidOut (v : Json) : String := layOut 0 0 v

end Json

end QueryTools
