import QueryTools.Json.Basic
import QueryTools.Text.Quoted

/-!
# Values inside messages

How a JSON value is shown in a log line or an error message: `None`, `True` and `False`, texts
between quotes, lists in brackets and objects in braces with quoted names.  `Json.display` shows
the whole value; `Json.plain` leaves a bare text unquoted; `Json.abbreviated` shows a value of
any size in little room, as messages about malformed introspection results do.
-/

namespace QueryTools.Json

mutual

/-- The whole value. -/
def display : Json → String
  | .null => "None"
  | .bool true => "True"
  | .bool false => "False"
  | .int n => toString n
  | .float x => x.text
  | .str s => Text.quoted s
  | .arr items => "[" ++ ", ".intercalate (displayItems items) ++ "]"
  | .obj members => "\x7b" ++ ", ".intercalate (displayMembers members) ++ "\x7d"

/-- Each item of a list. -/
def displayItems : List Json → List String
  | [] => []
  | v :: rest => display v :: displayItems rest

/-- Each member of an object, its name quoted. -/
def displayMembers : List (String × Json) → List String
  | [] => []
  | (k, v) :: rest => (Text.quoted k ++ ": " ++ display v) :: displayMembers rest

end

/-- The whole value, but a bare text as it is. -/
def plain : Json → String
  | .str s => s
  | v => display v

/-- The most characters of a piece of abbreviated text. -/
def abbreviationLimit : Nat := 240

/-- A text cut in the middle when it is too long. -/
def abbreviateText (s : String) : String :=
  let cs := s.toList
  if cs.length ≤ abbreviationLimit then s
  else
    let room := abbreviationLimit - 3
    let front := room / 2
    let back := room - front
    String.ofList (cs.take front ++ ['.', '.', '.'] ++ cs.drop (cs.length - back))

/-- At most ten entries; of more, the first five and the last four around an ellipsis. -/
def abbreviateEntries (entries : List String) : List String :=
  if entries.length ≤ 10 then entries
  else entries.take 5 ++ "..." :: entries.drop (entries.length - 4)

mutual

/-- The value inside `depth` levels of others: from the third level on, what a list or an object
holds is left out. -/
def abbreviatedAt (depth : Nat) : Json → String
  | .arr [] => "[]"
  | .arr (v :: rest) =>
    if 2 < depth then "[...]"
    else "[" ++ ", ".intercalate (abbreviateEntries (abbreviatedItems depth (v :: rest))) ++ "]"
  | .obj [] => "\x7b\x7d"
  | .obj (p :: rest) =>
    if 2 < depth then "\x7b...\x7d"
    else
      "\x7b" ++ ", ".intercalate (abbreviateEntries (abbreviatedMembers depth (p :: rest))) ++ "\x7d"
  | .null => "None"
  | .bool true => "True"
  | .bool false => "False"
  | .int n => abbreviateText (toString n)
  | .float x => x.text
  | .str s => abbreviateText (Text.quoted s)

/-- Each item of a list one level deeper. -/
def abbreviatedItems (depth : Nat) : List Json → List String
  | [] => []
  | v :: rest => abbreviatedAt (depth + 1) v :: abbreviatedItems depth rest

/-- Each member of an object one level deeper. -/
def abbreviatedMembers (depth : Nat) : List (String × Json) → List String
  | [] => []
  | (k, v) :: rest =>
    (abbreviateText (Text.quoted k) ++ ": " ++ abbreviatedAt (depth + 1) v)
      :: abbreviatedMembers depth rest

end

/-- The value in little room. -/
def abbreviated (v : Json) : String := abbreviatedAt 1 v

end QueryTools.Json
