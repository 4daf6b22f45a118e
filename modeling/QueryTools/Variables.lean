import QueryTools.Members

/-!
# Variables of a query

Clients give variables as an object, or as a text that spells one.  `Variables.ofJson` reads both;
null and the empty text stand for no variables.
-/

namespace QueryTools

/-- The values of a query's variables. -/
structure Variables where
  /-- The values in order, under the names with which they are sent. -/
  members : Members
  /-- How a log shows them, with names that are no texts as they were given. -/
  shown : String
  deriving Repr

namespace Variables

/-- The variables that the members of an object are. -/
def ofMembers (members : Members) : Variables := ⟨members, (Json.obj members).display⟩

/-- The variables that a value stands for, if any. -/
def ofJson (raw : Json) : Except Failure (Option Variables) := do
  match raw with
  | .null => return none
  | .str "" => return none
  | .str text =>
    match Json.read text with
    | .ok (.obj members) => return some (ofMembers members)
    | .ok _ => throw .variablesNotObject
    | .error error => throw (.variablesNotJson error)
  | .obj members => return some (ofMembers members)
  | _ => throw .variablesNotObject

/-- The variables that a value of any form stands for; only null stands for none. -/
def ofAny (raw : Json) : Except Failure (Option Variables) :=
  match raw with
  | .null => .ok none
  | raw => (Table.ofJson raw).map fun t => some ⟨t.shown, t.display⟩

end Variables

end QueryTools
