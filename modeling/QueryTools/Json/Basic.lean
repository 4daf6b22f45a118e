import QueryTools.Number.Shortest
import QueryTools.Keyed

/-!
# JSON values

The values of JSON as this library needs them: whole numbers and fractions are told apart, whole
numbers have any size, and the members of an object keep their order.
-/

namespace QueryTools

/-- A JSON value. -/
inductive Json where
  | null
  | bool (value : Bool)
  /-- A number written without a point or an exponent. -/
  | int (value : Int)
  /-- A number written with a point or an exponent. -/
  | float (value : Double)
  | str (value : String)
  | arr (items : List Json)
  | obj (members : List (String × Json))
  deriving Repr, Inhabited

namespace Json

/-- The member of an object under a name; nothing for other values. -/
def get? (name : String) : Json → Option Json
  | .obj members => Keyed.get? name members
  | _ => none

/-- Whether the value counts as present where only emptiness matters: all but null, `false`, zero
and what is empty. -/
def isTruthy : Json → Bool
  | .null => false
  | .bool b => b
  | .int n => n != 0
  | .float x => !x.isZero
  | .str s => s != ""
  | .arr items => !items.isEmpty
  | .obj members => !members.isEmpty

/-- Whether the value is null. -/
def isNull : Json → Bool
  | .null => true
  | _ => false

/-- The text of a string value. -/
def str? : Json → Option String
  | .str s => some s
  | _ => none

/-- The items of a list value. -/
def arr? : Json → Option (List Json)
  | .arr items => some items
  | _ => none

/-- The members of an object value. -/
def obj? : Json → Option (List (String × Json))
  | .obj members => some members
  | _ => none

/-- The truth value of a boolean. -/
def bool? : Json → Option Bool
  | .bool b => some b
  | _ => none

/-- The whole number of a value written as one. -/
def int? : Json → Option Int
  | .int n => some n
  | _ => none

/-- A list of texts. -/
def ofStrings (ss : List String) : Json := .arr (ss.map .str)

/-- A value that may be missing, as null. -/
def ofOption (f : α → Json) : Option α → Json
  | none => .null
  | some a => f a

end Json

end QueryTools
