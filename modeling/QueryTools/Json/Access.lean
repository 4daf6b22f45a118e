import QueryTools.Json.Display

/-!
# Taking values apart

Access to the parts of a value whose form is not known beforehand, with the cause where the form
does not admit it.
-/

namespace QueryTools

/-- Why a part of a value cannot be had. -/
inductive AccessFault where
  /-- An object lacks a member. -/
  | missingKey (key : String)
  /-- Only objects have optional members. -/
  | noMembers (kind : String)
  /-- A list or a text is indexed by a name. -/
  | indexedByName (kind : String)
  | notSubscriptable (kind : String)
  | notIterable (kind : String)
  | noLength (kind : String)
  | unhashable (kind : String)
  /-- Texts are joined, and an item is none. -/
  | notText (index : Nat) (kind : String)
  /-- Pairs are read, and an item is no sequence. -/
  | notPair (index : Nat)
  deriving DecidableEq, Repr

/-- The wording of a cause. -/
def AccessFault.message : AccessFault → String
  | .missingKey key => Text.quoted key
  | .noMembers kind => s!"'{kind}' object has no attribute 'get'"
  | .indexedByName "list" => "list indices must be integers or slices, not str"
  | .indexedByName _ => "string indices must be integers, not 'str'"
  | .notSubscriptable kind => s!"'{kind}' object is not subscriptable"
  | .notIterable kind => s!"'{kind}' object is not iterable"
  | .noLength kind => s!"object of type '{kind}' has no len()"
  | .unhashable kind => s!"unhashable type: '{kind}'"
  | .notPair index => s!"cannot convert dictionary update sequence element #{index} to a sequence"
  | .notText index kind => s!"sequence item {index}: expected str instance, {kind} found"

namespace Json

/-- The word for the kind of a value. -/
def kind : Json → String
  | .null => "NoneType"
  | .bool _ => "bool"
  | .int _ => "int"
  | .float _ => "float"
  | .str _ => "str"
  | .arr _ => "list"
  | .obj _ => "dict"

/-- A member that an object has to have. -/
def member (key : String) : Json → Except AccessFault Json
  | .obj members =>
    match Keyed.get? key members with
    | some v => .ok v
    | none => .error (.missingKey key)
  | .arr _ => .error (.indexedByName "list")
  | .str _ => .error (.indexedByName "str")
  | v => .error (.notSubscriptable v.kind)

/-- A member that an object may lack; null stands for it then. -/
def optionalMember (key : String) : Json → Except AccessFault Json
  | .obj members => .ok ((Keyed.get? key members).getD .null)
  | v => .error (.noMembers v.kind)

/-- The values one meets going through a value: the items of a list, the characters of a text, the
names of an object's members. -/
def elements : Json → Except AccessFault (List Json)
  | .arr items => .ok items
  | .str s => .ok (s.toList.map fun c => .str (String.singleton c))
  | .obj members => .ok (members.map fun p => .str p.1)
  | v => .error (.notIterable v.kind)

/-- How many values one meets going through a value. -/
def count : Json → Except AccessFault Nat
  | .arr items => .ok items.length
  | .str s => .ok s.length
  | .obj members => .ok members.length
  | v => .error (.noLength v.kind)

/-- A value that can stand as a name in a table. -/
def hashable (v : Json) : Except AccessFault Json :=
  match v with
  | .arr _ | .obj _ => .error (.unhashable v.kind)
  | v => .ok v

/-- Texts joined; an item that is no text is a fault. -/
def joinFrom (index : Nat) : List Json → Except AccessFault (List String)
  | [] => .ok []
  | .str s :: rest => do return s :: (← joinFrom (index + 1) rest)
  | v :: _ => .error (.notText index v.kind)

/-- Texts joined with a separator between them. -/
def join (separator : String) (items : List Json) : Except AccessFault String := do
  return separator.intercalate (← joinFrom 0 items)

end Json

end QueryTools
