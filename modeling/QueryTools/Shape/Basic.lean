import QueryTools.Json.Basic

/-!
# Shapes of arguments

A `Shape` is a tree that says what values an argument takes.  `Shape.schema` is its projection to
a JSON Schema, which is what clients of a tool get to see.
-/

namespace QueryTools

/-- What a shape says beside the values it takes. -/
structure Note where
  /-- A text, or whatever else a server gives in its place. -/
  description : Option Json := none
  /-- The value that stands for a missing one. -/
  default : Option Json := none
  deriving Repr, Inhabited

/-- A named part of an object. -/
structure Member (α : Type) where
  name : String
  required : Bool
  shape : α
  deriving Repr, Inhabited

/-- What values an argument takes. -/
inductive Shape where
  /-- Texts; of those only the given ones, if any are given. -/
  | string (choices : List String) (note : Note)
  | int (note : Note)
  | float (note : Note)
  | boolean (note : Note)
  | any (note : Note)
  | list (items : Shape) (note : Note)
  | object (fields : List (Member Shape)) (note : Note)
  deriving Repr, Inhabited

namespace Shape

/-- What the shape says beside the values it takes. -/
def note : Shape → Note
  | .string _ note | .int note | .float note | .boolean note | .any note | .list _ note
  | .object _ note => note

/-- The shape with other notes. -/
def withNote (note : Note) : Shape → Shape
  | .string choices _ => .string choices note
  | .int _ => .int note
  | .float _ => .float note
  | .boolean _ => .boolean note
  | .any _ => .any note
  | .list items _ => .list items note
  | .object fields _ => .object fields note

/-- The members of a JSON Schema that notes give: a description that is not empty, and a default. -/
def noteMembers (note : Note) : List (String × Json) :=
  (match note.description with
    | some said => if said.isTruthy then [("description", said)] else []
    | none => [])
  ++ (match note.default with
    | some v => [("default", v)]
    | none => [])

/-- The names of the fields that have to be given. -/
def requiredNames (fields : List (Member Shape)) : List String :=
  (fields.filter Member.required).map Member.name

/-- The member of a JSON Schema that says which fields have to be given, if any have to. -/
def requiredMember (fields : List (Member Shape)) : List (String × Json) :=
  match requiredNames fields with
  | [] => []
  | names => [("required", Json.ofStrings names)]

mutual

/-- The shape as a JSON Schema. -/
def schema : Shape → Json
  | .string choices note =>
    .obj (("type", .str "string")
      :: (if choices.isEmpty then [] else [("enum", Json.ofStrings choices)]) ++ noteMembers note)
  | .int note => .obj (("type", .str "integer") :: noteMembers note)
  | .float note => .obj (("type", .str "number") :: noteMembers note)
  | .boolean note => .obj (("type", .str "boolean") :: noteMembers note)
  | .any note => .obj (noteMembers note)
  | .list items note =>
    .obj (("type", .str "array") :: ("items", schema items) :: noteMembers note)
  | .object fields note =>
    .obj (("type", .str "object") :: ("properties", .obj (Keyed.ofPairs (properties fields)))
      :: requiredMember fields ++ noteMembers note)

/-- The fields of an object as JSON Schemas under their names. -/
def properties : List (Member Shape) → List (String × Json)
  | [] => []
  | ⟨name, _, shape⟩ :: rest => (name, schema shape) :: properties rest

end

mutual

/-- The most lists that stand directly in each other anywhere in a shape that `row` of them stand around. -/
def longestRow (row : Nat) : Shape → Nat
  | .list items _ => longestRow (row + 1) items
  | .object fields _ => max row (longestRowIn fields)
  | _ => row

/-- The most lists that stand directly in each other anywhere in fields. -/
def longestRowIn : List (Member Shape) → Nat
  | [] => 0
  | ⟨_, _, shape⟩ :: rest => max (longestRow 0 shape) (longestRowIn rest)

end

/-- How many lists may stand directly in each other in fields before a stack of the usual size runs out where
the check for values of the fields is built.  The exact number turns on what else is on the stack. -/
def rowLimit : Nat := 180

/-- The first field of an object with a name. -/
def field? (name : String) (fields : List (Member Shape)) : Option (Member Shape) :=
  fields.find? fun f => f.name == name

end Shape

end QueryTools
