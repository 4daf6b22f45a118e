import QueryTools.Shape.Basic
import QueryTools.Issue

/-!
# Checking arguments against shapes

`Shape.check` says whether a value has a shape.  Nothing is converted, except that a whole number
stands for a fraction: a text is no number and a truth value no whole number.  Null stands for an
optional field and nowhere else.  Members that the shape does not name are dropped.  Of a value
that has the shape two readings result: what was given, and the same with defaults for what was
not.
-/

namespace QueryTools

/-- A value that has its shape. -/
structure Accepted where
  /-- The parts that were given. -/
  given : Json
  /-- All parts, the missing ones with their defaults. -/
  full : Json
  deriving Repr

namespace Accepted

/-- A value without parts. -/
def whole (v : Json) : Accepted := ⟨v, v⟩

end Accepted

/-- The outcome of checking a value: every issue with it, or what it was accepted as. -/
abbrev Checked (α : Type) := Except (List Issue) α

namespace Checked

/-- A value with one issue. -/
def refuse (path : List PathStep) (cause : IssueCause) : Checked α := .error [⟨path, cause⟩]

/-- Two outcomes together: the issues of both. -/
def both : Checked α → Checked β → Checked (α × β)
  | .ok a, .ok b => .ok (a, b)
  | .ok _, .error es => .error es
  | .error es, .ok _ => .error es
  | .error es, .error fs => .error (es ++ fs)

/-- An outcome before those of a list: the issues of all. -/
def cons (x : Checked α) (xs : Checked (List α)) : Checked (List α) :=
  match both x xs with
  | .ok (a, as) => .ok (a :: as)
  | .error es => .error es

/-- Checks every item of a list at its own path. -/
def items (check : List PathStep → Json → Checked α) (path : List PathStep) (index : Nat) :
    List Json → Checked (List α)
  | [] => .ok []
  | v :: rest => cons (check (path ++ [.index index]) v) (items check path (index + 1) rest)

end Checked

/-- What became of one field of an object. -/
structure CheckedField where
  name : String
  /-- The value given, if one was. -/
  given : Option Json
  full : Json

namespace Shape

/-- A field for which no value was given. -/
def checkMissing (path : List PathStep) (f : Member Shape) : Checked CheckedField :=
  if f.required then Checked.refuse (path ++ [.name f.name]) .missing
  else .ok { name := f.name, given := none, full := f.shape.note.default.getD .null }

/-- The fields that were given; of several with one name the last counts. -/
def givenOf (fields : List CheckedField) : Keyed Json :=
  Keyed.ofPairs (fields.filterMap fun f => f.given.map fun v => (f.name, v))

/-- All fields; of several with one name the last counts. -/
def fullOf (fields : List CheckedField) : Keyed Json :=
  Keyed.ofPairs (fields.map fun f => (f.name, f.full))

/-- An object of checked fields. -/
def assemble (fields : List CheckedField) : Accepted := ⟨.obj (givenOf fields), .obj (fullOf fields)⟩

mutual

/-- Checks a value at a path.  `model` names the object around it. -/
def checkAt (model : String) (path : List PathStep) : Shape → Json → Checked Accepted
  | .any _, v => .ok (.whole v)
  | .string choices _, v =>
    if choices.isEmpty then
      match v with
      | .str _ => .ok (.whole v)
      | _ => Checked.refuse path .notString
    else
      match v with
      | .str s =>
        if choices.contains s then .ok (.whole v) else Checked.refuse path (.notChoice choices)
      | _ => Checked.refuse path (.notChoice choices)
  | .int _, v =>
    match v with
    | .int _ => .ok (.whole v)
    | _ => Checked.refuse path .notInt
  | .float _, v =>
    match v with
    | .float _ => .ok (.whole v)
    | .int n =>
      let x := Double.ofInt n
      if x.isFinite then .ok (.whole (.float x)) else Checked.refuse path .notFloat
    | _ => Checked.refuse path .notFloat
  | .boolean _, v =>
    match v with
    | .bool _ => .ok (.whole v)
    | _ => Checked.refuse path .notBool
  | .list items _, v =>
    match v with
    | .arr vs =>
      match Checked.items (fun path v => checkAt model path items v) path 0 vs with
      | .ok accepted => .ok ⟨.arr (accepted.map Accepted.given), .arr (accepted.map Accepted.full)⟩
      | .error es => .error es
    | _ => Checked.refuse path .notList
  | .object fields _, v =>
    match v with
    | .obj members =>
      match checkFields model path fields members with
      | .ok checked => .ok (assemble checked)
      | .error es => .error es
    | _ => Checked.refuse path (.notModel model)

/-- Checks the fields of an object against its members. -/
def checkFields (model : String) (path : List PathStep) :
    List (Member Shape) → List (String × Json) → Checked (List CheckedField)
  | [], _ => .ok []
  | ⟨name, required, shape⟩ :: rest, members =>
    let here : Checked CheckedField :=
      match Keyed.get? name members with
      | none => checkMissing path ⟨name, required, shape⟩
      | some v =>
        if !required && v.isNull then .ok { name, given := some .null, full := .null }
        else
          match checkAt (model ++ "__" ++ name) (path ++ [.name name]) shape v with
          | .ok a => .ok { name, given := some a.given, full := a.full }
          | .error es => .error es
    Checked.cons here (checkFields model path rest members)

end

end Shape

end QueryTools
