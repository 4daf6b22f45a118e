import QueryTools.Schema.Basic
import QueryTools.Json.Reader

/-!
# Constants as values of a type

`Schema.coerce` gives the value that a written constant stands for where a type is expected, or
nothing where it does not fit: a constant that is no list stands for a list of itself, whole
numbers have 32 bits, fractions are finite, names stand for enum values, and a custom scalar takes
anything.
`Schema.declaredDefault` is the default that counts: one that does not fit is none.
-/

namespace QueryTools

/-- The number that a numeral spells, whole or not as it is written; a whole number that is too long
to be read is undefined. -/
def Literal.numberOf (text : String) : Json :=
  let read := match text.toList with
    | '-' :: rest => Json.readUnsigned? true rest
    | cs => Json.readUnsigned? false cs
  match read with
  | some (.ok v, _) => v
  | some (.error _, _) => .float .nan
  | none => .int 0

mutual

/-- The value of a constant where anything is admitted: names stand for their text. -/
def Literal.untyped : Literal → Json
  | .variable _ => .null
  | .int text => Literal.numberOf text
  | .float text => Literal.numberOf text
  | .string text _ => .str text
  | .boolean b => .bool b
  | .null => .null
  | .enum name => .str name
  | .list items => .arr (Literal.untypedItems items)
  | .object fields => .obj (Keyed.ofPairs (Literal.untypedFields fields))

/-- The value of each item of a list. -/
def Literal.untypedItems : List Literal → List Json
  | [] => []
  | v :: rest => v.untyped :: Literal.untypedItems rest

/-- The value of each field of an object. -/
def Literal.untypedFields : List (String × Literal) → List (String × Json)
  | [] => []
  | (k, v) :: rest => (k, v.untyped) :: Literal.untypedFields rest

end

namespace TypeRef

/-- The type of the items, if the reference is to a list. -/
def item? : TypeRef → Option TypeRef
  | .named _ => none
  | .list item => some item
  | .nonNull type => type.item?

/-- A value inside as many lists as the reference has. -/
def wrap (v : Json) : TypeRef → Json
  | .named _ => v
  | .list item => .arr [item.wrap v]
  | .nonNull type => type.wrap v

end TypeRef

namespace Schema

/-- Whether a whole number fits 32 bits with a sign. -/
def fitsInt (n : Int) : Bool := -2147483648 ≤ n && n ≤ 2147483647

/-- The whole number that a value is, also where it is written as a fraction. -/
def wholeNumber? : Json → Option Int
  | .int n => some n
  | .float x => x.toInt?
  | _ => none

/-- A value as a scalar.  Of the scalars that every schema has each takes the values it can
represent; others take anything. -/
def coerceScalar (name : String) (v : Json) : Option Json :=
  match name with
  | "Int" => (wholeNumber? v).bind fun n => if fitsInt n then some (.int n) else none
  | "Float" =>
    let number := match v with
      | .int n => Double.ofInt n
      | .float x => x
      | _ => .nan
    if number.isFinite then some (.float number) else none
  | "String" => v.str?.map .str
  | "Boolean" => v.bool?.map .bool
  | "ID" =>
    match v with
    | .str text => some (.str text)
    | v => (wholeNumber? v).map fun n => .str (toString n)
  | _ => some v

/-- The value of a constant that is neither null nor an object, as a value of a named type. -/
def coerceLeaf (s : Schema) (name : String) (v : Literal) : Option Json :=
  match s.find? name with
  | some t =>
    match t.form with
    | .scalar _ => coerceScalar name v.untyped
    | .enum values _ =>
      match v with
      | .enum name => if values.any fun x => x.name == name then some (.str name) else none
      | _ => none
    | _ => none
  | none => none

/-- The fields of an input object from the values given for them, in the order of the type: each
given value must fit and belong to a field, and a field that excludes null must be given. -/
def assemble (fields : List InputValue) (given : Keyed (Option Json)) : Option (List (String × Json)) :=
  if given.any fun p => !fields.any fun f => f.name == p.1 then none
  else
    fields.foldr (fun f rest => do
      let rest ← rest
      match Keyed.get? f.name given with
      | some v => return (f.name, ← v) :: rest
      | none => if f.type.isNonNull then none else return rest) (some [])

/-- Whether the fields of an input object of which exactly one must be given obey that rule. -/
def oneGiven (fields : List (String × Json)) : Bool :=
  match fields with
  | [(_, v)] => !v.isNull
  | _ => false

mutual

/-- The value of a constant where a type is expected, if it fits. -/
def coerce (s : Schema) (type : TypeRef) : Literal → Option Json
  | .null => if type.isNonNull then none else some .null
  | .list items =>
    match type.item? with
    | some item => (coerceItems s item items).map .arr
    | none => s.coerceLeaf type.name (.list items)
  | .object given =>
    match s.find? type.name with
    | some { form := .input fields oneOf, .. } => do
      let values ← assemble fields (Keyed.ofPairs (coerceFields s fields given))
      if oneOf && !oneGiven values then none else some (type.wrap (.obj values))
    | _ => (s.coerceLeaf type.name (.object given)).map fun v => type.wrap v
  | v => (s.coerceLeaf type.name v).map fun v => type.wrap v

/-- The values of the items of a list. -/
def coerceItems (s : Schema) (item : TypeRef) : List Literal → Option (List Json)
  | [] => some []
  | v :: rest => do return (← coerce s item v) :: (← coerceItems s item rest)

/-- The values given for fields, each where the field's type is expected. -/
def coerceFields (s : Schema) (fields : List InputValue) :
    List (String × Literal) → List (String × Option Json)
  | [] => []
  | (k, v) :: rest =>
    let value := (fields.find? fun f => f.name == k).bind fun f => coerce s f.type v
    (k, value) :: coerceFields s fields rest

end

/-- The default that counts for an argument or an input field. -/
def declaredDefault (s : Schema) (v : InputValue) : Option Json :=
  v.default.bind fun literal => s.coerce v.type literal

end Schema

/-- The ways in which a definition can carry a default. -/
structure DefaultSource where
  /-- A value that is known outright. -/
  plain : Option Json
  value : Option Json
  literal : Option Literal

/-- The default that counts for a definition of a type: an outright value before a constant, a
constant before a value, and of a constant the value that it stands for. -/
def DefaultSource.declared (d : DefaultSource) (s : Schema) (type : TypeRef) : Option Json :=
  match d.plain, d.literal with
  | some v, _ => some v
  | none, some literal => s.coerce type literal
  | none, none => d.value

end QueryTools
