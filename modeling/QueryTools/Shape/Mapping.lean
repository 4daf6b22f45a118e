import QueryTools.Failure
import QueryTools.Shape.Basic
import QueryTools.Operation

/-!
# Shapes of input types

`Shape.ofType` maps a type of a schema to the shape of its values.  Input objects can mention
themselves, so the mapping has a budget: each input object entered spends one unit, wrappers are
free, and where nothing is left the shape admits any value.
-/

namespace QueryTools

/-- The budget for the arguments of an operation. -/
def Shape.defaultDepth : Nat := 3

namespace Shape

/-- The notes of a declared description and default; an empty description says nothing. -/
def noteOf (description : Option Json) (default : Option Json) : Note :=
  { description := description.filter Json.isTruthy, default }

/-- The shape with a description and a default added; without either it stays as it is. -/
def annotate (description : Option Json) (default : Option Json) (shape : Shape) : Shape :=
  shape.withNote (noteOf description default)

/-- The shape of a reference, given the shapes of named types. -/
def ofWrapped (inner : String → Shape) : TypeRef → Shape
  | .named name => inner name
  | .list item => .list (ofWrapped inner item) {}
  | .nonNull type => ofWrapped inner type

/-- The shape of a scalar's values; custom scalars are given as texts. -/
def ofScalar : String → Shape
  | "Int" => .int {}
  | "Float" => .float {}
  | "Boolean" => .boolean {}
  | _ => .string [] {}

/-- The shape of a named type's values where `depth` input objects may still be entered. -/
def ofNamed (s : Schema) : Nat → String → Shape
  | 0, _ => .any {}
  | depth + 1, name =>
    match s.find? name with
    | none => .any {}
    | some t =>
      match t.form with
      | .scalar _ => ofScalar t.name
      | .enum values _ => .string (values.map EnumValue.name) {}
      | .input fields _ =>
        .object (fields.map fun f =>
          let default := s.declaredDefault f
          let shape := if depth = 0 then .any {} else ofWrapped (ofNamed s depth) f.type
          { name := f.name, required := f.type.isNonNull && default.isNone
            shape := shape.annotate f.description default }) {}
      | _ => .any {}

/-- The shape of the values of a type. -/
def ofType (s : Schema) (depth : Nat) (type : TypeRef) : Shape :=
  if depth = 0 then .any {} else ofWrapped (ofNamed s depth) type

/-- What is found first on the way through a named type and the input objects of its values, where
`depth` of them may still be entered: in the form of a type, or in the declaration of a field. -/
def findOfNamed? {α : Type} (s : Schema) (inForm : TypeForm → Option α)
    (inField : InputValue → Option α) : Nat → String → Option α
  | 0, _ => none
  | depth + 1, name =>
    match (s.find? name).map NamedType.form with
    | some (.input fields _) =>
      fields.findSome? fun f => (inField f).or (findOfNamed? s inForm inField depth f.type.name)
    | some form => inForm form
    | none => none

/-- What keeps the values of an enum from being told, if anything does. -/
def enumFault? : TypeForm → Option String
  | .enum _ fault => fault
  | _ => none

/-- What keeps the shapes of parameters from being made, if anything does: an enum whose values cannot be
told, or a field with a default although no value can be given for its type. -/
def obstacle? (s : Schema) (depth : Nat) (parameters : List Parameter) : Option Failure :=
  parameters.findSome? fun p =>
    findOfNamed? s (fun form => (enumFault? form).map .untoldValues)
      (fun f => (s.misusedDefault? f).map fun (kind, name) => .roots (.defaultOfOutput kind name))
      depth p.type.name

/-- The fields that the parameters of an operation make, each with the whole budget. -/
def fieldsOf (s : Schema) (depth : Nat) (parameters : List Parameter) : List (Member Shape) :=
  parameters.map fun p =>
    { name := p.name, required := p.isRequired
      shape := (ofType s depth p.type).annotate p.description p.default }

/-- The shape of the parameters of an operation. -/
def ofParameters (s : Schema) (depth : Nat) (parameters : List Parameter) : Shape :=
  .object (fieldsOf s depth parameters) {}

end Shape

end QueryTools
