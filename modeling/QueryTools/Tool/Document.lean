import QueryTools.Operation
import QueryTools.Language.LiteralText

/-!
# Documents made for operations

`Operation.definition` makes the definition of an operation that runs one query or mutation: a
variable for each parameter, one root field that passes them on, and a selection of the fields of
its result.  Fields that need arguments are left out, and objects are entered only down to a given
depth and never twice on one path.  `OperationDefinition.line` writes such a definition on a line.
-/

namespace QueryTools

namespace Operation

/-- The declared type of a parameter's variable.  Where a default stands for a missing value the
variable may be missing too, so null is admitted. -/
def variableType (p : Parameter) : TypeRef := if p.default.isSome then p.type.nullable else p.type

/-- The declaration of a parameter's variable. -/
def declaration (p : Parameter) : VariableDefinition :=
  { name := p.name, type := variableType p, default := none, directives := [] }

/-- The argument that passes a parameter's variable on. -/
def argument (p : Parameter) : Argument :=
  { name := p.name, value := .variable p.name, position := 0 }

/-- A field selected by its name alone, or with what is selected of it. -/
def selected (name : String) (selections : Option (List Selection)) : Selection :=
  .field none name [] [] selections

/-- The selection of a type that has no fields to choose from. -/
def typeNameOnly : List Selection := [selected "__typename" none]

/-- Whether a selection is the one of a type that has no fields to choose from. -/
def isTypeNameOnly : List Selection → Bool
  | [.field none "__typename" [] [] none] => true
  | _ => false

/-- Whether a field can be selected without arguments. -/
def needsNoArguments (s : Schema) (f : OutputField) : Bool :=
  !f.arguments.any fun a => a.type.isNonNull && (s.declaredDefault a).isNone

/-- What is selected of a type with the given fields, where `levels` more objects may be entered
and none of the types in `path`. -/
def selectFields (s : Schema) (levels : Nat) (path : List String) (fields : List OutputField) :
    List Selection :=
  let chosen := (fields.filter (needsNoArguments s)).filterMap fun f =>
    match s.named? f.type with
    | none => none
    | some t =>
      if t.isLeaf then some (selected f.name none)
      else
        match t.outputFields? with
        | none => none
        | some inner =>
          match levels with
          | 0 => none
          | levels + 1 =>
            if path.contains t.name then none
            else
              let nested := selectFields s levels (t.name :: path) inner
              if isTypeNameOnly nested then none else some (selected f.name (some nested))
  if chosen.isEmpty then typeNameOnly else chosen

/-- What is selected of the result of an operation: nothing of a leaf, else its fields. -/
def selectOutput (s : Schema) (depth : Nat) (type : TypeRef) : Option (List Selection) :=
  match s.named? type with
  | none => some typeNameOnly
  | some t =>
    if t.isLeaf then none
    else
      match t.outputFields? with
      | some fields => some (selectFields s (depth - 1) [t.name] fields)
      | none => some typeNameOnly

/-- The first default that is misused among arguments, as far as they are looked at: a default matters
where null is excluded, and none matters after an argument that has to be given. -/
def misusedArgument? (s : Schema) : List InputValue → Option (TypeKind × String)
  | [] => none
  | a :: rest =>
    if a.type.isNonNull then
      (s.misusedDefault? a).or
        (if (s.declaredDefault a).isNone then none else misusedArgument? s rest)
    else misusedArgument? s rest

/-- The first default that is misused among the arguments of fields and of the fields that are looked at
in objects entered from them, where `levels` more may be entered and none of the types in `path`. -/
def misusedField? (s : Schema) (levels : Nat) (path : List String) (fields : List OutputField) :
    Option (TypeKind × String) :=
  fields.findSome? fun f =>
    (misusedArgument? s f.arguments).or
      (if needsNoArguments s f then
        match s.named? f.type with
        | none => none
        | some t =>
          match t.outputFields? with
          | none => none
          | some inner =>
            match levels with
            | 0 => none
            | levels + 1 =>
              if path.contains t.name then none else misusedField? s levels (t.name :: path) inner
      else none)

/-- What keeps the fields of an operation's result from being selected, if anything does. -/
def misusedOutput? (s : Schema) (depth : Nat) (o : Operation) : Option (TypeKind × String) :=
  (o.output.bind s.named?).bind fun t =>
    t.outputFields?.bind fun fields => misusedField? s (depth - 1) [t.name] fields

/-- The definition that runs an operation. -/
def definition (s : Schema) (depth : Nat) (o : Operation) : OperationDefinition :=
  { kind := o.kind, name := some o.name
    variableDefinitions := o.parameters.map declaration, directives := []
    selections := [.field none o.name (o.parameters.map argument) []
      (o.output.bind (selectOutput s depth))] }

end Operation

namespace Selection

mutual

/-- An entry of a selection set on one line. -/
def line : Selection → String
  | .field _ name arguments _ selections =>
    let given := arguments.map fun a => a.name ++ ": " ++ a.value.text
    let passed := if given.isEmpty then "" else "(" ++ ", ".intercalate given ++ ")"
    name ++ passed ++ (match selections with
      | some ss => " \x7b " ++ " ".intercalate (lines ss) ++ " \x7d"
      | none => "")
  | .spread name _ => "..." ++ name
  | .inline condition _ ss =>
    "..." ++ (condition.map fun n => " on " ++ n).getD "" ++ " \x7b " ++ " ".intercalate (lines ss)
      ++ " \x7d"

/-- Each entry of a selection set. -/
def lines : List Selection → List String
  | [] => []
  | s :: rest => line s :: lines rest

end

end Selection

/-- An operation with its variables and selections on one line. -/
def OperationDefinition.line (d : OperationDefinition) : String :=
  let definitions := d.variableDefinitions.map fun v => "$" ++ v.name ++ ": " ++ v.type.text
  let declared := if definitions.isEmpty then "" else "(" ++ ", ".intercalate definitions ++ ")"
  d.kind.word ++ " " ++ d.name.getD "" ++ declared ++ " \x7b "
    ++ " ".intercalate (Selection.lines d.selections) ++ " \x7d"

namespace Operation

/-- The document that runs an operation, with objects entered down to the given depth. -/
def document (s : Schema) (depth : Nat) (o : Operation) : String :=
  (o.definition s depth).line

/-- The document that runs an operation, unless a default keeps its fields from being selected. -/
def makeDocument (s : Schema) (depth : Nat) (o : Operation) : Except RootFault String :=
  match o.misusedOutput? s depth with
  | some (kind, type) => .error (.defaultOfOutput kind type)
  | none => .ok (o.document s depth)

end Operation

end QueryTools
