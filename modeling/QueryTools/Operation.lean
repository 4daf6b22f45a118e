import QueryTools.Schema.Coercion

/-!
# Operations

The fields of a schema's roots, flattened: each query and each mutation with its parameters, the
defaults that count for them, and the type of its result.  `Schema.operations` lists them, queries
first, in the order of their declaration.
-/

namespace QueryTools

/-- A parameter of an operation. -/
structure Parameter where
  name : String
  type : TypeRef
  /-- The value that stands for a missing one. -/
  default : Option Json
  /-- A text, or whatever else a server gives in its place. -/
  description : Option Json
  deriving Repr, Inhabited

/-- A query or a mutation. -/
structure Operation where
  name : String
  kind : OperationKind
  /-- A text, or whatever else a server gives in its place. -/
  description : Option Json
  parameters : List Parameter
  /-- The type of the result, where it is known. -/
  output : Option TypeRef
  deriving Repr, Inhabited

/-- Whether a value has to be given: null is excluded and nothing stands for a missing one. -/
def Parameter.isRequired (p : Parameter) : Bool := p.type.isNonNull && p.default.isNone

/-- Why the operations of a schema cannot be offered. -/
inductive RootFault where
  /-- A root is of a kind of type that has no fields. -/
  | noFields (kind : TypeKind)
  /-- A root is an input object, whose fields take no arguments. -/
  | noArguments
  /-- The default of an argument, or of a field of an input object, gives a value of a type that no value
  can be given for. -/
  | defaultOfOutput (kind : TypeKind) (type : String)
  deriving DecidableEq, Repr

/-- The word for a kind of type definition in a message. -/
def TypeKind.className : TypeKind → String
  | .scalar => "GraphQLScalarType"
  | .object => "GraphQLObjectType"
  | .interface => "GraphQLInterfaceType"
  | .union => "GraphQLUnionType"
  | .enum => "GraphQLEnumType"
  | .input => "GraphQLInputObjectType"

/-- The wording of a cause. -/
def RootFault.message : RootFault → String
  | .noFields kind => s!"'{kind.className}' object has no attribute 'fields'"
  | .noArguments => "'GraphQLInputField' object has no attribute 'args'"
  | .defaultOfOutput kind type => s!"Unexpected input type: <{kind.className} '{type}'>."

/-- The kind of type that a form makes. -/
def TypeForm.kind : TypeForm → TypeKind
  | .scalar _ => .scalar
  | .object .. => .object
  | .interface .. => .interface
  | .union _ => .union
  | .enum .. => .enum
  | .input .. => .input

namespace Schema

/-- The kind and name of a type that no value can be given for. -/
def outputType? (s : Schema) (name : String) : Option (TypeKind × String) :=
  match s.find? name with
  | some t => if t.isInput then none else some (t.form.kind, t.name)
  | none => none

/-- What is misused first by the values given for fields, in the order of the fields.  `given` says of
each name what its value misuses, and whether that fits; what comes after a value that does not fit, or
after a field that lacks one, is not looked at. -/
def misuseGiven? (given : Keyed (Option (TypeKind × String) × Bool)) :
    List InputValue → Option (TypeKind × String)
  | [] => none
  | f :: rest =>
    match Keyed.get? f.name given with
    | some (some found, _) => some found
    | some (none, fits) => if fits then misuseGiven? given rest else none
    | none => if f.type.isNonNull then none else misuseGiven? given rest

mutual

/-- The first type for which a constant gives a value although none can be given, as far as the constant
fits before it. -/
def misuse? (s : Schema) (type : TypeRef) : Literal → Option (TypeKind × String)
  | .null => none
  | .list items =>
    match type.item? with
    | some item => misuseItems? s item items
    | none => outputType? s type.name
  | .object given =>
    match s.find? type.name with
    | some { form := .input fields _, .. } =>
      if given.any fun p => !fields.any fun f => f.name == p.1 then none
      else misuseGiven? (Keyed.ofPairs (misuseFields s fields given)) fields
    | _ => outputType? s type.name
  | _ => outputType? s type.name

/-- The same for the items of a list. -/
def misuseItems? (s : Schema) (item : TypeRef) : List Literal → Option (TypeKind × String)
  | [] => none
  | v :: rest =>
    match misuse? s item v with
    | some found => some found
    | none => if (s.coerce item v).isSome then misuseItems? s item rest else none

/-- What the values given for fields misuse, and whether they fit. -/
def misuseFields (s : Schema) (fields : List InputValue) :
    List (String × Literal) → Keyed (Option (TypeKind × String) × Bool)
  | [] => []
  | (name, v) :: rest =>
    match fields.find? fun f => f.name == name with
    | some f => (name, misuse? s f.type v, (s.coerce f.type v).isSome) :: misuseFields s fields rest
    | none => misuseFields s fields rest

end

/-- The type that the default of an argument or an input field misuses, if it does. -/
def misusedDefault? (s : Schema) (v : InputValue) : Option (TypeKind × String) :=
  v.default.bind fun literal => s.misuse? v.type literal

/-- A parameter from the declaration of an argument. -/
def parameter (s : Schema) (v : InputValue) : Parameter :=
  { name := v.name, type := v.type, default := s.declaredDefault v, description := v.description }

/-- An operation from the declaration of a field. -/
def operation (s : Schema) (kind : OperationKind) (f : OutputField) : Operation :=
  { name := f.name, kind, description := f.description
    parameters := f.arguments.map s.parameter, output := some f.type }

/-- What makes a default of a field unusable, if anything does. -/
def defaultFault? (s : Schema) (f : OutputField) : Option RootFault :=
  f.arguments.findSome? fun a =>
    (s.misusedDefault? a).map fun (kind, name) => .defaultOfOutput kind name

/-- The fields of a root. -/
def rootFields (s : Schema) (kind : OperationKind) : Except RootFault (List OutputField) :=
  match (s.root? kind).bind s.find? with
  | none => .ok []
  | some t =>
    match t.form with
    | .object _ fields | .interface _ fields =>
      match fields.findSome? s.defaultFault? with
      | some fault => .error fault
      | none => .ok fields
    | .input [] _ => .ok []
    | .input _ _ => .error .noArguments
    | form => .error (.noFields form.kind)

/-- The operations of the kinds given, queries before mutations. -/
def operations (s : Schema) (kinds : List OperationKind) : Except RootFault (List Operation) := do
  let queries ← if kinds.contains .query then s.rootFields .query else pure []
  let mutations ← if kinds.contains .mutation then s.rootFields .mutation else pure []
  return queries.map (s.operation .query) ++ mutations.map (s.operation .mutation)

end Schema

end QueryTools
