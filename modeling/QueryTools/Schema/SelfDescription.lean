import QueryTools.Operation
import QueryTools.Language.LiteralText

/-!
# What a schema tells of itself

The answer to an introspection query on a schema: its types with their parts in order, descriptions, and
the defaults as documents write them.  `Schema.selfDescription?` gives it for a schema on which queries can
be answered, and for a query that asks for enough of each reference to a type.
-/

namespace QueryTools

/-- What an introspection query asks for. -/
structure Inquiry where
  /-- How many wrappers of a reference to a type are told. -/
  wrappers : Nat
  /-- Whether inputs are told that are deprecated, and what else not every query asks for. -/
  extended : Bool := false

namespace Inquiry

/-- The word for a kind of type. -/
def kindWord : TypeKind → String
  | .scalar => "SCALAR"
  | .object => "OBJECT"
  | .interface => "INTERFACE"
  | .union => "UNION"
  | .enum => "ENUM"
  | .input => "INPUT_OBJECT"

variable (q : Inquiry) (s : Schema)

/-- A named type as a reference tells it, where more may be told inside. -/
def namedReference (more : Bool) (name : String) : Json :=
  .obj ([("kind", .ofOption (fun t : NamedType => .str (kindWord t.form.kind)) (s.find? name)),
    ("name", .str name)] ++ if more then [("ofType", .null)] else [])

/-- A wrapper around a reference that is told if there is room. -/
def wrapper (word : String) (inner : Option Json) : Json :=
  .obj ([("kind", .str word), ("name", .null)] ++ inner.toList.map fun v => ("ofType", v))

/-- A reference to a type with at most the given number of wrappers. -/
def reference : Nat → TypeRef → Json
  | room, .named name => namedReference s (room != 0) name
  | 0, .list _ => wrapper "LIST" none
  | 0, .nonNull _ => wrapper "NON_NULL" none
  | room + 1, .list item => wrapper "LIST" (some (reference room item))
  | room + 1, .nonNull type => wrapper "NON_NULL" (some (reference room type))

/-- Whether something is deprecated and why. -/
def deprecation (reason : Option String) : List (String × Json) :=
  [("isDeprecated", .bool reason.isSome), ("deprecationReason", .ofOption .str reason)]

/-- An argument or an input field. -/
def inputValue (v : InputValue) : Json :=
  .obj ([("name", .str v.name), ("description", v.description.getD .null),
    ("type", reference s q.wrappers v.type),
    ("defaultValue", .ofOption (fun l : Literal => .str l.text) v.default)]
      ++ if q.extended then deprecation v.deprecation else [])

/-- Arguments or input fields, without those deprecated if they are not asked for. -/
def inputValues (vs : List InputValue) : Json :=
  .arr ((vs.filter fun v => q.extended || v.deprecation.isNone).map (q.inputValue s))

/-- A field. -/
def outputField (f : OutputField) : Json :=
  .obj ([("name", .str f.name), ("description", f.description.getD .null),
    ("args", q.inputValues s f.arguments), ("type", reference s q.wrappers f.type)]
      ++ deprecation f.deprecation)

/-- A value of an enum. -/
def enumValue (v : EnumValue) : Json :=
  .obj ([("name", .str v.name), ("description", .ofOption .str v.description)] ++ deprecation v.deprecation)

/-- References to types under names. -/
def references (names : List String) : Json := .arr (names.map (namedReference s (q.wrappers != 0)))

/-- The parts of a type; a part that its kind lacks is null. -/
structure Parts where
  fields : Json := .null
  inputFields : Json := .null
  interfaces : Json := .null
  enumValues : Json := .null
  possibleTypes : Json := .null
  specifiedBy : Json := .null
  oneOf : Json := .null

/-- The objects among types that have an interface. -/
def implementing (types : List NamedType) (name : String) : List String :=
  types.filterMap fun t =>
    match t.form with
    | .object interfaces _ => if interfaces.contains name then some t.name else none
    | _ => none

/-- The parts of one of the types told. -/
def parts (types : List NamedType) (t : NamedType) : Parts :=
  match t.form with
  | .scalar specifiedBy => { specifiedBy := .ofOption .str specifiedBy }
  | .object interfaces fields =>
    { fields := .arr (fields.map (q.outputField s)), interfaces := q.references s interfaces }
  | .interface interfaces fields =>
    { fields := .arr (fields.map (q.outputField s)), interfaces := q.references s interfaces
      possibleTypes := q.references s (implementing types t.name) }
  | .union members => { possibleTypes := q.references s members }
  | .enum values _ => { enumValues := .arr (values.map enumValue) }
  | .input fields oneOf => { inputFields := q.inputValues s fields, oneOf := .bool oneOf }

/-- One of the types told. -/
def type (types : List NamedType) (t : NamedType) : Json :=
  let p := q.parts s types t
  .obj ([("kind", .str (kindWord t.form.kind)), ("name", .str t.name),
    ("description", .ofOption .str t.description), ("fields", p.fields), ("inputFields", p.inputFields),
    ("interfaces", p.interfaces), ("enumValues", p.enumValues), ("possibleTypes", p.possibleTypes)]
      ++ if q.extended then [("specifiedByURL", p.specifiedBy), ("isOneOf", p.oneOf)] else [])

/-- A directive. -/
def directive (d : DirectiveType) : Json :=
  .obj ([("name", .str d.name), ("description", .ofOption .str d.description),
    ("locations", .ofStrings d.locations), ("args", q.inputValues s d.arguments)]
      ++ if q.extended then [("isRepeatable", .bool d.repeatable)] else [])

/-- The type at which operations of a kind start. -/
def root (kind : OperationKind) : Json :=
  .ofOption (fun name => .obj [("name", .str name), ("kind", .str (kindWord .object))]) (s.root? kind)

/-- All that is told, with the types under the given names. -/
def description (names : List String) : Json :=
  let types := names.filterMap s.find?
  .obj ([("queryType", root s .query), ("mutationType", root s .mutation),
    ("subscriptionType", root s .subscription), ("types", .arr (types.map (q.type s types))),
    ("directives", .arr (s.directives.map (q.directive s)))]
      ++ if q.extended then [("description", .ofOption .str s.description)] else [])

/-! ## Schemas that tell of themselves -/

/-- Whether a name is that of a type of a kind. -/
def names (kind : TypeKind) (name : String) : Bool := (s.find? name).any fun t => t.form.kind == kind

/-- Whether values can be given for a type, and the query asks for all its wrappers. -/
def takes (v : InputValue) : Bool := (s.named? v.type).any NamedType.isInput && v.type.wraps ≤ q.wrappers

/-- Whether a field can have its type, its arguments take values, and the query asks for all wrappers. -/
def gives (f : OutputField) : Bool :=
  (s.named? f.type).any NamedType.isOutput && f.type.wraps ≤ q.wrappers && f.arguments.all (q.takes s)

/-- Whether a type can be told. -/
def tells (t : NamedType) : Bool :=
  match t.form with
  | .scalar _ => true
  | .object interfaces fields | .interface interfaces fields =>
    interfaces.all (names s .interface) && fields.all (q.gives s)
  | .union members => members.all (names s .object)
  | .enum _ fault => fault.isNone
  | .input fields _ => fields.all (q.takes s)

/-- Whether all can be told under the given names: they are different names of types, among them all that
are declared or mentioned and the roots, which are objects, and all parts can be told. -/
def tellsAll (order : List String) : Bool :=
  decide order.Nodup && order.all (fun n => (s.find? n).isSome)
    && s.types.all (fun t => order.contains t.name)
    && (order.filterMap s.find?).all (fun t => t.references.all order.contains && q.tells s t)
    && s.directives.all (fun d => d.arguments.all fun a => order.contains a.type.name && q.takes s a)
    && [.query, .mutation, .subscription].all fun kind =>
      (s.root? kind).all fun n => order.contains n && names s .object n

end Inquiry

/-- The answer to an introspection query on the schema, with the types in the given order; nothing if no
query can be answered on it or the answer leaves out wrappers of references. -/
def Schema.selfDescription? (s : Schema) (q : Inquiry) (order : List String) : Option Json :=
  if q.tellsAll s order then some (.obj [("__schema", q.description s order)]) else none

end QueryTools
