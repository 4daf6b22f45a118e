import QueryTools.Language.Document
import QueryTools.Json.Display

/-!
# Schemas

A schema is a list of named types in the order of their declaration, with the directives it knows
and the types at which operations start.  Types refer to each other by name; `Schema.find?`
resolves a name.  The scalars and the introspection types that every schema has are declared here
too and take precedence over declarations of the same name.
-/

namespace QueryTools

/-- An argument of a field or a directive, or a field of an input object. -/
structure InputValue where
  name : String
  /-- A text, or whatever else a server gives in its place. -/
  description : Option Json
  type : TypeRef
  /-- The constant that stands for a missing value, as it was written. -/
  default : Option Literal
  deprecation : Option String
  deriving Repr, Inhabited

/-- A field of an object or an interface. -/
structure OutputField where
  name : String
  /-- A text, or whatever else a server gives in its place. -/
  description : Option Json
  arguments : List InputValue
  type : TypeRef
  deprecation : Option String
  deriving Repr, Inhabited

/-- A value of an enum. -/
structure EnumValue where
  name : String
  description : Option String
  deprecation : Option String
  deriving Repr, Inhabited

/-- What a named type is. -/
inductive TypeForm where
  | scalar (specifiedBy : Option String)
  | object (interfaces : List String) (fields : List OutputField)
  | interface (interfaces : List String) (fields : List OutputField)
  | union (members : List String)
  /-- An enum.  Where a fault keeps its values from being told there are none. -/
  | enum (values : List EnumValue) (fault : Option String)
  | input (fields : List InputValue) (oneOf : Bool)
  deriving Repr, Inhabited

/-- A named type. -/
structure NamedType where
  name : String
  description : Option String
  form : TypeForm
  deriving Repr, Inhabited

/-- A directive that a schema knows. -/
structure DirectiveType where
  name : String
  description : Option String
  arguments : List InputValue
  deprecation : Option String
  repeatable : Bool
  locations : List String
  deriving Repr

/-- A schema. -/
structure Schema where
  description : Option String
  /-- The types declared, without those that every schema has. -/
  types : List NamedType
  /-- The names of types that every schema has which this one lists all the same. -/
  listed : List String
  directives : List DirectiveType
  query : Option String
  mutation : Option String
  subscription : Option String
  deriving Repr

namespace NamedType

/-- Whether values of the type have no fields: scalars and enums. -/
def isLeaf (t : NamedType) : Bool :=
  match t.form with
  | .scalar _ | .enum .. => true
  | _ => false

/-- The fields of an object or an interface. -/
def outputFields? (t : NamedType) : Option (List OutputField) :=
  match t.form with
  | .object _ fields | .interface _ fields => some fields
  | _ => none

/-- Whether values of the type can be given as arguments. -/
def isInput (t : NamedType) : Bool :=
  match t.form with
  | .scalar _ | .enum .. | .input .. => true
  | _ => false

/-- Whether fields can have the type. -/
def isOutput (t : NamedType) : Bool :=
  match t.form with
  | .input _ _ => false
  | _ => true

/-- The names of the types that a type mentions. -/
def references (t : NamedType) : List String :=
  let ofInput := fun (v : InputValue) => v.type.name
  match t.form with
  | .scalar _ | .enum .. => []
  | .object interfaces fields | .interface interfaces fields =>
    interfaces ++ fields.flatMap fun f => f.type.name :: f.arguments.map ofInput
  | .union members => members
  | .input fields _ => fields.map ofInput

end NamedType

namespace Standard

/-- The names of the scalars that every schema has. -/
def scalarNames : List String := ["String", "Int", "Float", "Boolean", "ID"]

/-- A scalar that every schema has. -/
def scalar (name : String) : NamedType := ⟨name, none, .scalar none⟩

/-- A field without arguments. -/
def field (name : String) (type : TypeRef) : OutputField := ⟨name, none, [], type, none⟩

/-- A field that can leave out what is deprecated. -/
def filterable (name : String) (type : TypeRef) : OutputField :=
  ⟨name, none,
    [⟨"includeDeprecated", none, .nonNull (.named "Boolean"), some (.boolean false), none⟩], type, none⟩

/-- A field with a description. -/
def described (text : String) (f : OutputField) : OutputField :=
  { f with description := some (.str text) }

/-- A name that excludes null. -/
def required (name : String) : TypeRef := .nonNull (.named name)

/-- A list without nulls that excludes null. -/
def requiredList (name : String) : TypeRef := .nonNull (.list (required name))

/-- A nullable list without nulls. -/
def optionalList (name : String) : TypeRef := .list (required name)

/-- An enum with the given values. -/
def enumOf (name : String) (values : List String) : NamedType :=
  ⟨name, none, .enum (values.map fun v => ⟨v, none, none⟩) none⟩

/-- The types through which a schema describes itself. -/
def introspectionTypes : List NamedType :=
  [⟨"__Schema", none, .object [] [
      field "description" (.named "String"),
      described "A list of all types supported by this server."
        (field "types" (requiredList "__Type")),
      described "The type that query operations will be rooted at."
        (field "queryType" (required "__Type")),
      described ("If this server supports mutation, the type that mutation operations will be "
          ++ "rooted at.")
        (field "mutationType" (.named "__Type")),
      described ("If this server support subscription, the type that subscription operations will "
          ++ "be rooted at.")
        (field "subscriptionType" (.named "__Type")),
      described "A list of all directives supported by this server."
        (filterable "directives" (requiredList "__Directive"))]⟩,
   ⟨"__Directive", none, .object [] [
      field "name" (required "String"),
      field "description" (.named "String"),
      field "isRepeatable" (required "Boolean"),
      field "locations" (requiredList "__DirectiveLocation"),
      filterable "args" (requiredList "__InputValue"),
      field "isDeprecated" (required "Boolean"),
      field "deprecationReason" (.named "String")]⟩,
   enumOf "__DirectiveLocation" directiveLocations,
   ⟨"__Type", none, .object [] [
      field "kind" (required "__TypeKind"),
      field "name" (.named "String"),
      field "description" (.named "String"),
      field "specifiedByURL" (.named "String"),
      filterable "fields" (optionalList "__Field"),
      field "interfaces" (optionalList "__Type"),
      field "possibleTypes" (optionalList "__Type"),
      filterable "enumValues" (optionalList "__EnumValue"),
      filterable "inputFields" (optionalList "__InputValue"),
      field "ofType" (.named "__Type"),
      field "isOneOf" (.named "Boolean")]⟩,
   ⟨"__Field", none, .object [] [
      field "name" (required "String"),
      field "description" (.named "String"),
      filterable "args" (requiredList "__InputValue"),
      field "type" (required "__Type"),
      field "isDeprecated" (required "Boolean"),
      field "deprecationReason" (.named "String")]⟩,
   ⟨"__InputValue", none, .object [] [
      field "name" (required "String"),
      field "description" (.named "String"),
      field "type" (required "__Type"),
      described "A GraphQL-formatted string representing the default value for this input value."
        (field "defaultValue" (.named "String")),
      field "isDeprecated" (required "Boolean"),
      field "deprecationReason" (.named "String")]⟩,
   ⟨"__EnumValue", none, .object [] [
      field "name" (required "String"),
      field "description" (.named "String"),
      field "isDeprecated" (required "Boolean"),
      field "deprecationReason" (.named "String")]⟩,
   enumOf "__TypeKind" [
      "SCALAR", "OBJECT", "INTERFACE", "UNION", "ENUM", "INPUT_OBJECT", "LIST", "NON_NULL"]]

/-- The types that every schema has. -/
def types : List NamedType := scalarNames.map scalar ++ introspectionTypes

/-- Whether a name belongs to a type that every schema has. -/
def isStandard (name : String) : Bool := types.any fun t => t.name == name

/-- An argument of a directive. -/
def directiveArgument (name : String) (type : TypeRef) (default : Option Literal) : InputValue :=
  ⟨name, none, type, default, none⟩

/-- The reason for a deprecation that gives none. -/
def defaultDeprecation : String := "No longer supported"

/-- The directives that every schema has. -/
def directives : List DirectiveType :=
  let executable := ["FIELD", "FRAGMENT_SPREAD", "INLINE_FRAGMENT"]
  [⟨"include", none, [directiveArgument "if" (required "Boolean") none], none, false, executable⟩,
   ⟨"skip", none, [directiveArgument "if" (required "Boolean") none], none, false, executable⟩,
   ⟨"deprecated", none,
     [directiveArgument "reason" (required "String") (some (.string defaultDeprecation false))],
     none, false,
     ["FIELD_DEFINITION", "ARGUMENT_DEFINITION", "INPUT_FIELD_DEFINITION", "ENUM_VALUE",
      "DIRECTIVE_DEFINITION"]⟩,
   ⟨"specifiedBy", none, [directiveArgument "url" (required "String") none], none, false,
     ["SCALAR"]⟩,
   ⟨"oneOf", none, [], none, false, ["INPUT_OBJECT"]⟩]

/-- Whether a name belongs to a directive that every schema has. -/
def isStandardDirective (name : String) : Bool := directives.any fun d => d.name == name

end Standard

namespace Schema

/-- The type of a name: one that every schema has, else one declared. -/
def find? (s : Schema) (name : String) : Option NamedType :=
  match Standard.types.find? fun t => t.name == name with
  | some t => some t
  | none => s.types.find? fun t => t.name == name

/-- The type inside all wrappers of a reference. -/
def named? (s : Schema) (t : TypeRef) : Option NamedType := s.find? t.name

/-- The type at which operations of a kind start. -/
def root? (s : Schema) : OperationKind → Option String
  | .query => s.query
  | .mutation => s.mutation
  | .subscription => s.subscription

/-- How many types the schema consists of: those declared, the introspection types and what they
mention, and of the other types that every schema has those listed or mentioned. -/
def typeCount (s : Schema) : Nat :=
  let mentioned := s.listed ++ s.types.flatMap NamedType.references
    ++ s.directives.flatMap fun d => d.arguments.map fun a => a.type.name
  let always := ["String", "Boolean"] ++ Standard.introspectionTypes.map NamedType.name
  let extra := (Standard.scalarNames.filter fun n => mentioned.contains n && !always.contains n)
  s.types.length + always.length + extra.length

/-- What keeps the values of some enum from being told, if anything does. -/
def valuesFault? (s : Schema) : Option String :=
  s.types.findSome? fun t =>
    match t.form with
    | .enum _ fault => fault
    | _ => none

end Schema

end QueryTools
