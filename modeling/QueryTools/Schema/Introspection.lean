import QueryTools.Schema.Basic
import QueryTools.Language.Parser
import QueryTools.Json.Access

/-!
# Schemas from introspection results

`Schema.ofIntrospection` rebuilds a schema from the answer that a server gives to a query for its
own types.  The answer comes from outside and may have any form, so every step of taking it apart
can fail.  Types are made first, then the roots and the directives are looked up, and last the
interfaces, fields and members of each type; the first failure in that order is the one reported.
-/

namespace QueryTools

/-- Why no schema can be rebuilt. -/
inductive IntrospectionFault where
  /-- The answer reports errors. -/
  | reported (text : String)
  /-- The answer reports errors in a form that cannot be shown. -/
  | unreadableErrors (cause : AccessFault)
  | noSchema
  | notIntrospection (data : Json)
  | incompleteType (entry : Json)
  | missing (what : String) (entry : Json)
  | missingFields (entry : Json)
  | unknownType (name : String)
  | unnamedReference (reference : Json)
  | tooDeep
  | notNullable (type : TypeRef)
  | notOfKind (type kind : String)
  | notOutput (type : TypeRef)
  | notInput (what : String) (type : TypeRef)
  | noName
  | nameNotText
  | emptyName
  | badNameCharacter (name : String)
  | badNameStart (name : String)
  | reservedEnumValue (name : String)
  | reservedName (name : String)
  | badDefault (text : String) (error : SyntaxError)
  | badLocations (directive : String)
  | access (cause : AccessFault)
  /-- A part of a type cannot be made. -/
  | unresolved (owner part : String) (cause : IntrospectionFault)
  deriving Repr

namespace IntrospectionFault

/-- The wording of what is wrong with a result. -/
def detail : IntrospectionFault → String
  | .reported text => text
  | .unreadableErrors cause => cause.message
  | .noSchema => ""
  | .notIntrospection data =>
    "Invalid or incomplete introspection result. Ensure that you are passing the 'data' attribute "
      ++ "of an introspection response and no 'errors' were returned alongside: " ++ data.abbreviated ++ "."
  | .incompleteType entry =>
    "Invalid or incomplete introspection result. Ensure that a full introspection query is used in "
      ++ "order to build a client schema: " ++ entry.abbreviated ++ "."
  | .missing what entry => s!"Introspection result missing {what}: {entry.abbreviated}."
  | .missingFields entry => s!"Introspection result missing fields: {entry.display}."
  | .unknownType name =>
    s!"Invalid or incomplete schema, unknown type: {name}. Ensure that a full introspection query "
      ++ "is used in order to build a client schema."
  | .unnamedReference reference => s!"Unknown type reference: {reference.abbreviated}."
  | .tooDeep => "Decorated type deeper than introspection query."
  | .notNullable type => s!"Expected {type.text} to be a GraphQL nullable type."
  | .notOfKind type kind => s!"Expected {type} to be a GraphQL {kind} type."
  | .notOutput type =>
    s!"Introspection must provide output type for fields, but received: {type.text}."
  | .notInput what type =>
    s!"Introspection must provide input type for {what}, but received: {type.text}."
  | .noName => "Must provide name."
  | .nameNotText => "Expected name to be a string."
  | .emptyName => "Expected name to be a non-empty string."
  | .badNameCharacter name =>
    s!"Names must only contain [_a-zA-Z0-9] but {Text.quoted name} does not."
  | .badNameStart name => s!"Names must start with [_a-zA-Z] but {Text.quoted name} does not."
  | .reservedEnumValue name => s!"Enum values cannot be named: {name}."
  | .reservedName name => s!"Redefinition of reserved type {Text.quoted name}"
  | .badDefault text error => error.message text
  | .badLocations directive =>
    s!"{directive} locations must be specified as a collection of DirectiveLocation enum values."
  | .access cause => cause.message
  | .unresolved owner part cause => s!"{owner} {part} cannot be resolved. {cause.detail}"

/-- The wording of a fault as a whole. -/
def message : IntrospectionFault → String
  | .reported text => "GraphQL introspection failed: " ++ text
  | .unreadableErrors cause => cause.message
  | .noSchema => "GraphQL introspection returned no schema data"
  | fault => "Invalid introspection result: " ++ fault.detail

end IntrospectionFault

namespace Introspection

/-- A step of rebuilding. -/
abbrev Step (α : Type) := Except IntrospectionFault α

/-- A member that an object has to have. -/
def member (key : String) (v : Json) : Step Json := (v.member key).mapError .access

/-- A member that an object may lack. -/
def optional (key : String) (v : Json) : Step Json := (v.optionalMember key).mapError .access

/-- The values one meets going through a value. -/
def elements (v : Json) : Step (List Json) := v.elements.mapError .access

/-- A name that the query language admits. -/
def checkName (v : Json) : Step String :=
  match v with
  | .null => .error .noName
  | .str s =>
    match s.toList with
    | [] => .error .emptyName
    | c :: rest =>
      if !rest.all Lexer.isNameContinue then .error (.badNameCharacter s)
      else if !Lexer.isNameStart c then .error (.badNameStart s)
      else .ok s
  | _ => .error .nameNotText

/-- A name that an enum value may have. -/
def checkEnumValueName (v : Json) : Step String := do
  let name ← checkName v
  if ["true", "false", "null"].contains name then throw (.reservedEnumValue name) else return name

/-- A member that may be null, as it is given. -/
def given? (v : Json) (key : String) : Option Json := (v.get? key).filter fun x => !x.isNull

/-- A member that may be null, as the text that shows it. -/
def text? (v : Json) (key : String) : Option String := (given? v key).map Json.plain

/-- Whether a member is present and not empty. -/
def flag (v : Json) (key : String) : Bool := ((v.get? key).map Json.isTruthy).getD false

/-- What a listed type is, before its parts are looked up. -/
inductive Outline where
  /-- A type that every schema has. -/
  | standard
  | scalar (specifiedBy : Option String)
  | object (entry : Json)
  | interface (entry : Json)
  | union (possibleTypes : Json)
  | enum (values : List EnumValue)
  | input (inputFields : Json) (oneOf : Bool)

/-- A listed type before its parts are looked up. -/
structure Listed where
  name : String
  description : Option String
  outline : Outline

/-- The types that every schema has, by the kind that may stand for them. -/
def standardKind? (name : String) : Option TypeKind :=
  (Standard.types.find? fun t => t.name == name).map fun t =>
    match t.form with
    | .scalar _ => .scalar
    | .enum .. => .enum
    | _ => .object

/-- A listed type of a kind that can be one that every schema has. -/
def reservable (name : Json) (kind : TypeKind) (make : Step Outline) : Step (String × Outline) := do
  let name ← name.hashable.mapError .access
  match name with
  | .str s =>
    if standardKind? s = some kind then return (s, .standard)
    else
      let outline ← make
      if (standardKind? s).isSome then throw (.reservedName s)
      return (← checkName name, outline)
  | name =>
    let outline ← make
    return (← checkName name, outline)

/-- A listed type of a kind that no type that every schema has is of. -/
def unreservable (name : Json) (outline : Outline) : Step (String × Outline) := do
  let name ← name.hashable.mapError .access
  match name with
  | .str s => if (standardKind? s).isSome then throw (.reservedName s)
  | _ => pure ()
  return (← checkName name, outline)

/-- The values of an enum; of two with one name the last counts, in the place of the first. -/
def enumValues (v : Json) : Step (List EnumValue) := do
  let entries ← (← elements v).mapM fun e => do
    let name ← (← member "name" e).hashable.mapError .access
    pure (name, e)
  let named ← entries.mapM fun (name, e) => do
    let name ← checkEnumValueName name
    pure (name, EnumValue.mk name (text? e "description") (text? e "deprecationReason"))
  return (Keyed.ofPairs named).map Prod.snd

/-- A listed type. -/
def listed (entry : Json) : Step Listed := do
  let name ← member "name" entry
  let kind ← match entry.get? "kind" with
    | some kind => kind.hashable.mapError .access
    | none => throw (.incompleteType entry)
  let (name, outline) ←
    match kind with
    | .str "SCALAR" => reservable name .scalar (.ok (.scalar (text? entry "specifiedByURL")))
    | .str "OBJECT" => reservable name .object (.ok (.object entry))
    | .str "INTERFACE" => unreservable name (.interface entry)
    | .str "UNION" => do
      match ← optional "possibleTypes" entry with
      | .null => throw (.missing "possibleTypes" entry)
      | types => unreservable name (.union types)
    | .str "ENUM" => do
      match ← optional "enumValues" entry with
      | .null => throw (.missing "enumValues" entry)
      | values => reservable name .enum (Outline.enum <$> enumValues values)
    | .str "INPUT_OBJECT" => do
      match ← optional "inputFields" entry with
      | .null => throw (.missing "inputFields" entry)
      | fields => unreservable name (.input fields (flag entry "isOneOf"))
    | _ => throw (.incompleteType entry)
  return { name, description := text? entry "description", outline }

/-- What is known of the types while their parts are looked up. -/
abbrev Index := Keyed TypeKind

/-- The kind of a listed type. -/
def Listed.kind (t : Listed) : TypeKind :=
  match t.outline with
  | .standard => (standardKind? t.name).getD .scalar
  | .scalar _ => .scalar
  | .object _ => .object
  | .interface _ => .interface
  | .union _ => .union
  | .enum _ => .enum
  | .input _ _ => .input

/-- The listed type that a reference names. -/
def namedRef (index : Index) (reference : Json) : Step (String × TypeKind) := do
  let name ← optional "name" reference
  if !name.isTruthy then throw (.unnamedReference reference)
  let name ← name.hashable.mapError .access
  match name with
  | .str s =>
    match Keyed.get? s index with
    | some kind => return (s, kind)
    | none => throw (.unknownType s)
  | other => throw (.unknownType other.plain)

/-- A reference to a type with its wrappers, and the kind of the type inside.  Each wrapper lies one
level deeper in the value, and the depth of the value bounds the recursion. -/
def typeRef (index : Index) : Nat → Json → Step (TypeRef × TypeKind)
  | 0, _ => throw .tooDeep
  | depth + 1, reference => do
    match ← optional "kind" reference with
    | .str "LIST" =>
      let item ← optional "ofType" reference
      if !item.isTruthy then throw .tooDeep
      let (type, kind) ← typeRef index depth item
      return (.list type, kind)
    | .str "NON_NULL" =>
      let inner ← optional "ofType" reference
      if !inner.isTruthy then throw .tooDeep
      let (type, kind) ← typeRef index depth inner
      if type.isNonNull then throw (.notNullable type)
      return (.nonNull type, kind)
    | _ =>
      let (name, kind) ← namedRef index reference
      return (.named name, kind)

mutual

/-- How deep wrappers can be nested in a reference. -/
def wrapperDepth : Json → Nat
  | .obj members => memberDepth members
  | _ => 1

/-- How deep wrappers can be nested below the members of a reference. -/
def memberDepth : List (String × Json) → Nat
  | [] => 1
  | (_, v) :: rest => max (wrapperDepth v + 1) (memberDepth rest)

end

/-- A reference to a type of any depth. -/
def anyTypeRef (index : Index) (reference : Json) : Step (TypeRef × TypeKind) :=
  typeRef index (wrapperDepth reference) reference

/-- The constant that an optional default spells. -/
def defaultLiteral (v : Json) : Step (Option Literal) :=
  match v with
  | .null => .ok none
  | .str s => (some <$> Literal.parse s).mapError (.badDefault s)
  | v =>
    match v.count with
    | .error cause => .error (.access cause)
    | .ok _ => .ok none

/-- An argument or an input field, without its name. -/
def inputValue (index : Index) (what : String) (entry : Json) : Step InputValue := do
  let (type, kind) ← anyTypeRef index (← member "type" entry)
  if kind = .object ∨ kind = .interface ∨ kind = .union then throw (.notInput what type)
  let default ← defaultLiteral (← optional "defaultValue" entry)
  return { name := "", description := given? entry "description", type, default
           deprecation := text? entry "deprecationReason" }

/-- Entries under their names, of two with one name the last in the place of the first. -/
def byName (make : Json → Step α) (entries : Json) : Step (List (Json × α)) := do
  let pairs ← (← elements entries).mapM fun e => do
    let name ← member "name" e
    let made ← make e
    pure (← name.hashable.mapError .access, made)
  let key := fun (v : Json) => v.kind ++ ":" ++ v.display
  let keyed := Keyed.ofPairs (pairs.map fun p => (key p.1, p))
  return keyed.map Prod.snd

/-- Input values whose names are checked. -/
def nameInputs (values : List (Json × InputValue)) : Step (List InputValue) :=
  values.mapM fun (name, v) => do return { v with name := ← checkName name }

/-- The arguments of a field or a directive. -/
def argumentList (index : Index) (entries : Json) : Step (List InputValue) := do
  nameInputs (← byName (inputValue index "arguments") entries)

/-- A field, without its name. -/
def outputField (index : Index) (entry : Json) : Step OutputField := do
  let (type, kind) ← anyTypeRef index (← member "type" entry)
  if kind = .input then throw (.notOutput type)
  match ← optional "args" entry with
  | .null => throw (.missing "field args" entry)
  | arguments =>
    return { name := "", description := given? entry "description", type
             arguments := ← argumentList index arguments
             deprecation := text? entry "deprecationReason" }

/-- Says whose part could not be made. -/
def resolving (owner part : String) (step : Step α) : Step α :=
  step.mapError (.unresolved owner part)

/-- A reference that has to name a type of a kind. -/
def ofKind (index : Index) (kind : TypeKind) (word : String) (reference : Json) : Step String := do
  let (name, found) ← namedRef index reference
  if found = kind then return name else throw (.notOfKind name word)

/-- The interfaces of a type.  Those of an interface may be missing. -/
def interfaces (index : Index) (entry : Json) (optionalHere : Bool) : Step (List String) := do
  match ← optional "interfaces" entry with
  | .null => if optionalHere then return [] else throw (.missing "interfaces" entry)
  | references => (← elements references).mapM (ofKind index .interface "Interface")

/-- The fields of an object or an interface.  Their names are checked last. -/
def outputFields (index : Index) (owner : String) (entry : Json) : Step (List OutputField) := do
  let fields ← resolving owner "fields" do
    match ← optional "fields" entry with
    | .null => throw (.missingFields entry)
    | fields => byName (outputField index) fields
  fields.mapM fun (name, f) => do return { f with name := ← checkName name }

/-- The fields of an input object.  Their names are checked last. -/
def inputFields (index : Index) (owner : String) (entries : Json) : Step (List InputValue) := do
  nameInputs (← resolving owner "fields" (byName (inputValue index "input fields") entries))

/-- A listed type with its parts; nothing for one that every schema has. -/
def resolve (index : Index) (t : Listed) : Step (Option NamedType) := do
  let form : Option TypeForm ← match t.outline with
    | .standard => pure none
    | .scalar specifiedBy => pure (some (.scalar specifiedBy))
    | .object entry => do
      let interfaces ← resolving t.name "interfaces" (interfaces index entry false)
      pure (some (.object interfaces (← outputFields index t.name entry)))
    | .interface entry => do
      let interfaces ← resolving t.name "interfaces" (interfaces index entry true)
      pure (some (.interface interfaces (← outputFields index t.name entry)))
    | .union types => do
      let members ← resolving t.name "types" do
        (← elements types).mapM (ofKind index .object "Object")
      pure (some (.union members))
    | .enum values => pure (some (.enum values none))
    | .input fields oneOf => do
      pure (some (.input (← inputFields index t.name fields) oneOf))
  return form.map fun form => { name := t.name, description := t.description, form }

/-- A place for a directive. -/
def location (directive : String) (v : Json) : Step String :=
  match v with
  | .str s => if directiveLocations.contains s then .ok s else .error (.badLocations directive)
  | _ => .error (.badLocations directive)

/-- A directive. -/
def directiveType (index : Index) (entry : Json) : Step DirectiveType := do
  let arguments ← optional "args" entry
  if arguments.isNull then throw (.missing "directive args" entry)
  let locations ← optional "locations" entry
  if locations.isNull then throw (.missing "directive locations" entry)
  let name ← member "name" entry
  let locations ← elements locations
  let arguments ← byName (inputValue index "arguments") arguments
  let name ← checkName name
  let locations ← locations.mapM (location name)
  return { name, description := text? entry "description", repeatable := flag entry "isRepeatable"
           locations, arguments := ← nameInputs arguments
           deprecation := text? entry "deprecationReason" }

/-- The root of a kind, if the schema names one. -/
def root (index : Index) (schema : Json) (key : String) : Step (Option String) := do
  match ← optional key schema with
  | .null => return none
  | reference => some <$> ofKind index .object "Object" reference

/-- The schema that the value of `__schema` describes. -/
def schemaOf (schema : Json) : Step Schema := do
  let entries ← (← elements (← member "types" schema)).mapM listed
  let types := (Keyed.ofPairs (entries.map fun t => (t.name, t))).map Prod.snd
  let index : Index := types.map fun t => (t.name, t.kind)
  let query ← root index schema "queryType"
  let mutation ← root index schema "mutationType"
  let subscription ← root index schema "subscriptionType"
  let directives ← optional "directives" schema
  let directives ←
    if directives.isTruthy then do (← elements directives).mapM (directiveType index) else pure []
  let resolved ← types.mapM (resolve index)
  return { description := text? schema "description"
           types := resolved.filterMap id
           listed := (types.map Listed.name).filter Standard.isStandard
           directives, query, mutation, subscription }

/-- What an answer that reports errors says: their messages, and whatever has none as it is. -/
def reportedText (errors : Json) : Except AccessFault String := do
  let texts := (← errors.elements).map fun e =>
    match e with
    | .obj members => (Keyed.get? "message" members).getD (.str e.display)
    | e => .str e.plain
  Json.join "; " texts

end Introspection

/-- The schema that an answer to the introspection query describes. -/
def Schema.ofIntrospection (result : Json) : Except IntrospectionFault Schema := do
  let errors ← Introspection.optional "errors" result
  if errors.isTruthy then
    throw (.reported (← (Introspection.reportedText errors).mapError .unreadableErrors))
  match ← Introspection.optional "data" result with
  | .obj members =>
    match Keyed.get? "__schema" members with
    | none => throw .noSchema
    | some schema =>
      if !schema.isTruthy then throw .noSchema
      match schema with
      | .obj _ => Introspection.schemaOf schema
      | _ => throw (.notIntrospection (.obj members))
  | _ => throw .noSchema

end QueryTools
