import QueryTools.Schema.Violation
import QueryTools.Language.Parser
import QueryTools.Language.LiteralText

/-!
# Schemas from documents

`Schema.ofText` makes a schema of a document of type definitions.  The document has to keep the
rules of `Document.violations`; extensions are then merged into what they extend, and the
directives `deprecated`, `specifiedBy` and `oneOf` become properties of what carries them.
Declarations under the name of a type that every schema has are dropped.  An enum with a value that
is deprecated for no readable reason does not stand in the way of the schema: it becomes an enum
whose values cannot be told.
-/

namespace QueryTools

/-- Why a directive does not say what it has to say. -/
inductive DirectiveFault where
  /-- The value of an argument is no text. -/
  | misfit (argument : Argument)
  /-- An argument without a default is not given. -/
  | missing (argument : String) (position : Nat)
  deriving Repr

/-- Why no schema can be made of a text. -/
inductive SchemaFault where
  | malformed (error : SyntaxError)
  | rejected (violations : List Violation)
  | unclear (cause : DirectiveFault)
  /-- The fields of a type cannot be made because of a directive among them. -/
  | unclearField (type : String) (cause : DirectiveFault)
  deriving Repr

namespace DirectiveFault

/-- What is wrong with a value that has to be a text. -/
def misfitReason : Literal → String
  | .null => "Expected value of non-null type 'String!' not to be None."
  | v => "String cannot represent a non string value: " ++ v.text

/-- What is wrong. -/
def reason : DirectiveFault → String
  | .misfit a => s!"Argument '{a.name}' has invalid value: {misfitReason a.value}"
  | .missing argument _ => s!"Argument '{argument}' of required type 'String!' was not provided."

/-- Where it is noticed. -/
def position : DirectiveFault → Nat
  | .misfit a => a.position
  | .missing _ position => position

/-- The wording, with the place in the text. -/
def message (f : DirectiveFault) (text : String) : String :=
  let cs := text.toList
  let (line, column) := Text.place cs f.position
  s!"{f.reason}\n\nGraphQL request:{line}:{column}\n" ++ String.ofList (Text.excerpt cs line column)

end DirectiveFault

/-- The wording of a fault of a text. -/
def SchemaFault.message (fault : SchemaFault) (text : String) : String :=
  match fault with
  | .malformed error => error.message text
  | .rejected violations => "\n\n".intercalate (violations.map Violation.message)
  | .unclear cause => cause.message text
  | .unclearField type cause => s!"{type} fields cannot be resolved. {cause.message text}"

namespace Document

/-- The text that an argument of a directive among others gives: nothing without the directive, and
without the argument the default if there is one. -/
def directiveText (ds : List Directive) (directive argument : String) (default : Option String) :
    Except DirectiveFault (Option String) :=
  match ds.find? fun d => d.name == directive with
  | none => .ok none
  | some d =>
    match d.arguments.find? fun a => a.name == argument, default with
    | some a, _ =>
      match a.value with
      | .string text _ => .ok (some text)
      | _ => .error (.misfit a)
    | none, some text => .ok (some text)
    | none, none => .error (.missing argument d.position)

/-- The text that a definition and its extensions give: the last one given, where an extension that
gives an empty one gives none. -/
def lastText (text : List Directive → Except DirectiveFault (Option String)) (definition : List Directive)
    (extensions : List (List Directive)) : Except DirectiveFault (Option String) := do
  extensions.foldlM (fun before ds => do return ((← text ds).filter (· != "")).or before)
    (← text definition)

/-- The reason why something is deprecated, if it is. -/
def deprecation (ds : List Directive) : Except DirectiveFault (Option String) :=
  directiveText ds "deprecated" "reason" (some Standard.defaultDeprecation)

/-- Where values of a scalar are specified, if somewhere. -/
def specification (ds : List Directive) : Except DirectiveFault (Option String) :=
  directiveText ds "specifiedBy" "url" none

/-- An argument or an input field. -/
def inputValue (d : InputDefinition) : Except DirectiveFault InputValue := do
  return { name := d.name, description := d.description.map .str, type := d.type
           default := d.default, deprecation := ← deprecation d.directives }

/-- A field. -/
def outputField (d : FieldDefinition) : Except DirectiveFault OutputField := do
  let arguments ← d.arguments.mapM inputValue
  return { name := d.name, description := d.description.map .str, arguments, type := d.type
           deprecation := ← deprecation d.directives }

/-- An enum value. -/
def enumValue (d : EnumValueDefinition) : Except DirectiveFault EnumValue := do
  return { name := d.name, description := d.description, deprecation := ← deprecation d.directives }

/-- The extensions of a type that have the kind of its definition. -/
def extensionsOf (doc : Document) (d : TypeDefinition) : List TypeDefinition :=
  doc.filterMap fun
    | .typeExtension e => if e.name = d.name ∧ e.body.kind = d.body.kind then some e else none
    | _ => none

/-- The interfaces of a body. -/
def interfacesOf : TypeBody → List String
  | .object interfaces _ | .interface interfaces _ => interfaces
  | _ => []

/-- The fields of a body. -/
def fieldsOf : TypeBody → List FieldDefinition
  | .object _ fields | .interface _ fields => fields
  | _ => []

/-- The members of a body. -/
def membersOf : TypeBody → List String
  | .union members => members
  | _ => []

/-- The values of a body. -/
def valuesOf : TypeBody → List EnumValueDefinition
  | .enum values => values
  | _ => []

/-- The input fields of a body. -/
def inputsOf : TypeBody → List InputDefinition
  | .input fields => fields
  | _ => []

/-- Where values of a scalar with its extensions are specified. -/
def specificationOf (doc : Document) (d : TypeDefinition) : Except SchemaFault (Option String) :=
  (lastText specification d.directives ((doc.extensionsOf d).map TypeDefinition.directives)).mapError
    .unclear

/-- An enum with the given values, as the text that defines them makes it. -/
def enumForm (text name : String) (values : List EnumValueDefinition) : TypeForm :=
  match values.mapM enumValue with
  | .ok values => .enum values none
  | .error cause => .enum [] (some s!"{name} values cannot be resolved. {cause.message text}")

/-- A type with its extensions. -/
def namedType (doc : Document) (text : String) (d : TypeDefinition) : Except SchemaFault NamedType := do
  let bodies := (d :: doc.extensionsOf d).map TypeDefinition.body
  let interfaces := bodies.flatMap interfacesOf
  let fields := ((bodies.flatMap fieldsOf).mapM outputField).mapError (.unclearField d.name)
  let form ← match d.body with
    | .scalar => do pure (TypeForm.scalar (← doc.specificationOf d))
    | .object .. => do pure (TypeForm.object interfaces (← fields))
    | .interface .. => do pure (TypeForm.interface interfaces (← fields))
    | .union _ => pure (TypeForm.union (bodies.flatMap membersOf))
    | .enum _ => pure (enumForm text d.name (bodies.flatMap valuesOf))
    | .input _ => do
      let inputs := ((bodies.flatMap inputsOf).mapM inputValue).mapError (.unclearField d.name)
      pure (TypeForm.input (← inputs) (d.directives.any fun x => x.name == "oneOf"))
  return { name := d.name, description := d.description, form }

/-- The directives on the extensions of a directive, one list for each. -/
def directiveExtensions (doc : Document) (name : String) : List (List Directive) :=
  doc.filterMap fun
    | .directiveExtension extended directives => if extended = name then some directives else none
    | _ => none

/-- A directive with its extensions. -/
def directiveType (doc : Document) (d : DirectiveDefinition) : Except SchemaFault DirectiveType :=
  Except.mapError .unclear do
    let arguments ← d.arguments.mapM inputValue
    return { name := d.name, description := d.description, arguments, repeatable := d.repeatable
             locations := d.locations
             deprecation := ← lastText deprecation d.directives (doc.directiveExtensions d.name) }

/-- The roots that the definition and the extensions of the schema give. -/
def rootDefinitions (doc : Document) : List RootDefinition :=
  doc.flatMap fun
    | .schema _ _ roots | .schemaExtension _ roots => roots
    | _ => []

/-- Whether the document defines its schema and not only its types, and its description. -/
def schemaDefinition? (doc : Document) : Option (Option String) :=
  doc.findSome? fun
    | .schema description _ _ => some description
    | _ => none

/-- The root of a kind: what the schema says, and without a definition of the schema the type with
the usual name where there is one. -/
def root? (doc : Document) (kind : OperationKind) (usual : String) : Option String :=
  let stated := (doc.rootDefinitions.reverse.find? fun r => r.kind = kind).map RootDefinition.type
  match doc.schemaDefinition? with
  | some _ => stated
  | none =>
    if doc.typeDefinitions.any fun d => d.name == usual then some usual else stated

/-- The schema of a document that keeps the rules, made of a text. -/
def schema (doc : Document) (text : String) : Except SchemaFault Schema := do
  let (standard, declared) := doc.typeDefinitions.partition fun d => Standard.isStandard d.name
  (declared.filter fun d => d.body.kind = .scalar).forM fun d => discard (doc.specificationOf d)
  let directives ← doc.directiveDefinitions.mapM doc.directiveType
  let types ← declared.mapM (doc.namedType text)
  return { description := doc.schemaDefinition?.getD none
           types, listed := standard.map TypeDefinition.name
           directives := directives ++ Standard.directives.filter fun s =>
             !directives.any fun d => d.name == s.name
           query := doc.root? .query "Query"
           mutation := doc.root? .mutation "Mutation"
           subscription := doc.root? .subscription "Subscription" }

end Document

/-- The schema that a text defines. -/
def Schema.ofText (text : String) : Except SchemaFault Schema := do
  let doc ← (Document.parse text).mapError SchemaFault.malformed
  match doc.violations with
  | [] => doc.schema text
  | violations => throw (.rejected violations)

end QueryTools
