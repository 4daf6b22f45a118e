import QueryTools.Schema.Basic
import QueryTools.Text.Suggestion

/-!
# Rules for schema documents

The rules that a document has to keep before a schema is made of it: nothing is defined twice,
every type and directive mentioned is known, extensions fit what they extend, and directives have
their arguments.  `Document.visits` walks the document in the order of its text, and
`Document.violations` lists what is wrong in that order.
-/

namespace QueryTools

/-- A breach of a rule. -/
inductive Violation where
  | secondSchema
  | secondRoot (kind : OperationKind)
  | secondType (name : String)
  | secondEnumValue (type value : String)
  | secondField (type field : String)
  | secondArgument (owner argument : String)
  | secondDirective (name : String)
  | unknownType (name : String) (options : List String)
  | misplacedDirective (name place : String)
  | unknownDirective (name : String)
  | repeatedDirective (name : String)
  | extendedOtherKind (kind : TypeKind) (name : String)
  | extendedUnknown (name : String) (options : List String)
  | unknownArgument (argument directive : String) (options : List String)
  | repeatedArgument (name : String)
  | repeatedInputField (name : String)
  | missingArgument (directive argument : String) (type : TypeRef)
  deriving Repr

/-- The word for a kind of type. -/
def TypeKind.word : TypeKind → String
  | .scalar => "scalar"
  | .object => "object"
  | .interface => "interface"
  | .union => "union"
  | .enum => "enum"
  | .input => "input object"

/-- The name of a place for directives in running text. -/
def placeText (place : String) : String :=
  String.ofList (place.toList.map fun c => if c = '_' then ' ' else c.toLower)

/-- The wording of a breach. -/
def Violation.message : Violation → String
  | .secondSchema => "Must provide only one schema definition."
  | .secondRoot kind => s!"There can be only one {kind.word} type in schema."
  | .secondType name => s!"There can be only one type named '{name}'."
  | .secondEnumValue type value => s!"Enum value '{type}.{value}' can only be defined once."
  | .secondField type field => s!"Field '{type}.{field}' can only be defined once."
  | .secondArgument owner argument => s!"Argument '{owner}({argument}:)' can only be defined once."
  | .secondDirective name => s!"There can be only one directive named '@{name}'."
  | .unknownType name options => s!"Unknown type '{name}'.{Text.didYouMean name options}"
  | .misplacedDirective name place => s!"Directive '@{name}' may not be used on {placeText place}."
  | .unknownDirective name => s!"Unknown directive '@{name}'."
  | .repeatedDirective name => s!"The directive '@{name}' can only be used once at this location."
  | .extendedOtherKind kind name => s!"Cannot extend non-{kind.word} type '{name}'."
  | .extendedUnknown name options =>
    s!"Cannot extend type '{name}' because it is not defined.{Text.didYouMean name options}"
  | .unknownArgument argument directive options =>
    s!"Unknown argument '{argument}' on directive '@{directive}'.{Text.didYouMean argument options}"
  | .repeatedArgument name => s!"There can be only one argument named '{name}'."
  | .repeatedInputField name => s!"There can be only one input field named '{name}'."
  | .missingArgument directive argument type =>
    s!"Argument '@{directive}({argument}:)' of type '{type.text}' is required, but it was not provided."

/-- A stop on the walk through a document. -/
inductive Visit where
  | definition (d : Definition)
  /-- A part other than a definition, with its directives. -/
  | part (directives : List Directive)
  /-- A type mentioned by name, in a part that belongs to the schema or in one that queries. -/
  | typeName (inSchema : Bool) (name : String)
  | directive (place : String) (d : Directive)
  | directiveEnd (d : Directive)
  /-- The arguments of a field that is queried. -/
  | fieldArguments (names : List String)
  /-- A field of a written object, and whether an earlier one has its name. -/
  | objectField (repeated : Bool) (name : String)

namespace Visit

mutual

/-- The stops inside a written value. -/
def ofLiteral : Literal → List Visit
  | .list items => ofItems items
  | .object fields => ofFields [] fields
  | _ => []

/-- The stops inside the items of a list. -/
def ofItems : List Literal → List Visit
  | [] => []
  | v :: rest => ofLiteral v ++ ofItems rest

/-- The stops at the fields of an object, after fields of the given names. -/
def ofFields (before : List String) : List (String × Literal) → List Visit
  | [] => []
  | (k, v) :: rest =>
    .objectField (before.contains k) k :: ofLiteral v ++ ofFields (k :: before) rest

end

/-- The stops at directives in a place. -/
def ofDirectives (place : String) (ds : List Directive) : List Visit :=
  ds.flatMap fun d =>
    .directive place d :: d.arguments.flatMap (fun a => ofLiteral a.value) ++ [.directiveEnd d]

/-- The stops at an optional default. -/
def ofDefault (v : Option Literal) : List Visit := (v.map ofLiteral).getD []

/-- The stops at an argument's or an input field's definition. -/
def ofInput (place : String) (d : InputDefinition) : List Visit :=
  .part d.directives :: .typeName true d.type.name :: ofDefault d.default
    ++ ofDirectives place d.directives

/-- The stops at a field's definition. -/
def ofField (d : FieldDefinition) : List Visit :=
  .part d.directives :: d.arguments.flatMap (ofInput "ARGUMENT_DEFINITION")
    ++ .typeName true d.type.name :: ofDirectives "FIELD_DEFINITION" d.directives

/-- The stops at an enum value's definition. -/
def ofEnumValue (d : EnumValueDefinition) : List Visit :=
  .part d.directives :: ofDirectives "ENUM_VALUE" d.directives

/-- The stops inside the definition or an extension of a type. -/
def ofType (d : TypeDefinition) : List Visit :=
  match d.body with
  | .scalar => ofDirectives "SCALAR" d.directives
  | .object interfaces fields =>
    interfaces.map (.typeName true) ++ ofDirectives "OBJECT" d.directives ++ fields.flatMap ofField
  | .interface interfaces fields =>
    interfaces.map (.typeName true) ++ ofDirectives "INTERFACE" d.directives ++ fields.flatMap ofField
  | .union members => ofDirectives "UNION" d.directives ++ members.map (.typeName true)
  | .enum values => ofDirectives "ENUM" d.directives ++ values.flatMap ofEnumValue
  | .input fields =>
    ofDirectives "INPUT_OBJECT" d.directives ++ fields.flatMap (ofInput "INPUT_FIELD_DEFINITION")

mutual

/-- The stops at an entry of a selection set. -/
def ofSelection : Selection → List Visit
  | .field _ _ arguments directives selections =>
    .part directives :: .fieldArguments (arguments.map Argument.name)
      :: arguments.flatMap (fun a => ofLiteral a.value)
      ++ ofDirectives "FIELD" directives
      ++ (match selections with
        | some ss => ofSelections ss
        | none => [])
  | .spread _ directives => .part directives :: ofDirectives "FRAGMENT_SPREAD" directives
  | .inline condition directives selections =>
    .part directives :: (condition.map (fun n => Visit.typeName false n)).toList
      ++ ofDirectives "INLINE_FRAGMENT" directives ++ ofSelections selections

/-- The stops at the entries of a selection set. -/
def ofSelections : List Selection → List Visit
  | [] => []
  | s :: rest => ofSelection s ++ ofSelections rest

end

/-- The stops at the declaration of a variable. -/
def ofVariable (d : VariableDefinition) : List Visit :=
  .part d.directives :: .typeName false d.type.name :: ofDefault d.default
    ++ ofDirectives "VARIABLE_DEFINITION" d.directives

/-- The stops inside a definition. -/
def insideDefinition : Definition → List Visit
  | .operation d =>
    d.variableDefinitions.flatMap ofVariable
      ++ ofDirectives (String.ofList (d.kind.word.toList.map Char.toUpper)) d.directives
      ++ ofSelections d.selections
  | .fragment d =>
    .typeName false d.condition :: ofDirectives "FRAGMENT_DEFINITION" d.directives
      ++ ofSelections d.selections
  | .schema _ directives roots | .schemaExtension directives roots =>
    ofDirectives "SCHEMA" directives ++ roots.map fun r => .typeName true r.type
  | .type d | .typeExtension d => ofType d
  | .directive d =>
    d.arguments.flatMap (ofInput "ARGUMENT_DEFINITION")
      ++ ofDirectives "DIRECTIVE_DEFINITION" d.directives
  | .directiveExtension _ directives => ofDirectives "DIRECTIVE_DEFINITION" directives

end Visit

namespace Document

/-- The stops on a walk through a document. -/
def visits (doc : Document) : List Visit :=
  doc.flatMap fun d => .definition d :: Visit.insideDefinition d

/-- The definitions of types, extensions left out. -/
def typeDefinitions (doc : Document) : List TypeDefinition :=
  doc.filterMap fun
    | .type d => some d
    | _ => none

/-- The definitions of directives. -/
def directiveDefinitions (doc : Document) : List DirectiveDefinition :=
  doc.filterMap fun
    | .directive d => some d
    | _ => none

/-- What a rule has to know of a directive. -/
structure DirectiveFacts where
  locations : List String
  repeatable : Bool
  arguments : List String
  /-- The arguments that have to be given, with their types. -/
  required : List (String × TypeRef)

/-- The facts about a directive: from its last definition in the document, else from those that
every schema has. -/
def directiveFacts? (doc : Document) (name : String) : Option DirectiveFacts :=
  match doc.directiveDefinitions.reverse.find? fun d => d.name == name with
  | some d =>
    some { locations := d.locations, repeatable := d.repeatable
           arguments := d.arguments.map InputDefinition.name
           required := d.arguments.filterMap fun a =>
             if a.type.isNonNull && a.default.isNone then some (a.name, a.type) else none }
  | none =>
    (Standard.directives.find? fun d => d.name == name).map fun d =>
      { locations := d.locations, repeatable := d.repeatable
        arguments := d.arguments.map InputValue.name
        required := d.arguments.filterMap fun a =>
          if a.type.isNonNull && a.default.isNone then some (a.name, a.type) else none }

/-- What was met so far on the walk. -/
structure Seen where
  schema : Bool := false
  roots : List OperationKind := []
  types : List String := []
  enumValues : List (String × String) := []
  fields : List (String × String) := []
  directives : List String := []
  onSchema : List String := []
  onTypes : List (String × String) := []
  onDirectives : List (String × String) := []

/-- Goes through entries of which each may occur once: reports those met before and remembers the
others. -/
def once [BEq α] (report : α → Violation) (seen : List α) : List α → List α × List Violation
  | [] => (seen, [])
  | x :: rest =>
    if seen.contains x then
      let (seen, vs) := once report seen rest
      (seen, report x :: vs)
    else once report (x :: seen) rest

/-- The names that occur more than once, in the order of their first occurrence. -/
def repeated (names : List String) : List String :=
  names.eraseDups.filter fun n => 1 < names.count n

/-- The directives among the given ones that may stand only once in a place. -/
def onlyOnce (doc : Document) (ds : List Directive) : List String :=
  (ds.map Directive.name).filter fun n =>
    match doc.directiveFacts? n with
    | some facts => !facts.repeatable
    | none => false

/-- Breaches of the rule that roots are defined once. -/
def checkRoots (seen : Seen) (roots : List RootDefinition) : Seen × List Violation :=
  let (kinds, vs) := once .secondRoot seen.roots (roots.map RootDefinition.kind)
  ({ seen with roots := kinds }, vs)

/-- Breaches among the directives of the schema. -/
def checkSchemaDirectives (doc : Document) (seen : Seen) (ds : List Directive) :
    Seen × List Violation :=
  let (names, vs) := once .repeatedDirective seen.onSchema (doc.onlyOnce ds)
  ({ seen with onSchema := names }, vs)

/-- Breaches among the directives of a type and its extensions. -/
def checkTypeDirectives (doc : Document) (seen : Seen) (d : TypeDefinition) : Seen × List Violation :=
  let (names, vs) := once (fun (p : String × String) => .repeatedDirective p.2) seen.onTypes
    ((doc.onlyOnce d.directives).map fun n => (d.name, n))
  ({ seen with onTypes := names }, vs)

/-- Breaches among the directives of a directive and its extensions. -/
def checkDirectiveDirectives (doc : Document) (seen : Seen) (name : String) (ds : List Directive) :
    Seen × List Violation :=
  let (names, vs) := once (fun (p : String × String) => .repeatedDirective p.2) seen.onDirectives
    ((doc.onlyOnce ds).map fun n => (name, n))
  ({ seen with onDirectives := names }, vs)

/-- Breaches among the arguments of one owner. -/
def checkArguments (owner : String) (arguments : List InputDefinition) : List Violation :=
  (repeated (arguments.map InputDefinition.name)).map (.secondArgument owner)

/-- Breaches among the values, fields and arguments of a type. -/
def checkMembers (seen : Seen) (d : TypeDefinition) : Seen × List Violation :=
  match d.body with
  | .enum values =>
    let (all, vs) := once (fun (p : String × String) => .secondEnumValue p.1 p.2) seen.enumValues
      (values.map fun v => (d.name, v.name))
    ({ seen with enumValues := all }, vs)
  | .object _ fields | .interface _ fields =>
    let (all, vs) := once (fun (p : String × String) => .secondField p.1 p.2) seen.fields
      (fields.map fun f => (d.name, f.name))
    ({ seen with fields := all },
      vs ++ fields.flatMap fun f => checkArguments (d.name ++ "." ++ f.name) f.arguments)
  | .input fields =>
    let (all, vs) := once (fun (p : String × String) => .secondField p.1 p.2) seen.fields
      (fields.map fun f => (d.name, f.name))
    ({ seen with fields := all }, vs)
  | _ => (seen, [])

/-- Breaches of the rule that an extension fits the last definition of its type. -/
def checkExtension (doc : Document) (d : TypeDefinition) : List Violation :=
  match doc.typeDefinitions.reverse.find? fun t => t.name == d.name with
  | some t => if t.body.kind = d.body.kind then [] else [.extendedOtherKind d.body.kind d.name]
  | none => [.extendedUnknown d.name (doc.typeDefinitions.map TypeDefinition.name)]

/-- Breaches at a definition as a whole. -/
def checkDefinition (doc : Document) (seen : Seen) : Definition → Seen × List Violation
  | .operation d => (seen, (once .repeatedDirective [] (doc.onlyOnce d.directives)).2)
  | .fragment d => (seen, (once .repeatedDirective [] (doc.onlyOnce d.directives)).2)
  | .schema _ directives roots =>
    let lone := if seen.schema then [.secondSchema] else []
    let (seen, vs) := checkRoots { seen with schema := true } roots
    let (seen, ws) := checkSchemaDirectives doc seen directives
    (seen, lone ++ vs ++ ws)
  | .schemaExtension directives roots =>
    let (seen, vs) := checkRoots seen roots
    let (seen, ws) := checkSchemaDirectives doc seen directives
    (seen, vs ++ ws)
  | .type d =>
    let (types, us) := once .secondType seen.types [d.name]
    let (seen, vs) := checkMembers { seen with types } d
    let (seen, ws) := checkTypeDirectives doc seen d
    (seen, us ++ vs ++ ws)
  | .typeExtension d =>
    let (seen, vs) := checkMembers seen d
    let (seen, ws) := checkTypeDirectives doc seen d
    (seen, vs ++ ws ++ checkExtension doc d)
  | .directive d =>
    let (directives, vs) := once .secondDirective seen.directives [d.name]
    let (seen, ws) := checkDirectiveDirectives doc { seen with directives } d.name d.directives
    (seen, checkArguments ("@" ++ d.name) d.arguments ++ vs ++ ws)
  | .directiveExtension name directives => checkDirectiveDirectives doc seen name directives

/-- Breaches at a mention of a type. -/
def checkTypeName (doc : Document) (inSchema : Bool) (name : String) : List Violation :=
  let defined := doc.typeDefinitions.map TypeDefinition.name
  if defined.contains name || (inSchema && Standard.isStandard name) then []
  else
    let standard := if inSchema then Standard.types.map NamedType.name else []
    [.unknownType name (standard ++ defined)]

/-- Breaches at a directive, before its arguments. -/
def checkDirective (doc : Document) (place : String) (d : Directive) : List Violation :=
  let names := d.arguments.map Argument.name
  match doc.directiveFacts? d.name with
  | none => .unknownDirective d.name :: (repeated names).map .repeatedArgument
  | some facts =>
    (if facts.locations.contains place then [] else [.misplacedDirective d.name place])
      ++ (names.filter fun n => !facts.arguments.contains n).map
          (fun n => .unknownArgument n d.name facts.arguments)
      ++ (repeated names).map .repeatedArgument

/-- Breaches at a directive, after its arguments. -/
def checkDirectiveEnd (doc : Document) (d : Directive) : List Violation :=
  match doc.directiveFacts? d.name with
  | none => []
  | some facts =>
    (facts.required.filter fun r => !d.arguments.any fun a => a.name == r.1).map
      fun r => .missingArgument d.name r.1 r.2

/-- Breaches at a stop of the walk. -/
def check (doc : Document) (seen : Seen) : Visit → Seen × List Violation
  | .definition d => checkDefinition doc seen d
  | .part directives => (seen, (once .repeatedDirective [] (doc.onlyOnce directives)).2)
  | .typeName inSchema name => (seen, checkTypeName doc inSchema name)
  | .directive place d => (seen, checkDirective doc place d)
  | .directiveEnd d => (seen, checkDirectiveEnd doc d)
  | .fieldArguments names => (seen, (repeated names).map .repeatedArgument)
  | .objectField true name => (seen, [.repeatedInputField name])
  | .objectField false _ => (seen, [])

/-- The breaches along the rest of a walk. -/
def violationsFrom (doc : Document) (seen : Seen) : List Visit → List Violation
  | [] => []
  | v :: rest =>
    let (seen, vs) := check doc seen v
    vs ++ violationsFrom doc seen rest

/-- What is wrong with a document, in the order of its text. -/
def violations (doc : Document) : List Violation := violationsFrom doc {} doc.visits

end Document

end QueryTools
