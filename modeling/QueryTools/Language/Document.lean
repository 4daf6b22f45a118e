import QueryTools.Language.TypeRef

/-!
# Documents

A document of the query language is a list of definitions: operations and fragments that query,
and definitions and extensions that make up a schema.
-/

namespace QueryTools

/-- A value as documents write it. -/
inductive Literal where
  | variable (name : String)
  | int (text : String)
  | float (text : String)
  | string (text : String) (block : Bool)
  | boolean (value : Bool)
  | null
  | enum (name : String)
  | list (items : List Literal)
  | object (fields : List (String × Literal))
  deriving Repr, Inhabited

/-- An argument and where in the text its value stands. -/
structure Argument where
  name : String
  value : Literal
  position : Nat
  deriving Repr

/-- A directive on a part of a document, and where in the text it stands. -/
structure Directive where
  name : String
  arguments : List Argument
  position : Nat
  deriving Repr

/-- The kinds of operations. -/
inductive OperationKind where
  | query
  | mutation
  | subscription
  deriving DecidableEq, Repr, Inhabited

namespace OperationKind

/-- The word that introduces an operation of the kind. -/
def word : OperationKind → String
  | .query => "query"
  | .mutation => "mutation"
  | .subscription => "subscription"

/-- The kind that a word introduces. -/
def ofWord? : String → Option OperationKind
  | "query" => some .query
  | "mutation" => some .mutation
  | "subscription" => some .subscription
  | _ => none

end OperationKind

/-- One entry of a selection set. -/
inductive Selection where
  /-- A field; without braces after it there are no selections. -/
  | field (label : Option String) (name : String) (arguments : List Argument)
      (directives : List Directive) (selections : Option (List Selection))
  | spread (fragment : String) (directives : List Directive)
  | inline (condition : Option String) (directives : List Directive) (selections : List Selection)
  deriving Repr

/-- The declaration of a variable of an operation. -/
structure VariableDefinition where
  name : String
  type : TypeRef
  default : Option Literal
  directives : List Directive
  deriving Repr

/-- An operation. -/
structure OperationDefinition where
  kind : OperationKind
  name : Option String
  variableDefinitions : List VariableDefinition
  directives : List Directive
  selections : List Selection
  deriving Repr

/-- A named selection set. -/
structure FragmentDefinition where
  name : String
  condition : String
  directives : List Directive
  selections : List Selection
  deriving Repr

/-- An argument of a field or a directive, or a field of an input object. -/
structure InputDefinition where
  description : Option String
  name : String
  type : TypeRef
  default : Option Literal
  directives : List Directive
  deriving Repr

/-- A field of an object or an interface. -/
structure FieldDefinition where
  description : Option String
  name : String
  arguments : List InputDefinition
  type : TypeRef
  directives : List Directive
  deriving Repr

/-- A value of an enum. -/
structure EnumValueDefinition where
  description : Option String
  name : String
  directives : List Directive
  deriving Repr

/-- The kinds of named types. -/
inductive TypeKind where
  | scalar
  | object
  | interface
  | union
  | enum
  | input
  deriving DecidableEq, Repr

/-- What a named type is made of. -/
inductive TypeBody where
  | scalar
  | object (interfaces : List String) (fields : List FieldDefinition)
  | interface (interfaces : List String) (fields : List FieldDefinition)
  | union (members : List String)
  | enum (values : List EnumValueDefinition)
  | input (fields : List InputDefinition)
  deriving Repr

/-- The kind of type that a body makes. -/
def TypeBody.kind : TypeBody → TypeKind
  | .scalar => .scalar
  | .object .. => .object
  | .interface .. => .interface
  | .union _ => .union
  | .enum _ => .enum
  | .input _ => .input

/-- The definition, or an extension, of a named type. -/
structure TypeDefinition where
  description : Option String
  name : String
  directives : List Directive
  body : TypeBody
  deriving Repr

/-- The object type at which operations of a kind start. -/
structure RootDefinition where
  kind : OperationKind
  type : String
  deriving Repr

/-- The places where directives may stand. -/
def directiveLocations : List String :=
  ["QUERY", "MUTATION", "SUBSCRIPTION", "FIELD", "FRAGMENT_DEFINITION", "FRAGMENT_SPREAD",
   "INLINE_FRAGMENT", "VARIABLE_DEFINITION", "FRAGMENT_VARIABLE_DEFINITION", "SCHEMA", "SCALAR",
   "OBJECT", "FIELD_DEFINITION", "ARGUMENT_DEFINITION", "INTERFACE", "UNION", "ENUM", "ENUM_VALUE",
   "INPUT_OBJECT", "INPUT_FIELD_DEFINITION", "DIRECTIVE_DEFINITION"]

/-- The definition of a directive. -/
structure DirectiveDefinition where
  description : Option String
  name : String
  arguments : List InputDefinition
  directives : List Directive
  repeatable : Bool
  locations : List String
  deriving Repr

/-- One definition of a document. -/
inductive Definition where
  | operation (definition : OperationDefinition)
  | fragment (definition : FragmentDefinition)
  | schema (description : Option String) (directives : List Directive) (roots : List RootDefinition)
  | type (definition : TypeDefinition)
  | directive (definition : DirectiveDefinition)
  | schemaExtension (directives : List Directive) (roots : List RootDefinition)
  | typeExtension (definition : TypeDefinition)
  | directiveExtension (name : String) (directives : List Directive)
  deriving Repr

namespace Definition

/-- The operation that a definition is, if it is one. -/
def operation? : Definition → Option OperationDefinition
  | .operation d => some d
  | _ => none

/-- The name that a definition gives or extends. -/
def name? : Definition → Option String
  | .operation d => d.name
  | .fragment d => some d.name
  | .schema .. => none
  | .type d => some d.name
  | .directive d => some d.name
  | .schemaExtension .. => none
  | .typeExtension d => some d.name
  | .directiveExtension name _ => some name

end Definition

/-- A document. -/
abbrev Document := List Definition

/-- Whether a document defines an operation of the kind mutation, alone or among others. -/
def Document.hasMutation (d : Document) : Bool :=
  d.any fun definition => definition.operation?.any fun o => o.kind = .mutation

end QueryTools
