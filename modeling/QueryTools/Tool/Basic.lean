import QueryTools.Tool.Document
import QueryTools.Tool.Description
import QueryTools.Shape.Mapping
import QueryTools.Shape.Validation
import QueryTools.Members

/-!
# Tools

A tool offers one operation to clients.  Under one convention the client writes the query text
and gives variables; under the other it gives the arguments alone and the tool brings its document.
`Synthesizer.synthesize` makes the tool of an operation, `Tool.validate` checks the arguments of a
call against the tool's shape.
-/

namespace QueryTools

/-- How a tool is called. -/
inductive Convention where
  /-- With the text of a query and its variables. -/
  | query
  /-- With the arguments of the operation. -/
  | arguments
  deriving DecidableEq, Repr, Inhabited

namespace Convention

/-- The word for a convention. -/
def word : Convention → String
  | .query => "query"
  | .arguments => "arguments"

/-- Both conventions. -/
def all : List Convention := [.query, .arguments]

/-- The convention of a word. -/
def ofWord? (word : String) : Option Convention := all.find? fun c => c.word == word

end Convention

/-- The arguments that a call brings, if any, as members of an object. -/
def readArguments (raw : Json) : Except Failure Members :=
  if raw.isTruthy then Members.ofJson raw else .ok []

/-- The arguments of a call of a named tool as far as they were given, if they fit its fields. -/
def checkArguments (tool : String) (fields : List (Member Shape)) (raw : Json) :
    Except Failure Members := do
  let members ← readArguments raw
  match Shape.checkFields tool [] fields members with
  | .ok checked => return Shape.givenOf checked
  | .error issues => throw (.badArguments tool issues)

/-- A tool for an operation. -/
structure Tool where
  name : String
  /-- A text, or whatever else a server gives in its place. -/
  description : Json
  operation : Operation
  /-- The fields of the object that a call takes. -/
  fields : List (Member Shape)
  convention : Convention
  /-- A document that runs the operation with all its arguments. -/
  document : String
  deriving Repr, Inhabited

namespace Tool

/-- The shape of the object that a call takes. -/
def shape (t : Tool) : Shape := .object t.fields {}

/-- The JSON Schema of the object that a call takes. -/
def inputSchema (t : Tool) : Json := t.shape.schema

/-- The arguments of a call as far as they were given, if they have the tool's shape. -/
def validate (t : Tool) (raw : Json) : Except Failure Members :=
  checkArguments t.name t.fields raw

end Tool

/-- The name of the tool for an operation. -/
def Operation.toolName (o : Operation) : String := o.kind.word ++ "-" ++ o.name

/-- How tools are made. -/
structure Synthesizer where
  convention : Convention := .query
  /-- Whether descriptions tell of parameters and results. -/
  describe : Bool := true
  /-- How deep the documents of tools enter objects. -/
  depth : Nat := 3
  deriving Repr

namespace Synthesizer

/-- The description of the tool for an operation: a text that tells of parameters and results, or else what
the operation has for a description. -/
def description (y : Synthesizer) (s : Schema) (o : Operation) : Json :=
  if y.describe then
    .str (o.describe s ++ match y.convention with
      | .query => "\n\nEXAMPLE QUERY:\n" ++ o.document s y.depth
      | .arguments => "")
  else o.ownDescription

/-- The fields that a call of the tool for an operation takes. -/
def fields (y : Synthesizer) (s : Schema) (o : Operation) : List (Member Shape) :=
  let parameters := Shape.fieldsOf s Shape.defaultDepth o.parameters
  match y.convention with
  | .query =>
    [{ name := "query", required := true
       shape := .string []
        { description := some (.str s!"GraphQL document invoking the {o.name} {o.kind.word}") } },
     { name := "variables", required := !(Shape.requiredNames parameters).isEmpty
       shape := .object parameters {} }]
  | .arguments => parameters

/-- What keeps the tool for an operation from being made, if anything does: its document is made before the
shapes of its parameters. -/
def obstacle? (y : Synthesizer) (s : Schema) (o : Operation) : Option Failure :=
  match o.makeDocument s y.depth with
  | .error fault => some (.roots fault)
  | .ok _ => Shape.obstacle? s Shape.defaultDepth o.parameters

/-- The tool for an operation.  The operation has to have a name, and its document and the shapes of its
parameters have to be made. -/
def synthesize (y : Synthesizer) (s : Schema) (o : Operation) : Except Failure Tool :=
  if o.name = "" then .error .unnamedOperation
  else
    match y.obstacle? s o with
    | some failure => .error failure
    | none =>
      .ok { name := o.toolName, description := y.description s o, operation := o
            fields := y.fields s o, convention := y.convention, document := o.document s y.depth }

end Synthesizer

end QueryTools
