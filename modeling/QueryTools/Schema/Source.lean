import QueryTools.Http.Exchange
import QueryTools.Schema.Printer
import QueryTools.Settings.Basic

/-!
# Where the schema comes from

A schema is read from a file if the settings name one, and otherwise asked of the endpoint by an
introspection query.  `Settings.loadSchema` does the one or the other.
-/

namespace QueryTools

namespace IntrospectionQuery

/-- A part of a query with what stands between its braces. -/
def block (head : String) (entries : List String) : String :=
  head ++ " \x7b " ++ " ".intercalate entries ++ " \x7d"

/-- What is asked of a reference to a type that has at most the given number of others inside. -/
def reference : Nat → List String
  | 0 => ["kind", "name"]
  | depth + 1 => ["kind", "name", block "ofType" (reference depth)]

/-- What is asked of an argument or an input field. -/
def inputValue : List String :=
  ["name", "description", block "type" ["...TypeRef"], "defaultValue"]

/-- What is asked of a field. -/
def field : List String :=
  ["name", "description", block "args" ["...InputValue"], block "type" ["...TypeRef"],
    "isDeprecated", "deprecationReason"]

/-- What is asked of a type. -/
def type : List String :=
  ["kind", "name", "description", block "fields(includeDeprecated: true)" field,
    block "inputFields" ["...InputValue"], block "interfaces" ["...TypeRef"],
    block "enumValues(includeDeprecated: true)"
      ["name", "description", "isDeprecated", "deprecationReason"],
    block "possibleTypes" ["...TypeRef"]]

/-- What is asked of the schema. -/
def schema : List String :=
  [block "queryType" ["name", "kind"], block "mutationType" ["name", "kind"],
    block "subscriptionType" ["name", "kind"], block "types" ["...FullType"],
    block "directives"
      ["name", "description", "locations", block "args" ["...InputValue"]]]

/-- The text of the query. -/
def text : String :=
  "\n".intercalate
    [block "query IntrospectionQuery" [block "__schema" schema],
      block "fragment FullType on __Type" type,
      block "fragment InputValue on __InputValue" inputValue,
      block "fragment TypeRef on __Type" (reference 9)]

/-- The request that asks an address for a schema. -/
def request (url : String) (headers : Keyed String) : Request :=
  ⟨url, Headers.build headers none none, .obj [("query", .str text)]⟩

end IntrospectionQuery

namespace Schema

/-- The name under which loading is logged. -/
def logger : String := moduleLogger "schema_source"

/-- Milliseconds with one decimal, from tenths of them. -/
def durationText (tenths : Nat) : String := s!"{tenths / 10}.{tenths % 10}ms"

/-- Asks an address for its schema, over the given connection or else over one that is opened for
the request alone. -/
def ofEndpoint (client : Option Client) (url : String) (headers : Keyed String) :
    Action Schema := do
  Action.say .info logger s!"Introspecting GraphQL schema at {url}"
  let request := IntrospectionQuery.request url headers
  let payload ← match client with
    | some client => request.exchange client
    | none => do
      Action.emit (.opened .temporary ClientOptions.defaultTimeout)
      (request.exchange .temporary).thenAlways (.closed .temporary)
  let schema ← Action.ofResult
    ((Schema.ofIntrospection (.obj payload)).mapError Failure.introspection)
  let around ← Action.surroundings
  Action.say .info logger
    s!"Introspection complete in {durationText around.duration}. Types: {schema.typeCount}"
  return schema

/-- The schema that a text defines. -/
def parse (text : String) : Except Failure Schema :=
  (Schema.ofText text).mapError (Failure.schema text)

/-- The schema as a document, where the values of all its enums can be told. -/
def print (s : Schema) : Except Failure String :=
  match s.valuesFault? with
  | some text => .error (.untoldValues text)
  | none => .ok s.text

/-- The schema that the bytes of a file define. -/
def ofBytes (bytes : List UInt8) : Except Failure Schema := do
  let cs ← (Utf8.decode bytes).mapError Failure.undecodable
  parse (String.ofList (Text.unifyLineEnds cs))

/-- The schema that a file defines. -/
def ofFile (path : String) : Action Schema := do
  Action.say .info logger s!"Loading GraphQL schema from {path}"
  let around ← Action.surroundings
  let bytes ← Action.ofResult ((around.read path).mapError (Failure.unreadableFile path))
  Action.ofResult (ofBytes bytes)

end Schema

/-- Loads the schema that the settings point to. -/
def Settings.loadSchema (s : Settings) (client : Option Client) : Action Schema :=
  match s.schemaFile? with
  | some path => Schema.ofFile path
  | none => Schema.ofEndpoint client s.endpoint s.requestHeaders

end QueryTools
