import QueryTools.Gateway
import QueryTools.Schema.Source
import QueryTools.Schema.Printer
import QueryTools.Toolset

/-!
# The server

A server holds a schema and the tools made for it, which change together: where loading the schema
or building the tools fails, both stay as they were.  Beside the tools of the toolset there are two
of the server's own, one that loads the schema anew and one that runs any query.

Main statement: a call of any other tool leaves the server as it was (`Server.eq_of_call`).
-/

namespace QueryTools

/-- A server in one of its states. -/
structure Server where
  settings : Settings
  /-- The connection that all requests go through. -/
  client : Client
  schema : Option Schema
  toolset : Toolset

/-- A tool of the server's own. -/
structure OwnTool where
  name : String
  description : String
  fields : List (Member Shape)

namespace OwnTool

/-- The tool that loads the schema anew.  Its field is there for clients that cannot send an empty
object. -/
def introspect : OwnTool where
  name := "introspect-schema"
  description := "Introspect the GraphQL schema, use this tool before doing a query to get the "
    ++ "schema information if you do not have it available as a resource already."
  fields := [{ name := "__ignore__", required := false
               shape := .boolean ⟨some (.str "This does not do anything"), some (.bool false)⟩ }]

/-- The tool that runs any query. -/
def query : OwnTool where
  name := "query-graphql"
  description := "Query a GraphQL endpoint with the given query and variables."
  fields :=
    [{ name := "query", required := true
       shape := .string [] ⟨some (.str "GraphQL document to execute"), none⟩ },
      { name := "variables", required := false
        shape := .any ⟨some (.str "Variables object, or a JSON string encoding one"), none⟩ }]

/-- The tools of the server's own. -/
def all : List OwnTool := [introspect, query]

end OwnTool

/-- What a client is told of a tool. -/
structure Manifest where
  name : String
  description : String
  inputSchema : Json
  deriving Repr

/-- What a client is told of a tool of the server's own. -/
def OwnTool.manifest (t : OwnTool) : Manifest :=
  ⟨t.name, t.description, (Shape.object t.fields {}).schema⟩

/-- What a client is told of a tool, which has to be described by a text. -/
def Tool.manifest (t : Tool) : Except Failure Manifest :=
  match t.description with
  | .str text => .ok ⟨t.name, text, t.inputSchema⟩
  | _ => .error (.badManifest [⟨[.name "description"], .notString⟩])

namespace Server

/-- The version of the server. -/
def version : String := "1.0.0"

/-- The name under which the server logs. -/
def logger : String := moduleLogger "server"

/-- A server that has loaded nothing yet. -/
def new (settings : Settings) (client : Client) : Server :=
  { settings, client, schema := none
    toolset := .empty (.ofSettings settings (OwnTool.all.map OwnTool.name)) }

/-- What clients are told of the server. -/
def instructions (v : Server) : String := s!"GraphQL MCP server for {v.settings.endpoint}"

/-- The server with another schema and its tools. -/
def install (v : Server) (build : Toolset → Schema → Action Toolset) (schema : Schema) :
    Action Server := do
  let toolset ← build v.toolset schema
  return { v with schema := some schema, toolset }

/-- Says so if the schema is in a file although an endpoint was given too. -/
def warnOfFile (v : Server) : Action Unit :=
  match v.settings.schemaFile? with
  | some path =>
    if v.settings.given.contains .endpoint then
      Action.say .warning logger
        ("Both a schema file and an endpoint are configured; loading the schema from " ++ path)
    else pure ()
  | none => pure ()

/-- Loads the schema for the first time. -/
def start (v : Server) : Action Server := do
  v.warnOfFile
  let schema ← v.settings.loadSchema (some v.client)
  let started ← v.install Toolset.build schema
  Action.say .info logger
    s!"Started graphql mcp server {v.settings.name} for endpoint: {v.settings.endpoint}"
  return started

/-- Loads the schema anew, and gives its text.  A schema whose text cannot be given is installed all
the same. -/
def refresh (v : Server) : Action (Server × Except Failure String) := do
  let schema ← v.settings.loadSchema (some v.client)
  let refreshed ← v.install Toolset.reload schema
  return (refreshed, schema.print)

/-- The text of the schema. -/
def schemaText (v : Server) : Except Failure String :=
  match v.schema with
  | some schema => schema.print
  | none => .error .schemaNotLoaded

/-- What clients are told of all tools, the server's own first, if they can be told of each. -/
def manifests (v : Server) : Except Failure (List Manifest) := do
  let made ← v.toolset.tools.mapM fun p => p.2.manifest
  return OwnTool.all.map OwnTool.manifest ++ made

/-- Runs a query and gives the answer as text. -/
def run (v : Server) (query : String) (vars : Except Failure (Option Variables)) :
    Action String := do
  let answer ← fun s => ((Gateway.sharing v.settings v.client).execute query vars s).2
  return (Json.obj answer).indented

/-- The text of an argument that has been checked to be one. -/
def textArgument (name : String) (arguments : Members) : String :=
  ((Keyed.get? name arguments).bind Json.str?).getD ""

/-- The query and the variables that a call of a tool leads to. -/
def toolQuery (tool : Tool) (arguments : Members) : String × Option Variables :=
  match tool.convention with
  | .query =>
    let vars := (Keyed.get? "variables" arguments).bind Json.obj?
    (textArgument "query" arguments, vars.map Variables.ofMembers)
  | .arguments => (tool.document, some (.ofMembers arguments))

/-- The query and the variables that a call leads to whose arguments are looked at, of any tool but the one
that loads the schema anew. -/
def submission (v : Server) (name : String) (arguments : Json) :
    Except Failure (String × Option Variables) :=
  if name = OwnTool.query.name then do
    let given ← checkArguments name OwnTool.query.fields arguments
    let vars ← Variables.ofJson ((Keyed.get? "variables" given).getD .null)
    return (textArgument "query" given, vars)
  else
    match v.toolset.lookup name with
    | none => .error (.toolNotFound name)
    | some tool => do
      let given ← tool.validate arguments
      return toolQuery tool given

/-- Why the arguments of a call are not looked at, if they are not: the check for them is built first. -/
def exhaustion? (v : Server) (s : Surroundings) (name : String) : Option Failure :=
  if name = OwnTool.query.name then none
  else
    ((v.toolset.lookup name).filter fun tool => s.exhausts tool.fields).map fun _ =>
      .tooDeep "maximum recursion depth exceeded"

/-- What a call leads to in surroundings, of any tool but the one that loads the schema anew. -/
def submit (v : Server) (s : Surroundings) (name : String) (arguments : Json) :
    Except Failure (String × Option Variables) :=
  match v.exhaustion? s name with
  | some failure => .error failure
  | none => v.submission name arguments

theorem submit_eq_ok {v : Server} {s : Surroundings} {name : String} {arguments : Json}
    {submitted : String × Option Variables} :
    v.submit s name arguments = .ok submitted ↔
      v.exhaustion? s name = none ∧ v.submission name arguments = .ok submitted := by
  unfold submit
  cases v.exhaustion? s name <;> simp

/-- What is refused is refused for the arguments, or because they are not looked at. -/
theorem submit_eq_error {v : Server} {s : Surroundings} {name : String} {arguments : Json} {f : Failure}
    (refused : v.submit s name arguments = .error f) :
    (∃ text, f = .tooDeep text) ∨ v.submission name arguments = .error f := by
  unfold submit exhaustion? at refused
  split at refused
  · rename_i failure exhausted
    cases refused
    split at exhausted
    · cases exhausted
    · obtain ⟨_, -, rfl⟩ := Option.map_eq_some_iff.1 exhausted
      exact .inl ⟨_, rfl⟩
  · exact .inr refused

/-- Calls a tool, and gives the server as it is then and the text of the result. -/
def call (v : Server) (name : String) (arguments : Json) :
    Action (Server × Except Failure String) := do
  Action.say .info logger s!"Calling tool {name}"
  if name = OwnTool.introspect.name then
    let _ ← Action.ofResult (checkArguments name OwnTool.introspect.fields arguments)
    v.refresh
  else
    let around ← Action.surroundings
    let (query, vars) ← Action.ofResult (v.submit around name arguments)
    return (v, .ok (← v.run query (.ok vars)))

/-- Only the tool that loads the schema anew changes the server. -/
theorem eq_of_call {v w : Server} {name : String} {arguments : Json} {s : Surroundings}
    {outcome : Except Failure String} (other : name ≠ OwnTool.introspect.name)
    (h : (v.call name arguments s).result = .ok (w, outcome)) : w = v := by
  unfold call at h
  simp only [other, if_false] at h
  obtain ⟨_, _, h⟩ := Action.result_bind_eq_ok.1 h
  obtain ⟨_, _, h⟩ := Action.result_bind_eq_ok.1 h
  obtain ⟨_, _, h⟩ := Action.result_bind_eq_ok.1 h
  obtain ⟨_, _, h⟩ := Action.result_bind_eq_ok.1 h
  simp only [Action.result_pure, Except.ok.injEq, Prod.mk.injEq] at h
  exact h.1.symm

end Server

end QueryTools
