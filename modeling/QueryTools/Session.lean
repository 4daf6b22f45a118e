import QueryTools.Http.Address
import QueryTools.Json.Conformance
import QueryTools.Server

/-!
# Sessions

A server as a client deals with it.  The client is told of the tools, calls them, and reads the
schema as a resource.  Before a call its arguments are held against the schema of the tool as the
client was last told of it, so a client that has an old list is refused by the old schema.  A client
that does not know the tool is told of all tools before, and where it cannot be, the call is refused.
A call never fails: what goes wrong is the text of its result.

Main statement: a call succeeds whatever comes of the tool (`Session.exists_call_eq_ok`).
-/

namespace QueryTools

/-- A server and what its client was last told of. -/
structure Session where
  server : Server
  /-- The input schemas of the tools that the client was last told of. -/
  listed : Keyed Json := []

/-- What a call of a tool results in. -/
structure CallResult where
  text : String
  isError : Bool
  /-- Whether the client is told that there may be other tools now. -/
  toolsChanged : Bool := false
  deriving DecidableEq, Repr

/-- Something that a client can read. -/
structure Resource where
  uri : String
  name : String
  description : String
  mediaType : String
  deriving DecidableEq, Repr

namespace Session

/-- The session after the client was told of tools. -/
def told (s : Session) (manifests : List Manifest) : Session :=
  { s with listed := Keyed.ofPairs (manifests.map fun m => (m.name, m.inputSchema)) }

/-- Tells the client of all tools; where it cannot be told of each, it is told of none. -/
def list (s : Session) : Session × Except Failure (List Manifest) :=
  match s.server.manifests with
  | .ok manifests => (s.told manifests, .ok manifests)
  | .error failure => (s, .error failure)

/-- The session in which a tool is called, and the schema that the arguments are held against.  A client
that does not know the tool is told of all tools first. -/
def lookup (s : Session) (tool : String) : Except Failure (Session × Option Json) :=
  match Keyed.get? tool s.listed with
  | some schema => .ok (s, some schema)
  | none =>
    match s.list with
    | (told, .ok _) => .ok (told, Keyed.get? tool told.listed)
    | (_, .error failure) => .error failure

/-- Tells the client what came of a tool. -/
def report (s : Session) (tool : String) : Except Failure String → Action (Session × CallResult)
  | .ok text => pure (s, ⟨text, false, tool = OwnTool.introspect.name⟩)
  | .error f => do
    if f.isExplained then
      Action.say .warning Server.logger s!"Tool {tool} failed: {f.message}"
    return (s, ⟨f.message, true, false⟩)

/-- Runs a call whose arguments conform to the tool's schema. -/
def run (s : Session) (tool : String) (arguments : Members) : Action (Session × CallResult) := do
  match ← (s.server.call tool (.obj arguments)).attempt with
  | .ok (server, outcome) => report { s with server } tool outcome
  | .error f => s.report tool (.error f)

/-- Calls a tool. -/
def call (s : Session) (tool : String) (arguments : Members) : Action (Session × CallResult) :=
  match s.lookup tool with
  | .error failure => pure (s, ⟨failure.message, true, false⟩)
  | .ok (found, schema) =>
    match schema.bind fun schema => Json.objection? schema (.obj arguments) with
    | some text => pure (found, ⟨text, true, false⟩)
    | none => found.run tool arguments

/-- What the client can read: the schema, under the address of the endpoint. -/
def resources (s : Session) : Except AddressFault (List Resource) := do
  let uri ← Address.normal s.server.settings.endpoint
  return [⟨uri, "graphql-schema", "The GraphQL schema of the server", "text/plain"⟩]

/-- The text of a resource, under whatever address it is asked for. -/
def read (s : Session) : Except Failure String := s.server.schemaText

/-- The text of a resource under a text that need not be an address. -/
def readAt (s : Session) (address : String) : Except AddressFault (Except Failure String) :=
  (Address.normal address).map fun _ => s.read

theorem exists_report_eq_ok (v : Session) (tool : String) (outcome : Except Failure String)
    (s : Surroundings) : ∃ r, (v.report tool outcome s).result = .ok r := by
  cases outcome with
  | ok text => exact ⟨_, Action.result_pure⟩
  | error f =>
    unfold report
    by_cases hf : f.isExplained
    · simp only [hf, if_true]
      exact ⟨_, Action.result_bind_eq_ok.2 ⟨(), Action.result_say, Action.result_pure⟩⟩
    · simp only [hf]
      exact ⟨_, Action.result_pure⟩

theorem exists_run_eq_ok (v : Session) (tool : String) (arguments : Members) (s : Surroundings) :
    ∃ r, (v.run tool arguments s).result = .ok r := by
  unfold run
  cases h : (v.server.call tool (.obj arguments) s).result with
  | ok p =>
    obtain ⟨r, hr⟩ := exists_report_eq_ok { v with server := p.1 } tool p.2 s
    exact ⟨r, Action.result_bind_eq_ok.2 ⟨.ok p, by simp [h], hr⟩⟩
  | error f =>
    obtain ⟨r, hr⟩ := exists_report_eq_ok v tool (.error f) s
    exact ⟨r, Action.result_bind_eq_ok.2 ⟨.error f, by simp [h], hr⟩⟩

/-- A client gets a result of every call. -/
theorem exists_call_eq_ok (v : Session) (tool : String) (arguments : Members) (s : Surroundings) :
    ∃ r, (v.call tool arguments s).result = .ok r := by
  unfold call
  cases v.lookup tool with
  | error failure => exact ⟨_, Action.result_pure⟩
  | ok found =>
    obtain ⟨found, schema⟩ := found
    dsimp only
    cases schema.bind fun schema => Json.objection? schema (.obj arguments) with
    | some text => exact ⟨_, Action.result_pure⟩
    | none => exact exists_run_eq_ok found tool arguments s

end Session

end QueryTools
