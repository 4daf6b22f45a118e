import QueryTools.Http.Exchange
import QueryTools.Settings.Basic
import QueryTools.Variables
import QueryTools.Json.Display

/-!
# The gateway to the endpoint

A query is checked before it is sent: its text has to parse, and it may hold a mutation only where
the settings admit mutations.  What passes is posted once, with its variables if there are any.  The
answer is the whole object that the endpoint sent; errors that the object reports make the
execution fail.

A gateway uses the connection it was handed, or opens one of its own when it first needs one;
only its own is closed.
-/

namespace QueryTools

/-- A gateway with its connection. -/
structure Gateway where
  settings : Settings
  /-- The connection in use, if there is one. -/
  client : Option Client
  /-- Whether the gateway opens connections itself. -/
  ownsClient : Bool
  /-- How many connections it has opened so far. -/
  opened : Nat := 0

namespace Gateway

/-- The name under which executions are logged. -/
def logger : String := moduleLogger "gateway"

/-- A gateway that uses a connection of others. -/
def sharing (settings : Settings) (client : Client) : Gateway := ⟨settings, some client, false, 0⟩

/-- A gateway that opens its own connection. -/
def owning (settings : Settings) : Gateway := ⟨settings, none, true, 0⟩

/-- The document of a query that may be sent. -/
def check (settings : Settings) (query : String) : Action Document :=
  match Document.parse query with
  | .error e => Action.fail (.query query e)
  | .ok document =>
    if document.hasMutation && !settings.allowMutations then do
      Action.say .warning logger "Rejected mutation: mutations are disabled"
      Action.fail .mutationsDisabled
    else pure document

/-- The body of the request for a query. -/
def body (query : String) (vars : Option Variables) : Json :=
  .obj (("query", .str query) :: (vars.map fun vs => ("variables", Json.obj vs.members)).toList)

/-- How the log shows the body of the request for a query. -/
def bodyText (query : String) (vars : Option Variables) : String :=
  let variablesText := (vars.map fun vs => ", 'variables': " ++ vs.shown).getD ""
  "\x7b'query': " ++ Text.quoted query ++ variablesText ++ "\x7d"

/-- The request for a query. -/
def request (settings : Settings) (query : String) (vars : Option Variables) : Request :=
  ⟨settings.endpoint, settings.requestHeaders, body query vars⟩

/-- The request for a query that has been checked, and what the log says of it. -/
def prepare (settings : Settings) (query : String) (vars : Except Failure (Option Variables)) :
    Action Request := do
  let _ ← check settings query
  let vars ← Action.ofResult vars
  let request := request settings query vars
  Action.say .info logger s!"Executing GraphQL request against {settings.endpoint}"
  Action.say .debug logger s!"GraphQL request body: {bodyText query vars}"
  return request

/-- The answer to a query, from the object that the endpoint sent. -/
def answer (payload : List (String × Json)) : Action (List (String × Json)) := do
  match Keyed.get? "errors" payload with
  | some errors =>
    if errors.isTruthy then
      let count ← Action.ofResult (errors.count.mapError Failure.access)
      Action.say .info logger s!"GraphQL response carried {count} error(s)"
      Action.fail (.response payload)
    else return payload
  | none => return payload

/-- The connection to use, and the gateway that holds it; it is opened if there is none. -/
def connect (g : Gateway) : Gateway × Client × List Event :=
  match g.client with
  | some client => (g, client, [])
  | none =>
    let client := Client.own g.opened
    ({ g with client := some client, opened := g.opened + 1 }, client,
      [.opened client g.settings.timeout])

/-- Sends a query, and gives the answer and the gateway as it is then. -/
def execute (g : Gateway) (query : String) (vars : Except Failure (Option Variables))
    (s : Surroundings) : Gateway × Outcome (List (String × Json)) :=
  let prepared := prepare g.settings query vars s
  match prepared.result with
  | .error f => (g, ⟨.error f, prepared.events⟩)
  | .ok request =>
    let (g, client, events) := g.connect
    let sent := (request.exchange client >>= answer) s
    (g, ⟨sent.result, prepared.events ++ events ++ sent.events⟩)

/-- Closes the connection if it is the gateway's own. -/
def close (g : Gateway) : Gateway × List Event :=
  match g.client with
  | some client => if g.ownsClient then ({ g with client := none }, [.closed client]) else (g, [])
  | none => (g, [])

end Gateway

end QueryTools
