import QueryTools.Action

/-!
# Exchanges

A request is posted once, and its reply is either an object, with which the exchange succeeds, or a
failure: no response, a status that reports none, a body that is no JSON, or JSON that is no object.
A failure shows the body as text, and is another one where the body cannot be read as text.
-/

namespace QueryTools

namespace Reply

/-- The object that a reply carries, or why it carries none. -/
def payload : Reply → Except Failure (List (String × Json))
  | .failed kind message => .error (.transport none s!"{kind}: {message}" "")
  | .unusableAddress message => .error (.unusableAddress message)
  | .response r =>
    let refuse (statusText : String) : Except Failure (List (String × Json)) :=
      match r.text with
      | .ok body => .error (.transport (some r.status) statusText body)
      | .error fault => .error (.unreadableBody fault)
    if r.isSuccess then
      match r.json? with
      | .error fault => .error (.unreadableBody fault)
      | .ok none => refuse "Response body is not valid JSON"
      | .ok (some (.obj members)) => .ok members
      | .ok (some _) => refuse "Response body is not a JSON object"
    else refuse r.statusText

/-- The name under which exchanges are logged. -/
def logger : String := moduleLogger "http_client"

/-- What the log says of a reply from an address, if anything. -/
def remark? (url : String) : Reply → Option LogRecord
  | .failed _ message => some (.ofLevel .error logger s!"Request to {url} failed: {message}")
  | .unusableAddress _ => none
  | .response r =>
    if r.isSuccess then none
    else some (.ofLevel .warning logger s!"Request to {url} returned HTTP {r.status}")

end Reply

/-- Posts a request and takes the object out of the reply. -/
def Request.exchange (request : Request) (client : Client) : Action (List (String × Json)) := do
  let reply ← Action.post client request
  Action.sayIf (reply.remark? request.url)
  Action.ofResult reply.payload

/-- What a client is set up with: how many seconds connecting, reading, writing and waiting for a
connection may take, and whether redirections are followed. -/
structure ClientOptions where
  connect : Json
  read : Json
  write : Json
  pool : Json
  followsRedirections : Bool := true

/-- One limit for everything; null is no limit. -/
def ClientOptions.ofTimeout (timeout : Json) : ClientOptions := ⟨timeout, timeout, timeout, timeout, true⟩

/-- The limit that holds where none is given. -/
def ClientOptions.defaultTimeout : Double := .ofInt 30

end QueryTools
