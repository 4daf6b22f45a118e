import QueryTools.Session
import QueryTools.Session.Form

/-!
# Messages

What a client and the program say to each other, one JSON object a message.  A client begins with
its version of the protocol and then asks for things; each request is answered under its number, and
nothing else is, except that what no client should send is complained about.

Main statement: a request gets exactly one answer under its number, and that answer comes last
(`Conversation.exists_answer_eq_ok`).
-/

namespace QueryTools

/-- A message from a client. -/
inductive Incoming where
  | request (id : Json) (method : String) (params : Members)
  | notification (method : String) (params : Members)
  /-- What is no message, or answers a request, of which the program makes none. -/
  | unexpected
  deriving Repr

namespace Incoming

/-- The number that a message has, if it is one for requests. -/
def id? (members : Members) : Option Json :=
  match Keyed.get? "id" members with
  | some (.int n) => some (.int n)
  | some (.str s) => some (.str s)
  | _ => none

/-- The parameters of a message, which may be left out. -/
def params? (members : Members) : Option Members :=
  match Keyed.get? "params" members with
  | none | some .null => some []
  | some v => v.obj?

/-- The message that an object is. -/
def ofMembers (members : Members) : Incoming :=
  match Keyed.get? "jsonrpc" members, Keyed.get? "method" members, params? members with
  | some (.str "2.0"), some (.str method), some params =>
    match id? members with
    | some id => .request id method params
    | none => .notification method params
  | _, _, _ => .unexpected

/-- The message that a value is. -/
def ofJson : Json → Incoming
  | .obj members => ofMembers members
  | _ => .unexpected

end Incoming

/-- What a client asks for. -/
inductive Demand where
  | opening (version : String)
  | ping
  | listTools
  | callTool (name : String) (arguments : Members)
  | listResources
  | readResource (uri : String)
  /-- Something that the protocol knows and the program does not offer. -/
  | other
  deriving Repr

namespace Demand

/-- A text among parameters. -/
def text? (name : String) (params : Members) : Option String :=
  (Keyed.get? name params).bind Json.str?

/-- The version of the protocol that a client opens with; one that is no text is none that the
program speaks. -/
def version (params : Members) : String := (text? "protocolVersion" params).getD ""

/-- The arguments of a call, which may be left out. -/
def arguments (params : Members) : Members :=
  ((Keyed.get? "arguments" params).bind Json.obj?).getD []

/-- What the parameters of a method are held against, if the program knows the method but does not
offer it. -/
def otherForm? : String → Option Form
  | "prompts/list" | "resources/templates/list" | "tasks/list" => some Form.page
  | "prompts/get" =>
    some (Form.record [Form.required "name" Form.text,
      Form.optional "arguments" (Form.table Form.text)])
  | "resources/subscribe" | "resources/unsubscribe" => some Form.place
  | "logging/setLevel" =>
    some (Form.record [Form.required "level" (Form.word (LogLevel.all.map LogLevel.word))])
  | "completion/complete" => some Form.completion
  | "tasks/get" | "tasks/result" | "tasks/cancel" => some Form.task
  | _ => none

/-- What the parameters of a method are held against, and what is asked for by parameters that fit,
if the program knows the method. -/
def ofMethod? (method : String) : Option (Form × (Members → Option Demand)) :=
  match method with
  | "initialize" => some (Form.opening, fun params => some (.opening (version params)))
  | "ping" => some (Form.object, fun _ => some .ping)
  | "tools/list" => some (Form.page, fun _ => some .listTools)
  | "tools/call" =>
    some (Form.call, fun params =>
      (text? "name" params).map fun name => .callTool name (arguments params))
  | "resources/list" => some (Form.page, fun _ => some .listResources)
  | "resources/read" =>
    some (Form.place, fun params =>
      ((text? "uri" params).bind fun uri => (Address.normal uri).toOption).map .readResource)
  | _ => (otherForm? method).map fun form => (form, fun _ => some .other)

/-- What is asked for by a method with parameters, if the parameters fit. -/
def ofParams? (method : String) (params : Members) : Option Demand := do
  let (form, demand?) ← ofMethod? method
  if Form.request (.obj params) && form (.obj params) then demand? params else none

end Demand

/-- Why a request is refused. -/
inductive Refusal where
  | badParameters
  | unknownMethod
  | failed (text : String)
  deriving DecidableEq, Repr

/-- A refusal as the client sees it. -/
def Refusal.toJson : Refusal → Json
  | .badParameters =>
    .obj [("code", .int (-32602)), ("message", .str "Invalid request parameters"), ("data", .str "")]
  | .unknownMethod => .obj [("code", .int (-32601)), ("message", .str "Method not found")]
  | .failed text => .obj [("code", .int 0), ("message", .str text)]

namespace Message

/-- The versions of the protocol that the program speaks, the latest last. -/
def versions : List String := ["2024-11-05", "2025-03-26", "2025-06-18", "2025-11-25"]

/-- The version that is spoken with a client: its own if that is known. -/
def agreed (version : String) : String :=
  if versions.contains version then version else versions.getLastD ""

/-- The answer to a request. -/
def answer (id : Json) : Except Refusal Json → Json
  | .ok result => .obj [("jsonrpc", .str "2.0"), ("id", id), ("result", result)]
  | .error refusal => .obj [("jsonrpc", .str "2.0"), ("id", id), ("error", refusal.toJson)]

/-- Tells the client that there may be other tools now. -/
def toolsChanged : Json :=
  .obj [("jsonrpc", .str "2.0"), ("method", .str "notifications/tools/list_changed")]

/-- Complains about what no client should send. -/
def complaint : Json :=
  .obj [("jsonrpc", .str "2.0"), ("method", .str "notifications/message"),
    ("params", .obj [("level", .str "error"), ("logger", .str "mcp.server.exception_handler"),
      ("data", .str "Internal Server Error")])]

/-- What the program offers. -/
def capabilities : Json :=
  .obj [("experimental", .obj []),
    ("resources", .obj [("subscribe", .bool false), ("listChanged", .bool false)]),
    ("tools", .obj [("listChanged", .bool true)])]

/-- The result of opening a conversation. -/
def welcome (v : Server) (version : String) : Json :=
  .obj [("protocolVersion", .str (agreed version)), ("capabilities", capabilities),
    ("serverInfo", .obj [("name", .str v.settings.name), ("version", .str Server.version)]),
    ("instructions", .str v.instructions)]

/-- A tool as the client is told of it. -/
def tool (m : Manifest) : Json :=
  .obj [("name", .str m.name), ("description", .str m.description), ("inputSchema", m.inputSchema)]

/-- A resource as the client is told of it. -/
def resource (r : Resource) : Json :=
  .obj [("name", .str r.name), ("uri", .str r.uri), ("description", .str r.description),
    ("mimeType", .str r.mediaType)]

/-- The result of a call. -/
def callResult (r : CallResult) : Json :=
  .obj [("content", .arr [.obj [("type", .str "text"), ("text", .str r.text)]]),
    ("isError", .bool r.isError)]

/-- What is read under an address. -/
def contents (uri text : String) : Json :=
  .obj [("contents", .arr [.obj [("uri", .str uri), ("mimeType", .str "text/plain"),
    ("text", .str text)]])]

end Message

/-- A session with a client that may have begun. -/
structure Conversation where
  session : Session
  hasBegun : Bool := false

namespace Conversation

/-- Does what a client asks for, and says what comes of it and whether there may be other tools. -/
def fulfil (c : Conversation) : Demand → Action (Conversation × Except Refusal Json × Bool)
  | .opening version =>
    pure ({ c with hasBegun := true }, .ok (Message.welcome c.session.server version), false)
  | .ping => pure (c, .ok (.obj []), false)
  | .listTools =>
    let (session, listed) := c.session.list
    let told := match listed with
      | .ok manifests => .ok (.obj [("tools", .arr (manifests.map Message.tool))])
      | .error failure => .error (.failed failure.message)
    pure ({ c with session }, told, false)
  | .callTool name arguments => do
    let (session, result) ← c.session.call name arguments
    return ({ c with session }, .ok (Message.callResult result), result.toolsChanged)
  | .listResources =>
    let listed := match c.session.resources with
      | .ok rs => .ok (.obj [("resources", .arr (rs.map Message.resource))])
      | .error fault => .error (.failed ("Input should be a valid URL, " ++ fault.message))
    pure (c, listed, false)
  | .readResource uri =>
    let found := match c.session.read with
      | .ok text => .ok (Message.contents uri text)
      | .error f => .error (.failed f.message)
    pure (c, found, false)
  | .other => pure (c, .error .unknownMethod, false)

/-- Whether a demand may be made: before the conversation has begun, only a few. -/
def admits (c : Conversation) : Demand → Bool
  | .opening _ | .ping => true
  | _ => c.hasBegun

/-- Takes a message from the client, and gives what the client is sent. -/
def take (c : Conversation) (message : Incoming) : Action (Conversation × List Json) :=
  match message with
  | .request id method params =>
    match (Demand.ofParams? method params).filter c.admits with
    | none => pure (c, [Message.answer id (.error .badParameters)])
    | some demand => do
      let (c, result, toolsChanged) ← c.fulfil demand
      return (c, (if toolsChanged then [Message.toolsChanged] else []) ++ [Message.answer id result])
  | .notification method params =>
    let begins := method = "notifications/initialized" && Form.notification (.obj params)
    pure (if begins then { c with hasBegun := true } else c, [])
  | .unexpected => pure (c, [Message.complaint])

theorem exists_fulfil_eq_ok (c : Conversation) (demand : Demand) (s : Surroundings) :
    ∃ r, (c.fulfil demand s).result = .ok r := by
  cases demand with
  | callTool name arguments =>
    obtain ⟨r, h⟩ := Session.exists_call_eq_ok c.session name arguments s
    exact ⟨_, Action.result_bind_eq_ok.2 ⟨r, h, Action.result_pure⟩⟩
  | _ => exact ⟨_, Action.result_pure⟩

/-- A request is answered under its number, after whatever else the client is told. -/
theorem exists_answer_eq_ok (c : Conversation) (id : Json) (method : String) (params : Members)
    (s : Surroundings) :
    ∃ d told result, (c.take (.request id method params) s).result =
      .ok (d, told ++ [Message.answer id result]) := by
  simp only [take]
  cases (Demand.ofParams? method params).filter c.admits with
  | none => exact ⟨c, [], .error .badParameters, Action.result_pure⟩
  | some demand =>
    obtain ⟨⟨d, result, changed⟩, h⟩ := exists_fulfil_eq_ok c demand s
    exact ⟨d, if changed then [Message.toolsChanged] else [], result,
      Action.result_bind_eq_ok.2 ⟨_, h, Action.result_pure⟩⟩

end Conversation

end QueryTools
