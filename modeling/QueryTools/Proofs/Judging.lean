import QueryTools.Session.Message
import QueryTools.Proofs.Listing

/-!
# What calls are judged by

The arguments of a call are held against the schema of the tool as the client was last told of it, and it
is told of the tools only where it asks for them or calls one that it does not know.  So a tool that was
loaded anew may be judged by what it was before, and where the tools cannot be listed one that it does not
know is not judged at all.

Main statements:

* `Conversation.told_after` -- what the client knows after a run is what it was last told;
* `Conversation.calls_judged` -- a call is judged by the tool as it was then, and where that is as the
  tool is now, the answer turns on the schema that is installed and on nothing that came before;
* `Conversation.exists_misjudged` -- a call of a tool that was loaded anew may be refused by the old schema.
-/

namespace QueryTools

/-! ## What clients are told -/

namespace Server

/-- The input schemas of all tools under their names, none where the tools cannot be listed. -/
def schemas (v : Server) : Keyed Json :=
  match v.manifests with
  | .ok ms => Keyed.ofPairs (ms.map fun m => (m.name, m.inputSchema))
  | .error _ => []

/-- The schema of a tool that was made for an operation is that of the tool that is looked up. -/
theorem get?_schemas {v : Server} (named : v.Named) {ms : List Manifest} (lists : v.manifests = .ok ms)
    {tool : String} (other : tool ∉ OwnTool.all.map OwnTool.name) :
    Keyed.get? tool v.schemas = (v.toolset.lookup tool).map Tool.inputSchema := by
  have names : Keyed.names (ms.map fun m => (m.name, m.inputSchema)) =
      OwnTool.all.map OwnTool.name ++ v.toolset.names := by
    rw [Keyed.names, List.map_map]
    exact names_manifests named.named lists
  have kept : v.schemas = ms.map fun m => (m.name, m.inputSchema) := by
    unfold schemas
    rw [lists]
    exact Keyed.ofPairs_of_nodup (names ▸ named.nodup_names)
  cases found : v.toolset.lookup tool with
  | none =>
      rw [Option.map_none, Keyed.get?_eq_none_iff, kept, names, List.mem_append, not_or]
      exact ⟨other, Keyed.get?_eq_none_iff.1 found⟩
  | some t =>
      have there : (tool, t) ∈ v.toolset.tools := Keyed.mem_of_get? found
      obtain ⟨made, each, rfl⟩ := manifests_eq_ok.1 lists
      obtain ⟨m, listed, tells⟩ := Outcome.exists_mem_of_mapM each there
      obtain ⟨text, -, rfl⟩ := Tool.manifest_eq_ok_iff.1 tells
      have name : t.name = tool := named.named _ there
      have member : (tool, t.inputSchema) ∈ v.schemas := by
        rw [kept, ← name]
        exact List.mem_map_of_mem (List.mem_append_right _ listed)
      have distinct : (Keyed.names v.schemas).Nodup := by
        rw [kept, names]
        exact named.nodup_names
      exact Keyed.get?_of_mem distinct member

/-- A call of any tool but the one that loads the schema anew leaves the server alone. -/
theorem meet_call_of_ne {tool : String} (other : tool ≠ OwnTool.introspect.name) (v : Server)
    (s : Surroundings) (arguments : Json) : v.meet s (.call tool arguments) = v := by
  cases called : (v.call tool arguments s).result with
  | ok p =>
      have same := eq_of_call other called
      simp only [meet, called, same]
  | error f => simp only [meet, called]

end Server

/-! ## Calls of a session -/

namespace Session

variable {v w : Session} {tool : String} {arguments : Members} {s : Surroundings}

/-- The schema that the arguments of a call of a tool are held against, unless they are held against none
because the client cannot be told of the tools. -/
def judge (v : Session) (tool : String) : Except Failure (Option Json) := (v.lookup tool).map Prod.snd

/-- Whether the client is told of all tools where it calls one: it does not know that one, and can be told. -/
def isTold (v : Session) (tool : String) : Bool :=
  !Keyed.has tool v.listed && v.server.manifests.isOk

/-- A tool that the client was told of is judged as it was told. -/
theorem judge_of_known {schema : Json} (known : Keyed.get? tool v.listed = some schema) :
    v.judge tool = .ok (some schema) := by
  unfold judge lookup
  rw [known]
  rfl

/-- A tool that the client was not told of is judged after the tools are listed, or not at all if they cannot
be. -/
theorem judge_of_unknown (unknown : Keyed.get? tool v.listed = none) :
    v.judge tool = v.server.manifests.map fun _ => Keyed.get? tool v.server.schemas := by
  unfold judge lookup list Server.schemas
  rw [unknown]
  cases v.server.manifests <;> rfl

/-- A tool is looked up in a session with the same server, in which the client may have been told of the tools;
or it is not, because the client cannot be told of them. -/
theorem cases_lookup (v : Session) (tool : String) :
    (∃ f, v.lookup tool = .error f ∧ v.isTold tool = false) ∨
      ∃ found schema, v.lookup tool = .ok (found, schema) ∧ found.server = v.server ∧
        found.listed = if v.isTold tool then v.server.schemas else v.listed := by
  unfold lookup list isTold Keyed.has Server.schemas
  cases Keyed.get? tool v.listed with
  | some schema => exact .inr ⟨v, some schema, rfl, rfl, rfl⟩
  | none =>
      cases v.server.manifests with
      | error f => exact .inl ⟨f, rfl, rfl⟩
      | ok ms => exact .inr ⟨v.told ms, _, rfl, rfl, rfl⟩

/-- Reporting a call never fails, and leaves the session. -/
theorem result_report (v : Session) (tool : String) (outcome : Except Failure String)
    (s : Surroundings) : ∃ called, (v.report tool outcome s).result = .ok (v, called) := by
  cases outcome with
  | ok text => exact ⟨_, Action.result_pure⟩
  | error f =>
      unfold report
      by_cases explained : f.isExplained = true
      · simp only [explained, if_true]
        exact ⟨_, Action.result_bind_eq_ok.2 ⟨(), Action.result_say, Action.result_pure⟩⟩
      · simp only [explained]
        exact ⟨_, Action.result_pure⟩

/-- What a call that is run comes to leaves what the client knows, and the server as a call leaves it. -/
theorem result_run (v : Session) (tool : String) (arguments : Members) (s : Surroundings) :
    ∃ called, (v.run tool arguments s).result =
      .ok ({ v with server := v.server.meet s (.call tool (.obj arguments)) }, called) := by
  unfold run
  cases called : (v.server.call tool (.obj arguments) s).result with
  | ok p =>
      have met : v.server.meet s (.call tool (.obj arguments)) = p.1 := by
        simp only [Server.meet, called]
      obtain ⟨r, reported⟩ := result_report { v with server := p.1 } tool p.2 s
      rw [met]
      exact ⟨r, Action.result_bind_eq_ok.2 ⟨.ok p, by simp [called], reported⟩⟩
  | error f =>
      have met : v.server.meet s (.call tool (.obj arguments)) = v.server := by
        simp only [Server.meet, called]
      obtain ⟨r, reported⟩ := result_report v tool (.error f) s
      rw [met]
      exact ⟨r, Action.result_bind_eq_ok.2 ⟨.error f, by simp [called], reported⟩⟩

/-- After a call the client knows what it knew when the arguments were judged, and the server is as the
call left it, or as it was where the arguments were refused. -/
theorem result_call (v : Session) (tool : String) (arguments : Members) (s : Surroundings) :
    ∃ after called, (v.call tool arguments s).result = .ok (after, called) ∧
      after.listed = (if v.isTold tool then v.server.schemas else v.listed) ∧
      (after.server = v.server ∨ after.server = v.server.meet s (.call tool (.obj arguments))) := by
  unfold call
  rcases v.cases_lookup tool with ⟨f, refused, untold⟩ | ⟨found, schema, looked, server, listed⟩
  · rw [refused, untold]
    exact ⟨v, _, Action.result_pure, rfl, .inl rfl⟩
  · simp only [looked]
    cases schema.bind fun schema => Json.objection? schema (.obj arguments) with
    | some text => exact ⟨found, _, Action.result_pure, listed, .inl server⟩
    | none =>
        obtain ⟨called, ran⟩ := found.result_run tool arguments s
        exact ⟨_, called, ran, listed, .inr (by rw [server])⟩

/-- What the client is told of what came of a tool does not turn on what it knows. -/
theorem report_congr (v w : Session) (tool : String) (outcome : Except Failure String)
    (s : Surroundings) :
    (v.report tool outcome s).result.map Prod.snd = (w.report tool outcome s).result.map Prod.snd ∧
      (v.report tool outcome s).events = (w.report tool outcome s).events := by
  cases outcome with
  | ok text => exact ⟨rfl, rfl⟩
  | error f =>
      unfold report
      by_cases explained : f.isExplained = true
      · simp only [explained, if_true]
        exact ⟨rfl, rfl⟩
      · simp only [explained]
        exact ⟨rfl, rfl⟩

/-- What comes of running a call turns on the server alone. -/
theorem run_congr (server : v.server = w.server) (tool : String) (arguments : Members)
    (s : Surroundings) :
    (v.run tool arguments s).result.map Prod.snd = (w.run tool arguments s).result.map Prod.snd ∧
      (v.run tool arguments s).events = (w.run tool arguments s).events := by
  have attempted : ((w.server.call tool (.obj arguments)).attempt s).result =
      .ok (w.server.call tool (.obj arguments) s).result := rfl
  unfold run
  rw [server, Action.result_bind_of_ok attempted, Action.result_bind_of_ok attempted,
    Action.events_bind_of_ok attempted, Action.events_bind_of_ok attempted]
  cases (w.server.call tool (.obj arguments) s).result with
  | ok p =>
      have same := report_congr { v with server := p.1 } { w with server := p.1 } tool p.2 s
      exact ⟨same.1, by rw [same.2]⟩
  | error f =>
      have same := report_congr v w tool (.error f) s
      exact ⟨same.1, by rw [same.2]⟩

/-- The answer to a call turns on the server and on what the arguments are judged by. -/
theorem call_congr (server : v.server = w.server) (judged : v.judge tool = w.judge tool)
    (arguments : Members) (s : Surroundings) :
    (v.call tool arguments s).result.map Prod.snd = (w.call tool arguments s).result.map Prod.snd ∧
      (v.call tool arguments s).events = (w.call tool arguments s).events := by
  unfold judge at judged
  unfold call
  rcases v.cases_lookup tool with ⟨f, refused, -⟩ | ⟨found, schema, looked, serves, -⟩
  · rcases w.cases_lookup tool with ⟨g, refused', -⟩ | ⟨found', schema', looked', -, -⟩
    · rw [refused, refused'] at judged
      cases judged
      rw [refused, refused']
      exact ⟨rfl, rfl⟩
    · rw [refused, looked'] at judged
      cases judged
  · rcases w.cases_lookup tool with ⟨g, refused', -⟩ | ⟨found', schema', looked', serves', -⟩
    · rw [looked, refused'] at judged
      cases judged
    · rw [looked, looked'] at judged
      cases judged
      simp only [looked, looked']
      cases schema.bind fun schema => Json.objection? schema (.obj arguments) with
      | some text => exact ⟨rfl, rfl⟩
      | none => exact run_congr (serves.trans (server.trans serves'.symm)) tool arguments s

/-- Where the client cannot be told of the tools, a call is refused as listing them would be. -/
theorem call_of_judge_error {f : Failure} (unjudged : v.judge tool = .error f) (arguments : Members)
    (s : Surroundings) : v.call tool arguments s = ⟨.ok (v, ⟨f.message, true, false⟩), []⟩ := by
  have refused : v.lookup tool = .error f := Outcome.map_eq_error.1 unjudged
  unfold call
  rw [refused]
  rfl

end Session

/-! ## Runs of a conversation -/

/-- Whether a demand calls the tool that loads the schema anew. -/
def Demand.reloads : Demand → Bool
  | .callTool tool _ => tool = OwnTool.introspect.name
  | _ => false

namespace Conversation

variable {c : Conversation} {tool : String}

/-- A conversation with a server that begins. -/
def opened (v : Server) : Conversation := { session := { server := v } }

/-- The conversation after a demand. -/
def meet (c : Conversation) (s : Surroundings) (d : Demand) : Conversation :=
  match (c.fulfil d s).result with
  | .ok r => r.1
  | .error _ => c

/-- The conversation after a run of demands. -/
def after (c : Conversation) : List (Surroundings × Demand) → Conversation
  | [] => c
  | (s, d) :: rest => (c.meet s d).after rest

/-- Whether at a demand the client is told of all tools: where it asks for them, and where it calls one
that it does not know, if it can be told of them. -/
def tells (c : Conversation) : Demand → Bool
  | .listTools => c.session.server.manifests.isOk
  | .callTool tool _ => c.session.isTold tool
  | _ => false

/-- The server as it was when the client was last told of all tools: in the run, or before it. -/
def told (c : Conversation) (before : Option Server) : List (Surroundings × Demand) → Option Server
  | [] => before
  | (s, d) :: rest =>
    (c.meet s d).told (if c.tells d then some c.session.server else before) rest

/-- What a client gets for a call, and what is done for it. -/
def answer (c : Conversation) (tool : String) (arguments : Members) (s : Surroundings) :
    Except Failure (Except Refusal Json × Bool) × List Event :=
  let outcome := c.fulfil (.callTool tool arguments) s
  (outcome.result.map Prod.snd, outcome.events)

/-- Demands may be met in two parts. -/
theorem after_append (c : Conversation) (first rest : List (Surroundings × Demand)) :
    c.after (first ++ rest) = (c.after first).after rest := by
  induction first generalizing c with
  | nil => rfl
  | cons step first ih => exact ih _

/-- What a client was told last is told in the later part, or else in the first. -/
theorem told_append (c : Conversation) (before : Option Server)
    (first rest : List (Surroundings × Demand)) :
    c.told before (first ++ rest) = (c.after first).told (c.told before first) rest := by
  induction first generalizing c before with
  | nil => rfl
  | cons step first ih => exact ih _ _

/-- What a call makes of the conversation. -/
theorem meet_callTool (c : Conversation) (s : Surroundings) (tool : String) (arguments : Members) :
    ∃ after, c.meet s (.callTool tool arguments) = { c with session := after } ∧
      after.listed = (if c.session.isTold tool then c.session.server.schemas else c.session.listed) ∧
      (after.server = c.session.server ∨
        after.server = c.session.server.meet s (.call tool (.obj arguments))) := by
  obtain ⟨after, called, results, listed, server⟩ := c.session.result_call tool arguments s
  have fulfilled : (c.fulfil (.callTool tool arguments) s).result =
      .ok ({ c with session := after }, .ok (Message.callResult called), called.toolsChanged) :=
    Action.result_bind_eq_ok.2 ⟨(after, called), results, Action.result_pure⟩
  have met : c.meet s (.callTool tool arguments) = { c with session := after } := by
    rw [meet, fulfilled]
  exact ⟨after, met, listed, server⟩

/-- What asking for the tools makes of the conversation. -/
theorem meet_listTools (c : Conversation) (s : Surroundings) :
    ∃ after, c.meet s .listTools = { c with session := after } ∧
      after.listed = (if c.session.server.manifests.isOk then c.session.server.schemas
        else c.session.listed) ∧
      after.server = c.session.server := by
  refine ⟨c.session.list.1, rfl, ?_⟩
  unfold Session.list Server.schemas
  cases c.session.server.manifests <;> exact ⟨rfl, rfl⟩

/-- At a demand at which the client is told of the tools they can be listed. -/
theorem exists_manifests_of_tells {d : Demand} (tells : c.tells d = true) :
    ∃ ms, c.session.server.manifests = .ok ms := by
  have lists : c.session.server.manifests.isOk = true := by
    cases d with
    | listTools => exact tells
    | callTool tool arguments => exact (Bool.and_eq_true_iff.1 tells).2
    | _ => cases tells
  cases manifests : c.session.server.manifests with
  | ok ms => exact ⟨ms, rfl⟩
  | error f =>
      rw [manifests] at lists
      cases lists

/-- The server that the client was last told of is the one at some point of the run, where its tools could be
listed. -/
theorem told_eq_some {before : Option Server} {run : List (Surroundings × Demand)} {w : Server}
    (last : c.told before run = some w) :
    before = some w ∨ (∃ ms, w.manifests = .ok ms) ∧
      ∃ first rest, run = first ++ rest ∧ w = (c.after first).session.server := by
  induction run generalizing c before with
  | nil => exact .inl last
  | cons step rest ih =>
      rcases ih last with now | ⟨lists, first, later, split, point⟩
      · by_cases tells : c.tells step.2 = true
        · rw [if_pos tells] at now
          cases now
          exact .inr ⟨exists_manifests_of_tells tells, [], step :: rest, rfl, rfl⟩
        · rw [if_neg tells] at now
          exact .inl now
      · exact .inr ⟨lists, step :: first, later, by rw [split]; rfl, point⟩

/-! ### The server of a conversation -/

/-- A demand makes the server call a tool, or leaves it alone. -/
theorem server_meet (c : Conversation) (s : Surroundings) (d : Demand) :
    (c.meet s d).session.server = c.session.server ∨
      ∃ tool arguments, d = .callTool tool arguments ∧
        (c.meet s d).session.server = c.session.server.meet s (.call tool (.obj arguments)) := by
  cases d with
  | callTool tool arguments =>
      obtain ⟨after, met, -, server⟩ := c.meet_callTool s tool arguments
      rw [met]
      exact server.imp id fun called => ⟨tool, arguments, rfl, called⟩
  | listTools =>
      obtain ⟨after, met, -, server⟩ := c.meet_listTools s
      rw [met]
      exact .inl server
  | _ => exact .inl rfl

/-- The server of a conversation is as some calls leave it. -/
theorem exists_server_after (c : Conversation) (run : List (Surroundings × Demand)) :
    ∃ moves, (c.after run).session.server = c.session.server.after moves := by
  induction run generalizing c with
  | nil => exact ⟨[], rfl⟩
  | cons step rest ih =>
      obtain ⟨moves, reached⟩ := ih (c.meet step.1 step.2)
      rcases c.server_meet step.1 step.2 with same | ⟨tool, arguments, -, called⟩
      · exact ⟨moves, by rw [← same]; exact reached⟩
      · refine ⟨(step.1, .call tool (.obj arguments)) :: moves, ?_⟩
        rw [called] at reached
        exact reached

/-- Only the tool that loads the schema anew changes the server. -/
theorem server_meet_of_not_reloads {d : Demand} (other : d.reloads = false) (c : Conversation)
    (s : Surroundings) : (c.meet s d).session.server = c.session.server := by
  rcases c.server_meet s d with same | ⟨tool, arguments, rfl, called⟩
  · exact same
  · have differs : tool ≠ OwnTool.introspect.name := by simpa [Demand.reloads] using other
    rw [called, Server.meet_call_of_ne differs]

/-! ### What the client knows -/

/-- The client knows the schemas of the tools that the server had when it was last told of them. -/
def Knows (c : Conversation) (told : Option Server) : Prop :=
  c.session.listed = told.elim [] Server.schemas

/-- A demand either tells the client of the tools that the server has, or tells it nothing. -/
theorem knows_meet {told : Option Server} (knows : c.Knows told) (s : Surroundings) (d : Demand) :
    (c.meet s d).Knows (if c.tells d then some c.session.server else told) := by
  have renewed : ∀ (after : Session) (tells : Bool),
      after.listed = (if tells then c.session.server.schemas else c.session.listed) →
      after.listed = ((if tells then some c.session.server else told).elim [] Server.schemas) := by
    intro after tells listed
    rw [listed]
    cases tells with
    | true => rfl
    | false => exact knows
  cases d with
  | listTools =>
      obtain ⟨after, met, listed, -⟩ := c.meet_listTools s
      rw [met]
      exact renewed after _ listed
  | callTool tool arguments =>
      obtain ⟨after, met, listed, -⟩ := c.meet_callTool s tool arguments
      rw [met]
      exact renewed after _ listed
  | _ => exact knows

/-- **What the client knows after a run is what it was last told.** -/
theorem told_after {told : Option Server} (knows : c.Knows told)
    (run : List (Surroundings × Demand)) : (c.after run).Knows (c.told told run) := by
  induction run generalizing c told with
  | nil => exact knows
  | cons step rest ih => exact ih (knows_meet knows step.1 step.2)

/-- A client that was told of tools was so after all that follows. -/
theorem exists_told (c : Conversation) (u : Server) (run : List (Surroundings × Demand)) :
    ∃ w, c.told (some u) run = some w := by
  induction run generalizing c u with
  | nil => exact ⟨u, rfl⟩
  | cons step rest ih =>
      unfold told
      split
      · exact ih _ _
      · exact ih _ _

/-- Where no demand loads the schema anew, the tools that the client was told of are there still. -/
theorem toolset_told {told : Option Server}
    (settled : ∀ w, told = some w → w.toolset = c.session.server.toolset)
    {run : List (Surroundings × Demand)} (others : ∀ p ∈ run, p.2.reloads = false) {w : Server}
    (last : c.told told run = some w) : w.toolset = (c.after run).session.server.toolset := by
  induction run generalizing c told with
  | nil => exact settled w last
  | cons step rest ih =>
      have server := server_meet_of_not_reloads (others step List.mem_cons_self) c step.1
      refine ih (fun u given => ?_) (fun p member => others p (List.mem_cons_of_mem step member)) last
      rw [server]
      by_cases tells : c.tells step.2 = true
      · rw [if_pos tells] at given
        cases given
        rfl
      · rw [if_neg tells] at given
        exact settled u given

/-! ### Answers -/

/-- The answer to a call turns on the server and on what the arguments are judged by. -/
theorem answer_congr {d : Conversation} (server : c.session.server = d.session.server)
    (judged : c.session.judge tool = d.session.judge tool) (arguments : Members) (s : Surroundings) :
    c.answer tool arguments s = d.answer tool arguments s := by
  obtain ⟨results, events⟩ := Session.call_congr server judged arguments s
  obtain ⟨after, called, result, -⟩ := c.session.result_call tool arguments s
  obtain ⟨after', called', result', -⟩ := d.session.result_call tool arguments s
  have same : called = called' := by
    rw [result, result'] at results
    exact Except.ok.inj results
  unfold answer fulfil
  simp only [Action.result_bind_of_ok result, Action.result_bind_of_ok result',
    Action.events_bind_of_ok result, Action.events_bind_of_ok result', events, same]
  rfl

/-! ## What judges a call -/

/-- A client of a server with some settings begins: the server did what it did before. -/
def Begins (settings : Settings) (client : Client) (c : Conversation) : Prop :=
  ∃ prior, c = opened ((Server.new settings client).after prior)

/-- The tool of a name that the client was last told of in a run. -/
def known? (c : Conversation) (run : List (Surroundings × Demand)) (tool : String) : Option Tool :=
  (c.told none run).bind fun w => w.toolset.lookup tool

/-- What the client knows of a tool is the input schema of the tool that is there now; or it knows of none, and
can be told of that one. -/
def Current (c : Conversation) (run : List (Surroundings × Demand)) (tool : String) : Prop :=
  ∀ t, (c.after run).session.server.toolset.lookup tool = some t →
    match c.known? run tool with
    | some known => known.inputSchema = t.inputSchema
    | none => ∃ ms, (c.after run).session.server.manifests = .ok ms

variable {settings : Settings} {client : Client}

/-- The server of a conversation that began is as some moves leave a new one. -/
theorem Begins.exists_server_after (begins : c.Begins settings client)
    (run : List (Surroundings × Demand)) :
    ∃ moves, (c.after run).session.server = (Server.new settings client).after moves := by
  obtain ⟨prior, rfl⟩ := begins
  obtain ⟨moves, reached⟩ := (opened ((Server.new settings client).after prior)).exists_server_after run
  exact ⟨prior ++ moves, by rw [reached, Server.after_append]; rfl⟩

/-- The server of a conversation that began has tools as a running server has them. -/
theorem Begins.named (begins : c.Begins settings client) (run : List (Surroundings × Demand)) :
    (c.after run).session.server.Named := by
  obtain ⟨moves, reached⟩ := begins.exists_server_after run
  rw [reached]
  exact (Server.reachable_after settings client moves).named

/-- The client knows a tool's input schema just where it was told of the tool, and then as it was told. -/
theorem Begins.get?_listed (begins : c.Begins settings client) (run : List (Surroundings × Demand))
    (other : tool ∉ OwnTool.all.map OwnTool.name) :
    Keyed.get? tool (c.after run).session.listed = (c.known? run tool).map Tool.inputSchema := by
  have knows : (c.after run).Knows (c.told none run) := by
    refine told_after ?_ run
    obtain ⟨prior, rfl⟩ := begins
    rfl
  rw [knows, known?]
  cases last : c.told none run with
  | none => rfl
  | some w =>
      rcases told_eq_some last with never | ⟨⟨ms, lists⟩, first, -, -, rfl⟩
      · cases never
      · exact Server.get?_schemas (begins.named first) lists other

/-- A call of a tool is judged by the tool of its name that the client was last told of. -/
theorem Begins.judge_of_known (begins : c.Begins settings client) (run : List (Surroundings × Demand))
    (other : tool ∉ OwnTool.all.map OwnTool.name) {known : Tool} (told : c.known? run tool = some known) :
    (c.after run).session.judge tool = .ok (some known.inputSchema) := by
  have listed := begins.get?_listed run other
  rw [told] at listed
  exact Session.judge_of_known listed

/-- If the client was told of none, a call is judged by the tool itself, where the client can be told of it. -/
theorem Begins.judge_of_unknown (begins : c.Begins settings client) (run : List (Surroundings × Demand))
    {t : Tool} (found : (c.after run).session.server.toolset.lookup tool = some t)
    (untold : c.known? run tool = none) :
    (c.after run).session.judge tool =
      (c.after run).session.server.manifests.map fun _ => some t.inputSchema := by
  have other := (begins.named run).free tool (Keyed.mem_names_of_get? found)
  have unlisted := begins.get?_listed run other
  rw [untold] at unlisted
  rw [Session.judge_of_unknown unlisted]
  cases lists : (c.after run).session.server.manifests with
  | error f => rfl
  | ok ms =>
      rw [Server.get?_schemas (begins.named run) lists other, found]
      rfl

/-- What the client knows of a tool is as the tool is: the call is judged by that. -/
theorem Begins.judge_of_current (begins : c.Begins settings client) {run : List (Surroundings × Demand)}
    (current : c.Current run tool) {t : Tool}
    (found : (c.after run).session.server.toolset.lookup tool = some t) :
    (c.after run).session.judge tool = .ok (some t.inputSchema) := by
  have agrees := current t found
  cases told : c.known? run tool with
  | some known =>
      rw [told] at agrees
      have other := (begins.named run).free tool (Keyed.mem_names_of_get? found)
      rw [begins.judge_of_known run other told, agrees]
  | none =>
      rw [told] at agrees
      obtain ⟨ms, lists⟩ := agrees
      rw [begins.judge_of_unknown run found told, lists]
      rfl

/-- Where the tools are listed, and since then no demand loads the schema anew, the client knows the tools that
are there. -/
theorem current_of_listed (c : Conversation) {first rest : List (Surroundings × Demand)} (s : Surroundings)
    (others : ∀ p ∈ rest, p.2.reloads = false)
    (lists : ∃ ms, (c.after first).session.server.manifests = .ok ms) (tool : String) :
    c.Current (first ++ (s, .listTools) :: rest) tool := by
  intro t found
  obtain ⟨ms, lists⟩ := lists
  have tells : (c.after first).tells .listTools = true := by
    show (c.after first).session.server.manifests.isOk = true
    rw [lists]
    rfl
  have settled : ∀ w, some (c.after first).session.server = some w →
      w.toolset = ((c.after first).meet s .listTools).session.server.toolset := by
    intro w is
    rw [← Option.some.inj is, server_meet_of_not_reloads (d := .listTools) rfl]
  obtain ⟨w, last⟩ := exists_told ((c.after first).meet s .listTools) (c.after first).session.server rest
  have told : c.told none (first ++ (s, .listTools) :: rest) = some w := by
    rw [told_append, Conversation.told, if_pos tells]
    exact last
  have same : w.toolset = (c.after (first ++ (s, .listTools) :: rest)).session.server.toolset := by
    rw [after_append]
    exact toolset_told settled others last
  have known : c.known? (first ++ (s, .listTools) :: rest) tool = some t := by
    rw [known?, told, Option.bind_some, same]
    exact found
  rw [known]

/-- What a client gets for a call for which it cannot be told of the tools: what listing them says. -/
theorem answer_of_judge_error {f : Failure} (unjudged : c.session.judge tool = .error f)
    (arguments : Members) (s : Surroundings) :
    c.answer tool arguments s =
      (.ok (.ok (Message.callResult ⟨f.message, true, false⟩), false), []) := by
  have called := Session.call_of_judge_error unjudged arguments s
  have result : (c.session.call tool arguments s).result = .ok (c.session, ⟨f.message, true, false⟩) := by
    rw [called]
  have events : (c.session.call tool arguments s).events = [] := by rw [called]
  unfold answer fulfil
  simp only [Action.result_bind_of_ok result, Action.events_bind_of_ok result, events]
  rfl

/-- **Calls are judged by the tools that the client was last told of.**  A call of a tool that was made for an
operation is held against the input schema that this tool had when the client was last told of the tools.  If the
client was told of no such tool, it is told of the tools first, and the call is held against the schema that the
tool has now, or refused as listing is refused.  Where what the client knows is as the tool is, or it can be told
of it, the answer turns on the schema that is installed: whatever was asked before, and whatever the server had
done before, the answer is the same.  That is so where the tools were listed and the schema was not loaded anew
since then.  The tools can be listed where descriptions tell of parameters and results. -/
theorem calls_judged (begins : c.Begins settings client) (run : List (Surroundings × Demand)) {t : Tool}
    (found : (c.after run).session.server.toolset.lookup tool = some t) :
    (∀ known, c.known? run tool = some known →
      (c.after run).session.judge tool = .ok (some known.inputSchema)) ∧
    (c.known? run tool = none → (c.after run).session.judge tool =
      (c.after run).session.server.manifests.map fun _ => some t.inputSchema) ∧
    (∀ f, (c.after run).session.judge tool = .error f → ∀ arguments s,
      (c.after run).answer tool arguments s =
        (.ok (.ok (Message.callResult ⟨f.message, true, false⟩), false), [])) ∧
    (c.Current run tool →
      (c.after run).session.judge tool = .ok (some t.inputSchema) ∧
      ∀ (d : Conversation) others, d.Begins settings client → d.Current others tool →
        (d.after others).session.server.schema = (c.after run).session.server.schema →
        ∀ arguments s, (d.after others).answer tool arguments s = (c.after run).answer tool arguments s) ∧
    (∀ first s rest, run = first ++ (s, .listTools) :: rest → (∀ p ∈ rest, p.2.reloads = false) →
      (∃ ms, (c.after first).session.server.manifests = .ok ms) → c.Current run tool) ∧
    (settings.describeOutput = true → ∃ ms, (c.after run).session.server.manifests = .ok ms) := by
  have other := (begins.named run).free tool (Keyed.mem_names_of_get? found)
  refine ⟨fun known told => begins.judge_of_known run other told, begins.judge_of_unknown run found,
    fun f unjudged => answer_of_judge_error unjudged,
    fun current => ⟨begins.judge_of_current current found, ?_⟩, ?_, fun describes => ?_⟩
  · intro d others begins' current' same arguments s
    have servers : (d.after others).session.server = (c.after run).session.server := by
      obtain ⟨moves, reached⟩ := begins.exists_server_after run
      obtain ⟨moves', reached'⟩ := begins'.exists_server_after others
      rw [reached, reached'] at same ⊢
      exact Server.after_eq_of_schema same
    have found' : (d.after others).session.server.toolset.lookup tool = some t := by
      rw [servers]
      exact found
    refine answer_congr servers ?_ arguments s
    rw [begins.judge_of_current current found, begins'.judge_of_current current' found']
  · rintro first s rest rfl others lists
    exact c.current_of_listed s others lists tool
  · obtain ⟨moves, reached⟩ := begins.exists_server_after run
    rw [reached]
    exact (Server.reachable_after settings client moves).exists_manifests describes

/-- Surroundings with a schema in a file, in which every request is answered. -/
def serving (text : String) : Surroundings where
  files := [("s", text.toUTF8.toList)]
  reply := fun _ => .response ⟨200, "OK", [], "\x7b\"data\": 1\x7d".toUTF8.toList⟩

/-- A client of a server whose only tool takes a number. -/
def numbered : Conversation :=
  opened ((Server.new Server.writing .shared).after [(serving "type Query { f(a: Int): Int }", .start)])

theorem begins_numbered : numbered.Begins Server.writing .shared := ⟨_, rfl⟩

/-- The schema is loaded anew, and then the tool takes a text. -/
def reloading : Surroundings × Demand :=
  (serving "type Query { f(a: String): Int }", .callTool "introspect-schema" [])

/-- Once the tools were listed again, a text is judged by the tool that takes it. -/
theorem calls_judged_relisted :
    let run := [reloading, (Server.cutOff, .listTools)]
    ∃ t, (numbered.after run).session.server.toolset.lookup "query-f" = some t ∧
      t.inputSchema.objection? (.obj [("a", .str "x")]) = none ∧
      (numbered.after run).session.judge "query-f" = .ok (some t.inputSchema) := by
  intro run
  have there : ((numbered.after run).session.server.toolset.lookup "query-f").any (fun t =>
      (t.inputSchema.objection? (.obj [("a", .str "x")])).isNone) = true := by
    decide +kernel
  obtain ⟨t, found, fits⟩ := (Option.any_eq_true _ _).1 there
  obtain ⟨-, -, -, answers, current, -⟩ := calls_judged begins_numbered run found
  have lists : ∃ ms, (numbered.after [reloading]).session.server.manifests = .ok ms := by
    obtain ⟨moves, reached⟩ := begins_numbered.exists_server_after [reloading]
    rw [reached]
    exact (Server.reachable_after Server.writing .shared moves).exists_manifests rfl
  have listed : numbered.Current run "query-f" := current [reloading] Server.cutOff [] rfl nofun lists
  exact ⟨t, found, Option.isNone_iff_eq_none.1 fits, (answers listed).1⟩

/-- **A tool that was loaded anew may be judged by what it was before.**  A client has the schema loaded anew and
calls a tool.  Without listing the tools in between it is refused by the old schema and nothing is done; had it
listed them, the server would be the same and the call would be run. -/
theorem exists_misjudged :
    ∃ t, (numbered.after [reloading]).session.server.toolset.lookup "query-f" = some t ∧
      (numbered.after [reloading]).session.judge "query-f" ≠ .ok (some t.inputSchema) ∧
      (numbered.after [reloading, (Server.cutOff, .listTools)]).session.server =
        (numbered.after [reloading]).session.server ∧
      (numbered.after [reloading, (Server.cutOff, .listTools)]).answer "query-f" [("a", .str "x")]
          (serving "") ≠
        (numbered.after [reloading]).answer "query-f" [("a", .str "x")] (serving "") := by
  have there : ((numbered.after [reloading]).session.server.toolset.lookup "query-f").any (fun t =>
      (t.inputSchema.objection? (.obj [("a", .str "x")])).isNone) = true := by
    decide +kernel
  have refused : ((numbered.after [reloading]).session.judge "query-f").toOption.any (fun schema =>
      schema.all fun schema => (schema.objection? (.obj [("a", .str "x")])).isNone) = false := by
    decide +kernel
  have nothing : ((numbered.after [reloading]).answer "query-f" [("a", .str "x")]
      (serving "")).2.isEmpty = true := by
    decide +kernel
  have something : ((numbered.after [reloading, (Server.cutOff, .listTools)]).answer "query-f"
      [("a", .str "x")] (serving "")).2.isEmpty = false := by
    decide +kernel
  obtain ⟨t, found, fits⟩ := (Option.any_eq_true _ _).1 there
  have unchanged := server_meet_of_not_reloads (d := .listTools) rfl (numbered.after [reloading])
    Server.cutOff
  refine ⟨t, found, fun same => ?_, unchanged, fun same => ?_⟩
  · rw [same, Except.toOption, Option.any_some, Option.all_some, fits] at refused
    cases refused
  · rw [same, nothing] at something
    cases something

end Conversation

end QueryTools
