import QueryTools.Server

/-!
# The requests of a run

What a server posts.  A run is a list of demands, each met in surroundings of its own: loading the
schema for the first time, or calling a tool.  A demand that fails leaves the server as it was.

The requests of a sequence of actions are those of its parts up to the first failure
(`Action.requests_bind`), and from that one equation for each action follows what it posts:

* `Settings.requests_loadSchema` -- loading posts the introspection query, or nothing where the
  schema is in a file;
* `Gateway.requests_execute` -- an execution posts one request if the query passes the check, and
  else none;
* `Server.posted_start`, `Server.posted_call` -- what a demand posts, in any state.
-/

namespace QueryTools

namespace Action

variable {α β : Type} {s : Surroundings}

/-- A sequence posts what its first part posts and, if that succeeds, what its second part does. -/
theorem requests_bind (a : Action α) (f : α → Action β) :
    ((a >>= f) s).requests = (a s).requests ++
      match (a s).result with
      | .ok x => (f x s).requests
      | .error _ => [] := by
  unfold Outcome.requests
  cases h : (a s).result with
  | error e =>
      rw [events_bind_of_error h, List.append_nil]
  | ok x =>
      rw [events_bind_of_ok h, List.filterMap_append]

@[simp] theorem requests_pure (x : α) : ((pure x : Action α) s).requests = [] := rfl

@[simp] theorem requests_ofResult (r : Except Failure α) : (ofResult r s).requests = [] := rfl

@[simp] theorem requests_fail (f : Failure) : ((fail f : Action α) s).requests = [] := rfl

@[simp] theorem requests_say (level : LogLevel) (logger text : String) :
    (say level logger text s).requests = [] := rfl

@[simp] theorem requests_sayIf (record : Option LogRecord) : (sayIf record s).requests = [] := by
  cases record <;> rfl

@[simp] theorem result_sayIf (record : Option LogRecord) : (sayIf record s).result = .ok () := by
  cases record <;> rfl

@[simp] theorem requests_post (client : Client) (request : Request) :
    (post client request s).requests = [request] := rfl

@[simp] theorem result_post (client : Client) (request : Request) :
    (post client request s).result = .ok (s.reply request) := rfl

@[simp] theorem requests_surroundings : (surroundings s).requests = [] := rfl

@[simp] theorem result_surroundings : (surroundings s).result = .ok s := rfl

/-- Changing the result of an action afterwards. -/
theorem result_bind_pure (a : Action α) (f : α → β) (s : Surroundings) :
    ((a >>= fun x => pure (f x)) s).result = (a s).result.map f := by
  cases first : (a s).result with
  | error e => exact result_bind_of_error first
  | ok x => exact result_bind_of_ok first

/-- A sequence posts what its first part does if the second part posts nothing. -/
theorem requests_bind_of_silent {a : Action α} {f : α → Action β}
    (hf : ∀ x, (f x s).requests = []) : ((a >>= f) s).requests = (a s).requests := by
  rw [requests_bind]
  cases (a s).result with
  | error e => exact List.append_nil _
  | ok x => simp only [hf x, List.append_nil]

/-- A sequence posts nothing if neither of its parts does. -/
theorem requests_bind_eq_nil {a : Action α} {f : α → Action β} (ha : (a s).requests = [])
    (hf : ∀ x, (f x s).requests = []) : ((a >>= f) s).requests = [] :=
  (requests_bind_of_silent hf).trans ha

/-! ## What is only said -/

/-- An action says something at most: it neither posts, nor opens or closes connections. -/
def OnlySays (a : Action α) (s : Surroundings) : Prop := ∀ e ∈ (a s).events, ∃ record, e = .said record

theorem onlySays_ofResult (r : Except Failure α) : (ofResult r).OnlySays s := by
  intro e member
  cases member

theorem onlySays_say (level : LogLevel) (logger text : String) : (say level logger text).OnlySays s := by
  intro e member
  exact ⟨_, List.mem_singleton.1 member⟩

/-- Writing a record that may be missing sends nothing. -/
theorem onlySays_sayIf (record : Option LogRecord) : (sayIf record).OnlySays s := by
  intro e member
  cases record with
  | none => cases member
  | some said => exact ⟨said, List.mem_singleton.1 member⟩

/-- Actions that send nothing send nothing one after the other. -/
theorem onlySays_bind {a : Action α} {f : α → Action β} (first : a.OnlySays s)
    (second : ∀ x, (f x).OnlySays s) : (a >>= f).OnlySays s := by
  intro e member
  cases result : (a s).result with
  | error f =>
      rw [events_bind_of_error result] at member
      exact first e member
  | ok x =>
      rw [events_bind_of_ok result] at member
      rcases List.mem_append.1 member with early | late
      · exact first e early
      · exact second x e late

/-- What is only said posts nothing. -/
theorem OnlySays.requests_eq_nil {a : Action α} (only : a.OnlySays s) : (a s).requests = [] := by
  refine List.filterMap_eq_nil_iff.2 fun e member => ?_
  obtain ⟨record, rfl⟩ := only e member
  rfl

end Action

/-- An exchange posts its request once, whatever comes of it. -/
@[simp] theorem Request.requests_exchange (request : Request) (client : Client) (s : Surroundings) :
    (request.exchange client s).requests = [request] := by
  simp [Request.exchange, Action.requests_bind]

/-! ## Making tools -/

namespace ToolRules

/-- Collecting tools posts nothing. -/
theorem requests_collect (r : ToolRules) (schema : Schema) (os : List Operation)
    (done : Keyed Tool) (s : Surroundings) : (r.collect schema done os s).requests = [] := by
  induction os generalizing done with
  | nil => rfl
  | cons o rest ih =>
      unfold collect
      refine Action.requests_bind_eq_nil rfl fun fate => ?_
      cases fate with
      | excluded => exact Action.requests_bind_eq_nil rfl fun _ => ih done
      | reserved name => exact Action.requests_bind_eq_nil rfl fun _ => ih done
      | kept tool =>
          dsimp only
          split
          · rfl
          · exact ih _

/-- Tools are computed without a request. -/
theorem requests_compute (r : ToolRules) (schema : Schema) (s : Surroundings) :
    (r.compute schema s).requests = [] := by
  refine Action.requests_bind_eq_nil ?_ fun os => r.requests_collect schema os [] s
  exact Action.requests_bind_eq_nil rfl fun _ => Action.requests_bind_eq_nil rfl fun _ => rfl

end ToolRules

namespace Toolset

/-- Tools are built without a request. -/
theorem requests_build (t : Toolset) (schema : Schema) (s : Surroundings) :
    (t.build schema s).requests = [] :=
  Action.requests_bind_eq_nil (t.rules.requests_compute schema s) fun _ =>
    Action.requests_bind_eq_nil rfl fun _ => rfl

/-- Tools are loaded anew without a request. -/
theorem requests_reload (t : Toolset) (schema : Schema) (s : Surroundings) :
    (t.reload schema s).requests = [] :=
  Action.requests_bind_eq_nil (t.requests_build schema s) fun _ =>
    Action.requests_bind_eq_nil rfl fun _ => rfl

end Toolset

/-! ## Loading a schema -/

/-- What loading the schema posts: the introspection query, unless the schema is in a file. -/
def Settings.loadRequests (settings : Settings) : List Request :=
  match settings.schemaFile? with
  | some _ => []
  | none => [IntrospectionQuery.request settings.endpoint settings.requestHeaders]

/-- A schema in a file is read without a request. -/
theorem Schema.requests_ofFile (path : String) (s : Surroundings) :
    (Schema.ofFile path s).requests = [] := by
  simp only [Schema.ofFile, Action.requests_bind, Action.requests_say, Action.result_say,
    Action.requests_surroundings, Action.result_surroundings, Action.requests_ofResult,
    List.nil_append]
  split <;> rfl

/-- A schema is asked for with one request, the introspection. -/
theorem Schema.requests_ofEndpoint (client : Client) (url : String) (headers : Keyed String)
    (s : Surroundings) :
    (Schema.ofEndpoint (some client) url headers s).requests =
      [IntrospectionQuery.request url headers] := by
  simp only [Schema.ofEndpoint]
  rw [Action.requests_bind, Action.requests_say, Action.result_say, List.nil_append]
  refine (Action.requests_bind_of_silent fun payload => ?_).trans (Request.requests_exchange _ _ s)
  refine Action.requests_bind_eq_nil rfl fun schema => ?_
  refine Action.requests_bind_eq_nil rfl fun around => ?_
  exact Action.requests_bind_eq_nil rfl fun _ => rfl

/-- Loading the schema posts the same whatever it finds around it. -/
theorem Settings.requests_loadSchema (settings : Settings) (client : Client) (s : Surroundings) :
    (settings.loadSchema (some client) s).requests = settings.loadRequests := by
  unfold Settings.loadSchema Settings.loadRequests
  cases settings.schemaFile? with
  | some path => exact Schema.requests_ofFile path s
  | none => exact Schema.requests_ofEndpoint client _ _ s

/-! ## Executing a query -/

namespace Gateway

/-- A query passes the check if its text is a document and, where mutations are not admitted, the
document defines none. -/
theorem result_check_eq_ok_iff {settings : Settings} {query : String} {document : Document}
    {s : Surroundings} :
    (check settings query s).result = .ok document ↔
      Document.parse query = .ok document ∧
        (document.hasMutation = true → settings.allowMutations = true) := by
  unfold check
  cases Document.parse query with
  | error e => simp
  | ok found =>
      by_cases refused : (found.hasMutation && !settings.allowMutations) = true
      · simp only [refused, if_true]
        constructor
        · intro h
          obtain ⟨_, _, h⟩ := Action.result_bind_eq_ok.1 h
          cases h
        · rintro ⟨h, admitted⟩
          cases h
          simp_all
      · simp only [refused]
        constructor
        · intro h
          cases h
          simp_all
        · rintro ⟨h, -⟩
          cases h
          rfl

/-- Checking a query posts nothing, and opens and closes no connection; nor does preparing the request. -/
theorem onlySays_check (settings : Settings) (query : String) (s : Surroundings) :
    (check settings query).OnlySays s := by
  unfold check
  cases Document.parse query with
  | error e => exact Action.onlySays_ofResult _
  | ok document =>
      by_cases refused : (document.hasMutation && !settings.allowMutations) = true
      · simp only [refused, if_true]
        exact Action.onlySays_bind (Action.onlySays_say _ _ _) fun _ => Action.onlySays_ofResult _
      · simp only [refused]
        exact Action.onlySays_ofResult _

/-- A query is prepared without a request. -/
theorem onlySays_prepare (settings : Settings) (query : String)
    (vars : Except Failure (Option Variables)) (s : Surroundings) :
    (prepare settings query vars).OnlySays s := by
  refine Action.onlySays_bind (onlySays_check settings query s) fun _ => ?_
  refine Action.onlySays_bind (Action.onlySays_ofResult vars) fun given => ?_
  refine Action.onlySays_bind (Action.onlySays_say _ _ _) fun _ => ?_
  exact Action.onlySays_bind (Action.onlySays_say _ _ _) fun _ => Action.onlySays_ofResult _

/-- What is sent for a query is not sent while it is prepared. -/
theorem requests_prepare (settings : Settings) (query : String)
    (vars : Except Failure (Option Variables)) (s : Surroundings) :
    (prepare settings query vars s).requests = [] :=
  (onlySays_prepare settings query vars s).requests_eq_nil

/-- What is prepared is the request for the query, if the query passes the check and there are no
bad variables. -/
theorem result_prepare_eq_ok_iff {settings : Settings} {query : String}
    {vars : Except Failure (Option Variables)} {request : Request} {s : Surroundings} :
    (prepare settings query vars s).result = .ok request ↔
      (∃ document, (check settings query s).result = .ok document) ∧
        ∃ given, vars = .ok given ∧ request = Gateway.request settings query given := by
  unfold prepare
  constructor
  · intro h
    obtain ⟨document, checked, h⟩ := Action.result_bind_eq_ok.1 h
    obtain ⟨given, hvars, h⟩ := Action.result_bind_eq_ok.1 h
    obtain ⟨_, _, h⟩ := Action.result_bind_eq_ok.1 h
    obtain ⟨_, _, h⟩ := Action.result_bind_eq_ok.1 h
    cases h
    exact ⟨⟨document, checked⟩, given, hvars, rfl⟩
  · rintro ⟨⟨document, checked⟩, given, rfl, rfl⟩
    refine Action.result_bind_eq_ok.2 ⟨document, checked, ?_⟩
    refine Action.result_bind_eq_ok.2 ⟨given, rfl, ?_⟩
    refine Action.result_bind_eq_ok.2 ⟨(), rfl, ?_⟩
    exact Action.result_bind_eq_ok.2 ⟨(), rfl, rfl⟩

/-- Telling of an answer sends nothing. -/
theorem onlySays_answer (payload : List (String × Json)) (s : Surroundings) :
    (answer payload).OnlySays s := by
  unfold answer
  cases Keyed.get? "errors" payload with
  | none => exact Action.onlySays_ofResult _
  | some errors =>
      by_cases present : errors.isTruthy = true
      · simp only [present, if_true]
        refine Action.onlySays_bind (Action.onlySays_ofResult _) fun _ => ?_
        exact Action.onlySays_bind (Action.onlySays_say _ _ _) fun _ => Action.onlySays_ofResult _
      · simp only [present]
        exact Action.onlySays_ofResult _

theorem requests_answer (payload : List (String × Json)) (s : Surroundings) :
    (answer payload s).requests = [] := (onlySays_answer payload s).requests_eq_nil

/-- An execution posts what was prepared, once, over whichever connection. -/
theorem requests_execute (g : Gateway) (query : String) (vars : Except Failure (Option Variables))
    (s : Surroundings) :
    (g.execute query vars s).2.requests =
      match (prepare g.settings query vars s).result with
      | .ok request => [request]
      | .error _ => [] := by
  have silent := requests_prepare g.settings query vars s
  unfold execute
  cases prepared : (prepare g.settings query vars s).result with
  | error f => simpa [prepared, Outcome.requests] using silent
  | ok request =>
      have connected : g.connect.2.2.filterMap Event.request? = [] := by
        unfold connect
        split <;> rfl
      have sent : ((request.exchange g.connect.2.1 >>= answer) s).requests = [request] :=
        (Action.requests_bind_of_silent fun payload => requests_answer payload s).trans
          (request.requests_exchange _ s)
      unfold Outcome.requests at silent sent ⊢
      simp only [prepared, List.filterMap_append, silent, connected, sent, List.nil_append]

end Gateway

end QueryTools
