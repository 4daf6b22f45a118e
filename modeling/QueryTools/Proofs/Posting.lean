import QueryTools.Proofs.Calls

/-!
# How requests are posted

Requests leave a server on two routes.  The introspection query is given headers that were put together
before, and puts them over those of every JSON request once more; an executed query takes them as they
are.  Both come to the same, since the headers keep their order when they are merged a second time.

Main statements:

* `Headers.build_build` -- putting headers together again changes nothing;
* `Server.addresses_of_mem_posted` -- all that a move posts goes to the endpoint with the headers that
  the settings give;
* `Server.requests_call_of_isRefusal` -- a call that is refused posts nothing;
* `Server.requests_addressed` -- how every request of a run is addressed, and how many each move posts.
-/

namespace QueryTools

/-! ## Addresses -/

/-- Headers that were put together already come out as they went in. -/
theorem Headers.build_build (own : Keyed String) (style : Option AuthStyle) (value : Option String) :
    build (build own style value) none none = build own style value := by
  have begins : Keyed.names json <+: Keyed.names (build own style value) :=
    (Keyed.names_prefix_merge json own).trans (Keyed.names_prefix_merge _ (credential style value))
  have once : (Keyed.names json).Nodup := List.nodup_singleton _
  have distinct : (Keyed.names (build own style value)).Nodup :=
    Keyed.nodup_names_merge (Keyed.nodup_names_merge once own) (credential style value)
  calc build (build own style value) none none
      = Keyed.merge json (build own style value) := rfl
    _ = build own style value := Keyed.merge_of_prefix begins distinct

/-- A request goes to the endpoint of the settings, with their headers over those of every JSON request
and their credential over both. -/
structure Settings.Addresses (settings : Settings) (request : Request) : Prop where
  url : request.url = settings.endpoint
  headers : request.headers = Headers.build settings.headers settings.authStyle settings.authValue

namespace Settings

variable {settings : Settings}

/-- What is posted to load the schema goes where the settings say. -/
theorem addresses_of_mem_loadRequests {request : Request}
    (posted : request ∈ settings.loadRequests) : settings.Addresses request := by
  unfold loadRequests at posted
  cases source : settings.schemaFile? with
  | some path =>
      rw [source] at posted
      cases posted
  | none =>
      rw [source] at posted
      cases List.mem_singleton.1 posted
      exact ⟨rfl, Headers.build_build _ _ _⟩

/-- How many requests loading the schema takes: one if no file is set, which an empty path does not do
either. -/
def loads (settings : Settings) : Nat :=
  if settings.schemaPath = none ∨ settings.schemaPath = some "" then 1 else 0

/-- Loading posts once, if the schema is not in a file. -/
theorem length_loadRequests (settings : Settings) :
    settings.loadRequests.length = settings.loads := by
  unfold loadRequests loads schemaFile?
  cases path : settings.schemaPath with
  | none => rfl
  | some file =>
      by_cases empty : file = ""
      · simp [Option.filter, empty]
      · simp [Option.filter, empty]

end Settings

namespace Gateway

variable {g : Gateway} {query : String} {vars : Except Failure (Option Variables)} {s : Surroundings}

/-- What is posted for a query goes where the settings say. -/
theorem addresses_of_mem_requests {request : Request}
    (posted : request ∈ (g.execute query vars s).2.requests) : g.settings.Addresses request := by
  rw [requests_execute] at posted
  cases prepared : (prepare g.settings query vars s).result with
  | error f =>
      rw [prepared] at posted
      cases posted
  | ok ready =>
      rw [prepared, List.mem_singleton] at posted
      obtain ⟨-, given, -, rfl⟩ := result_prepare_eq_ok_iff.1 prepared
      subst posted
      exact ⟨rfl, rfl⟩

/-- For a query one request is posted at most. -/
theorem length_requests_execute (g : Gateway) (query : String)
    (vars : Except Failure (Option Variables)) (s : Surroundings) :
    (g.execute query vars s).2.requests.length ≤ 1 := by
  rw [requests_execute]
  cases (prepare g.settings query vars s).result with
  | error f => exact Nat.zero_le 1
  | ok request => exact Nat.le_refl 1

/-- An execution that is refused posts nothing. -/
theorem requests_execute_of_isRefusal {given : Option Variables} {f : Failure}
    (failed : (g.execute query (.ok given) s).2.result = .error f) (refusal : f.IsRefusal) :
    (g.execute query (.ok given) s).2.requests = [] := by
  rw [requests_execute]
  cases prepared : (prepare g.settings query (.ok given) s).result with
  | error f => rfl
  | ok request =>
      -- What passed the check was posted, and what comes of a request is no refusal.
      have admitted := (result_prepare_eq_ok_iff.1 prepared).1
      rw [result_execute admitted] at failed
      exact absurd refusal (Failure.not_isRefusal_of_told failed)

end Gateway

namespace Server

variable {v : Server} {s : Surroundings} {tool : String} {arguments : Json}

/-! ## One move -/

/-- A call loads the schema anew: it is one of the tool for that, with good arguments. -/
def Reloads (tool : String) (arguments : Json) : Prop :=
  tool = OwnTool.introspect.name ∧
    ∃ given, checkArguments tool OwnTool.introspect.fields arguments = .ok given

/-- A call that loads the schema posts what loading does. -/
theorem requests_call_of_reloads (reloads : Reloads tool arguments) (v : Server) (s : Surroundings) :
    (v.call tool arguments s).requests = v.settings.loadRequests := by
  obtain ⟨rfl, given, checked⟩ := reloads
  rw [requests_call_introspect, checked]

/-- What a call posts that does not load the schema anew: what executing its query posts, if it leads to
one. -/
theorem requests_call_of_not_reloads (stays : ¬Reloads tool arguments) (v : Server)
    (s : Surroundings) :
    (v.call tool arguments s).requests = [] ∨
      tool ≠ OwnTool.introspect.name ∧ ∃ query vars,
        v.submit s tool arguments = .ok (query, vars) ∧
          (v.call tool arguments s).requests =
            ((Gateway.sharing v.settings v.client).execute query (.ok vars) s).2.requests := by
  by_cases own : tool = OwnTool.introspect.name
  · left
    subst own
    rw [requests_call_introspect]
    cases checked : checkArguments OwnTool.introspect.name OwnTool.introspect.fields arguments with
    | error f => rfl
    | ok given => exact absurd ⟨rfl, given, checked⟩ stays
  · have posted := requests_call_of_ne own v arguments s
    cases submitted : v.submit s tool arguments with
    | error f =>
        rw [submitted] at posted
        exact .inl posted
    | ok submission =>
        rw [submitted] at posted
        exact .inr ⟨own, _, _, rfl, posted⟩

/-- All that a move posts is addressed as the settings say. -/
theorem addresses_of_mem_posted {m : Move} {request : Request} (posted : request ∈ v.posted s m) :
    v.settings.Addresses request := by
  cases m with
  | start =>
      have loads : request ∈ v.settings.loadRequests := by
        rw [← v.requests_start s]
        exact posted
      exact Settings.addresses_of_mem_loadRequests loads
  | call tool arguments =>
      simp only [Server.posted] at posted
      by_cases reloads : Reloads tool arguments
      · rw [requests_call_of_reloads reloads] at posted
        exact Settings.addresses_of_mem_loadRequests posted
      · rcases requests_call_of_not_reloads reloads v s with silent | ⟨-, query, vars, -, same⟩
        · rw [silent] at posted
          cases posted
        · rw [same] at posted
          exact Gateway.addresses_of_mem_requests posted

/-- For any other call one request is posted at most. -/
theorem length_requests_call (stays : ¬Reloads tool arguments) (v : Server) (s : Surroundings) :
    (v.call tool arguments s).requests.length ≤ 1 := by
  rcases requests_call_of_not_reloads stays v s with silent | ⟨-, query, vars, -, same⟩
  · rw [silent]
    exact Nat.zero_le 1
  · rw [same]
    exact Gateway.length_requests_execute _ query _ s

/-- A call that is refused posts nothing. -/
theorem requests_call_of_isRefusal (stays : ¬Reloads tool arguments) {f : Failure}
    (fails : Fails (v.call tool arguments s) f) (refusal : f.IsRefusal) :
    (v.call tool arguments s).requests = [] := by
  rcases requests_call_of_not_reloads stays v s with silent | ⟨other, query, vars, submitted, same⟩
  · exact silent
  · rw [same]
    rcases (fails_call_of_ne other).1 fails with refused | ⟨_, _, again, failed⟩
    · cases submitted.symm.trans refused
    · cases submitted.symm.trans again
      exact Gateway.requests_execute_of_isRefusal failed refusal

/-! ## Whole runs -/

/-- **All requests are addressed alike.**  Whatever a run posts, to learn the schema or to run a query,
goes to the endpoint with one and the same list of headers.  In whatever state the server is, starting
and loading anew post once if no schema file is set and else not at all; any other call posts at most
once, and nothing where it is refused. -/
theorem requests_addressed (settings : Settings) :
    (∀ client run, ∀ request ∈ (new settings client).requests run, settings.Addresses request) ∧
    ∀ v : Server, v.Reachable settings → ∀ s,
      (∀ m, ∀ request ∈ v.posted s m, settings.Addresses request) ∧
      (v.posted s .start).length = settings.loads ∧
      ∀ tool arguments,
        (Reloads tool arguments → (v.posted s (.call tool arguments)).length = settings.loads) ∧
        (¬Reloads tool arguments → (v.posted s (.call tool arguments)).length ≤ 1 ∧
          ∀ f, Fails (v.call tool arguments s) f → f.IsRefusal →
            v.posted s (.call tool arguments) = []) := by
  constructor
  · intro client run request member
    obtain ⟨before, s, m, rest, -, posted⟩ := mem_requests.1 member
    have same := settings_after (new settings client) before
    have addressed := addresses_of_mem_posted posted
    rw [same] at addressed
    exact addressed
  · intro v reachable s
    have same := reachable.settings_eq
    subst same
    refine ⟨fun m request posted => addresses_of_mem_posted posted, ?_, fun tool arguments => ⟨?_, ?_⟩⟩
    · rw [posted, requests_start, Settings.length_loadRequests]
    · intro reloads
      rw [posted, requests_call_of_reloads reloads, Settings.length_loadRequests]
    · intro stays
      refine ⟨length_requests_call stays v s, fun f fails refusal => ?_⟩
      exact requests_call_of_isRefusal stays fails refusal

/-- Settings whose own headers tell another content and another credential than is sent. -/
def dressed : Settings where
  headers := [("Authorization", "none"), ("Content-Type", "text/plain"), ("X-Id", "7")]
  authStyle := some .bearer
  authValue := some "t"

/-- A run that starts, loads anew, runs a query and calls a tool that is not there. -/
def errands : List (Surroundings × Move) :=
  [(cutOff, .start), (cutOff, .call "introspect-schema" .null),
    (cutOff, .call "query-graphql" (.obj [("query", .str "{ a }")])), (cutOff, .call "query-a" .null)]

/-- Three requests of four moves, with the headers in one order. -/
theorem requests_addressed_errands :
    (∀ request ∈ (new dressed .shared).requests errands, request.headers =
      [("Content-Type", "text/plain"), ("Authorization", "Bearer t"), ("X-Id", "7")]) ∧
    (new dressed .shared).Reachable dressed ∧
    ((new dressed .shared).posted cutOff .start).length = 1 ∧
    Reloads "introspect-schema" .null ∧
    ((new dressed .shared).posted cutOff (.call "introspect-schema" .null)).length = 1 ∧
    ¬Reloads "query-a" .null ∧ Fails ((new dressed .shared).call "query-a" .null cutOff)
      (.toolNotFound "query-a") ∧
    (new dressed .shared).posted cutOff (.call "query-a" .null) = [] := by
  have reachable : (new dressed .shared).Reachable dressed := reachable_after dressed .shared []
  obtain ⟨everywhere, here⟩ := requests_addressed dressed
  obtain ⟨-, starts, calls⟩ := here _ reachable cutOff
  have reloads : Reloads "introspect-schema" .null := ⟨rfl, [], rfl⟩
  have stays : ¬Reloads "query-a" .null := by
    rintro ⟨never, -⟩
    exact absurd never (by decide)
  have fails : Fails ((new dressed .shared).call "query-a" .null cutOff) (.toolNotFound "query-a") :=
    .inl rfl
  refine ⟨fun request member => ?_, reachable, starts, reloads, (calls _ _).1 reloads, stays, fails, ?_⟩
  · have built := (everywhere .shared errands request member).headers
    exact built.trans (by decide +kernel)
  · exact ((calls _ _).2 stays).2 _ fails (.inl rfl)

example : ((new dressed .shared).requests errands).length = 3 := by decide +kernel

end Server

end QueryTools
