import QueryTools.Proofs.Outcome
import QueryTools.Proofs.Requests

/-!
# Runs of a server

A run is a list of moves, each made in surroundings of its own: loading the schema for the first
time, or calling a tool.  A move that fails leaves the server as it was.  What a move posts is known
exactly:

* `Server.requests_start`, `Server.requests_refresh` -- loading the schema, for the first time or
  anew, posts what `Settings.loadRequests` says;
* `Server.requests_call_introspect`, `Server.requests_call_of_ne` -- a call posts what loading
  posts, or what executing its query posts, and nothing if its arguments are no good;
* `Server.settings_after` -- a run does not change the settings.
-/

namespace QueryTools

namespace Toolset

/-- Building puts the tools in place that are computed. -/
theorem result_build (t : Toolset) (schema : Schema) (s : Surroundings) :
    (t.build schema s).result = (t.rules.compute schema s).result.map fun tools => { t with tools } := by
  unfold build
  cases computed : (t.rules.compute schema s).result with
  | error f => exact Action.result_bind_of_error computed
  | ok tools =>
      refine (Action.result_bind_of_ok computed).trans ?_
      exact Action.result_bind_of_ok rfl

/-- Loading anew comes to the same. -/
theorem result_reload (t : Toolset) (schema : Schema) (s : Surroundings) :
    (t.reload schema s).result = (t.build schema s).result := by
  unfold reload
  cases built : (t.build schema s).result with
  | error f => exact Action.result_bind_of_error built
  | ok rebuilt =>
      refine (Action.result_bind_of_ok built).trans ?_
      exact Action.result_bind_of_ok rfl

end Toolset

namespace Server

/-- Something that a server is made to do. -/
inductive Move where
  | start
  | call (tool : String) (arguments : Json)

/-- The server after a move. -/
def meet (v : Server) (s : Surroundings) : Move → Server
  | .start =>
    match (v.start s).result with
    | .ok started => started
    | .error _ => v
  | .call tool arguments =>
    match (v.call tool arguments s).result with
    | .ok (called, _) => called
    | .error _ => v

/-- What a move posts. -/
def posted (v : Server) (s : Surroundings) : Move → List Request
  | .start => (v.start s).requests
  | .call tool arguments => (v.call tool arguments s).requests

/-- The server after a run. -/
def after (v : Server) : List (Surroundings × Move) → Server
  | [] => v
  | (s, m) :: rest => (v.meet s m).after rest

/-- What a run posts. -/
def requests (v : Server) : List (Surroundings × Move) → List Request
  | [] => []
  | (s, m) :: rest => v.posted s m ++ (v.meet s m).requests rest

/-- Moves may be met in two parts. -/
theorem after_append (v : Server) (first rest : List (Surroundings × Move)) :
    v.after (first ++ rest) = (v.after first).after rest := by
  induction first generalizing v with
  | nil => rfl
  | cons step first ih => exact ih (v.meet step.1 step.2)

/-! ## What a move posts -/

/-- A schema is installed without a request. -/
theorem requests_install {build : Toolset → Schema → Action Toolset} {s : Surroundings}
    (silent : ∀ t schema, (build t schema s).requests = []) (v : Server) (schema : Schema) :
    (v.install build schema s).requests = [] :=
  Action.requests_bind_eq_nil (silent v.toolset schema) fun _ => rfl

/-- The server warns of a file without a request. -/
theorem requests_warnOfFile (v : Server) (s : Surroundings) : (v.warnOfFile s).requests = [] := by
  unfold warnOfFile
  cases v.settings.schemaFile? with
  | none => rfl
  | some path =>
      by_cases given : v.settings.given.contains .endpoint = true
      · simp only [given, if_true]
        rfl
      · simp only [given]
        rfl

/-- Warning of a file never fails. -/
@[simp] theorem result_warnOfFile (v : Server) (s : Surroundings) :
    (v.warnOfFile s).result = .ok () := by
  unfold warnOfFile
  cases v.settings.schemaFile? with
  | none => rfl
  | some path =>
      by_cases given : v.settings.given.contains .endpoint = true
      · simp only [given, if_true]
        rfl
      · simp only [given]
        rfl

/-- Starting posts what loading the schema posts. -/
theorem requests_start (v : Server) (s : Surroundings) :
    (v.start s).requests = v.settings.loadRequests := by
  unfold start
  rw [Action.requests_bind, requests_warnOfFile, result_warnOfFile, List.nil_append]
  refine (Action.requests_bind_of_silent fun schema => ?_).trans
    (v.settings.requests_loadSchema v.client s)
  refine Action.requests_bind_eq_nil ?_ fun started => ?_
  · exact requests_install (fun t schema => t.requests_build schema s) v schema
  · exact Action.requests_bind_eq_nil rfl fun _ => rfl

/-- Loading the schema anew posts what loading it posts. -/
theorem requests_refresh (v : Server) (s : Surroundings) :
    (v.refresh s).requests = v.settings.loadRequests := by
  unfold refresh
  refine (Action.requests_bind_of_silent fun schema => ?_).trans
    (v.settings.requests_loadSchema v.client s)
  refine Action.requests_bind_eq_nil ?_ fun _ => rfl
  exact requests_install (fun t schema => t.requests_reload schema s) v schema

/-- A call of the tool that loads the schema anew posts what loading it posts, unless its arguments
are no good. -/
theorem requests_call_introspect (v : Server) (arguments : Json) (s : Surroundings) :
    (v.call OwnTool.introspect.name arguments s).requests =
      match checkArguments OwnTool.introspect.name OwnTool.introspect.fields arguments with
      | .ok _ => v.settings.loadRequests
      | .error _ => [] := by
  unfold call
  rw [Action.requests_bind, Action.requests_say, Action.result_say, List.nil_append]
  simp only [if_true]
  rw [Action.requests_bind, Action.requests_ofResult, Action.result_ofResult, List.nil_append]
  cases checkArguments OwnTool.introspect.name OwnTool.introspect.fields arguments with
  | ok given => exact v.requests_refresh s
  | error f => rfl

/-- A call of any other tool posts what executing its query posts, and nothing if it leads to no
query. -/
theorem requests_call_of_ne {tool : String} (other : tool ≠ OwnTool.introspect.name) (v : Server)
    (arguments : Json) (s : Surroundings) :
    (v.call tool arguments s).requests =
      match v.submit s tool arguments with
      | .ok (query, vars) =>
        ((Gateway.sharing v.settings v.client).execute query (.ok vars) s).2.requests
      | .error _ => [] := by
  unfold call
  rw [Action.requests_bind, Action.requests_say, Action.result_say, List.nil_append]
  simp only [other, if_false]
  rw [Action.requests_bind, Action.requests_surroundings, Action.result_surroundings, List.nil_append]
  dsimp only
  rw [Action.requests_bind, Action.requests_ofResult, Action.result_ofResult, List.nil_append]
  cases v.submit s tool arguments with
  | error f => rfl
  | ok submitted =>
      refine (Action.requests_bind_of_silent fun text => rfl).trans ?_
      exact Action.requests_bind_of_silent fun answer => rfl

/-! ## What becomes of the server -/

/-- A call of any tool but the one that loads the schema anew gives the answer to its query. -/
theorem result_call_of_ne {tool : String} (other : tool ≠ OwnTool.introspect.name) (v : Server)
    (arguments : Json) (s : Surroundings) :
    (v.call tool arguments s).result =
      match v.submit s tool arguments with
      | .ok (query, vars) =>
        ((Gateway.sharing v.settings v.client).execute query (.ok vars) s).2.result.map fun answer =>
          (v, .ok (Json.obj answer).indented)
      | .error f => .error f := by
  unfold call
  rw [Action.result_bind_of_ok (s := s) (x := ()) rfl]
  simp only [other, if_false]
  rw [Action.result_bind_of_ok (s := s) (x := s) rfl]
  cases v.submit s tool arguments with
  | error f => exact Action.result_bind_of_error rfl
  | ok submitted =>
      obtain ⟨query, vars⟩ := submitted
      rw [Action.result_bind_of_ok (s := s) (x := (query, vars)) rfl]
      have ran := Action.result_bind_pure (fun s => ((Gateway.sharing v.settings v.client).execute
        query (.ok vars) s).2) (fun answer => (Json.obj answer).indented) s
      refine (Action.result_bind_pure (v.run query (.ok vars)) (fun text => (v, Except.ok text)) s).trans
        ?_
      unfold run
      rw [ran]
      dsimp only
      cases ((Gateway.sharing v.settings v.client).execute query (.ok vars) s).2.result <;> rfl

/-- Installing a schema makes the tools for it and changes nothing but the schema and the tools. -/
theorem result_install (v : Server) (build : Toolset → Schema → Action Toolset) (schema : Schema)
    (s : Surroundings) :
    (v.install build schema s).result =
      (build v.toolset schema s).result.map fun toolset => { v with schema := some schema, toolset } :=
  Action.result_bind_pure _ _ s

/-- A schema is installed with the tools that are computed of it. -/
theorem result_install_build {v w : Server} {schema : Schema} {s : Surroundings} :
    (v.install Toolset.build schema s).result = .ok w ↔
      ∃ tools, (v.toolset.rules.compute schema s).result = .ok tools ∧
        w = { v with schema := some schema, toolset := { v.toolset with tools } } := by
  rw [result_install, Toolset.result_build]
  cases (v.toolset.rules.compute schema s).result with
  | error f => simp [Except.map]
  | ok tools => simp [Except.map, eq_comm]

/-- Installing a schema fails only where its tools cannot be made. -/
theorem result_install_build_eq_error {v : Server} {schema : Schema} {s : Surroundings} {f : Failure}
    (failed : (v.install Toolset.build schema s).result = .error f) :
    (v.toolset.rules.compute schema s).result = .error f := by
  rw [result_install, Toolset.result_build] at failed
  cases computed : (v.toolset.rules.compute schema s).result with
  | error g =>
      rw [computed] at failed
      cases failed
      rfl
  | ok tools =>
      rw [computed] at failed
      cases failed

/-- Whether a schema is installed for the first time or anew makes no difference to the server. -/
theorem result_install_reload (v : Server) (schema : Schema) (s : Surroundings) :
    (v.install Toolset.reload schema s).result = (v.install Toolset.build schema s).result := by
  rw [result_install, result_install, Toolset.result_reload]

/-- Starting loads the schema and installs it. -/
theorem result_start (v : Server) (s : Surroundings) :
    (v.start s).result =
      (v.settings.loadSchema (some v.client) s).result.bind fun schema =>
        (v.install Toolset.build schema s).result := by
  unfold start
  rw [Action.result_bind_of_ok (v.result_warnOfFile s)]
  cases loaded : (v.settings.loadSchema (some v.client) s).result with
  | error f => exact Action.result_bind_of_error loaded
  | ok schema =>
      refine (Action.result_bind_of_ok loaded).trans ?_
      cases installed : (v.install Toolset.build schema s).result with
      | error f => exact (Action.result_bind_of_error installed).trans installed.symm
      | ok w =>
          refine (Action.result_bind_of_ok installed).trans ?_
          exact (Action.result_bind_of_ok rfl).trans installed.symm

/-- A server starts where the schema can be loaded and installed. -/
theorem result_start_eq_ok {v w : Server} {s : Surroundings} :
    (v.start s).result = .ok w ↔
      ∃ schema, (v.settings.loadSchema (some v.client) s).result = .ok schema ∧
        (v.install Toolset.build schema s).result = .ok w := by
  rw [result_start]
  exact Outcome.bind_eq_ok

/-- Loading the schema anew installs what was loaded, also where its text cannot be given. -/
theorem result_refresh (v : Server) (s : Surroundings) :
    (v.refresh s).result =
      (v.settings.loadSchema (some v.client) s).result.bind fun schema =>
        (v.install Toolset.build schema s).result.map fun w => (w, schema.print) := by
  unfold refresh
  cases loaded : (v.settings.loadSchema (some v.client) s).result with
  | error f => exact Action.result_bind_of_error loaded
  | ok schema =>
      refine (Action.result_bind_of_ok loaded).trans ?_
      refine (Action.result_bind_pure _ (fun w => (w, schema.print)) s).trans ?_
      exact congrArg (Except.map _) (v.result_install_reload schema s)

/-- The schema is loaded anew where it can be loaded and installed, and its text is told. -/
theorem result_refresh_eq_ok {v w : Server} {text : Except Failure String} {s : Surroundings} :
    (v.refresh s).result = .ok (w, text) ↔
      ∃ schema, (v.settings.loadSchema (some v.client) s).result = .ok schema ∧
        (v.install Toolset.build schema s).result = .ok w ∧ text = schema.print := by
  rw [result_refresh]
  cases (v.settings.loadSchema (some v.client) s).result with
  | error f => simp [Except.bind]
  | ok schema =>
      simp only [Except.bind, Except.ok.injEq, exists_eq_left']
      cases (v.install Toolset.build schema s).result with
      | error f => simp [Except.map]
      | ok w => simp [Except.map, eq_comm]

/-- A call of the tool that loads the schema anew refreshes, if its arguments are good. -/
theorem result_call_introspect (v : Server) (arguments : Json) (s : Surroundings) :
    (v.call OwnTool.introspect.name arguments s).result =
      (checkArguments OwnTool.introspect.name OwnTool.introspect.fields arguments).bind fun _ =>
        (v.refresh s).result := by
  unfold call
  rw [Action.result_bind_of_ok (s := s) (x := ()) rfl]
  simp only [if_true]
  cases checkArguments OwnTool.introspect.name OwnTool.introspect.fields arguments with
  | error f => exact Action.result_bind_of_error rfl
  | ok given => exact Action.result_bind_of_ok rfl

/-- A call of that tool succeeds just if its arguments are good and the schema can be loaded anew. -/
theorem result_call_introspect_eq_ok {v : Server} {arguments : Json} {s : Surroundings}
    {called : Server × Except Failure String} :
    (v.call OwnTool.introspect.name arguments s).result = .ok called ↔
      (∃ given, checkArguments OwnTool.introspect.name OwnTool.introspect.fields arguments =
        .ok given) ∧ (v.refresh s).result = .ok called := by
  rw [result_call_introspect]
  cases checkArguments OwnTool.introspect.name OwnTool.introspect.fields arguments with
  | error f => simp [Except.bind]
  | ok given => simp [Except.bind]

/-! ## What a run leaves alone -/

/-- Installing a schema changes no settings. -/
theorem settings_of_install {v w : Server} {schema : Schema} {s : Surroundings}
    (h : (v.install Toolset.build schema s).result = .ok w) : w.settings = v.settings := by
  obtain ⟨tools, -, rfl⟩ := result_install_build.1 h
  rfl

/-- No move changes the settings. -/
theorem settings_meet (v : Server) (s : Surroundings) (m : Move) :
    (v.meet s m).settings = v.settings := by
  cases m with
  | start =>
      simp only [meet]
      cases started : (v.start s).result with
      | error f => rfl
      | ok w =>
          obtain ⟨schema, -, installed⟩ := result_start_eq_ok.1 started
          exact settings_of_install installed
  | call tool arguments =>
      simp only [meet]
      cases called : (v.call tool arguments s).result with
      | error f => rfl
      | ok p =>
          obtain ⟨w, text⟩ := p
          by_cases own : tool = OwnTool.introspect.name
          · subst own
            obtain ⟨-, refreshed⟩ := result_call_introspect_eq_ok.1 called
            obtain ⟨schema, -, installed, -⟩ := result_refresh_eq_ok.1 refreshed
            exact settings_of_install installed
          · exact congrArg settings (eq_of_call own called)

/-- No run changes the settings. -/
theorem settings_after (v : Server) (run : List (Surroundings × Move)) :
    (v.after run).settings = v.settings := by
  induction run generalizing v with
  | nil => rfl
  | cons step rest ih => exact (ih (v.meet step.1 step.2)).trans (v.settings_meet step.1 step.2)

end Server

end QueryTools
