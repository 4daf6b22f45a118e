import QueryTools.Proofs.Run

/-!
# The mutation gate

Where the settings do not admit mutations, none ever reaches the endpoint.  Queries come from
clients, through the tool that runs any query and through tools whose calls bring a query, and from
documents made for operations; all of them pass `Gateway.check`, and the only other text that is
posted is the introspection query.

Main statement: over whole runs, whatever is posted is the introspection query or a document without
mutations, and a text that is no such document is not posted (`Server.mutations_never_posted`).
-/

namespace QueryTools

/-- Whether a document defines a mutation says whether one of its definitions is one, wherever it
stands. -/
theorem Document.hasMutation_iff {document : Document} :
    document.hasMutation = true ↔
      ∃ o : OperationDefinition, .operation o ∈ document ∧ o.kind = .mutation := by
  unfold Document.hasMutation
  rw [List.any_eq_true]
  constructor
  · rintro ⟨d, member, mutates⟩
    cases d with
    | operation o => exact ⟨o, member, by simpa [Definition.operation?] using mutates⟩
    | _ => simp [Definition.operation?] at mutates
  · rintro ⟨o, member, mutates⟩
    exact ⟨.operation o, member, by simpa [Definition.operation?] using mutates⟩

/-- A text is a document, and no operation that the document defines is a mutation. -/
def OnlyReads (text : String) : Prop :=
  ∃ document, Document.parse text = .ok document ∧
    ∀ o : OperationDefinition, .operation o ∈ document → o.kind ≠ .mutation

/-- A text only reads just if it is parsed to a document without a mutation. -/
theorem onlyReads_iff {text : String} :
    OnlyReads text ↔ (Document.parse text).toOption.any (fun d => !d.hasMutation) = true := by
  unfold OnlyReads
  cases Document.parse text with
  | error e => simp [Except.toOption]
  | ok document =>
      simp only [Except.ok.injEq, exists_eq_left', Except.toOption, Option.any_some,
        Bool.not_eq_true', ← Bool.not_eq_true, Document.hasMutation_iff]
      grind

instance (text : String) : Decidable (OnlyReads text) := decidable_of_iff _ onlyReads_iff.symm

/-- A request brings a text as its query. -/
def Request.Brings (request : Request) (text : String) : Prop :=
  request.body.get? "query" = some (.str text)

theorem Gateway.request_brings (settings : Settings) (query : String) (vars : Option Variables) :
    (Gateway.request settings query vars).Brings query := rfl

theorem IntrospectionQuery.request_brings (url : String) (headers : Keyed String) :
    (IntrospectionQuery.request url headers).Brings IntrospectionQuery.text := rfl

namespace Gateway

variable {g : Gateway} {query : String} {vars : Except Failure (Option Variables)}
  {s : Surroundings}

/-- Where mutations are not admitted, what passes the check only reads. -/
theorem onlyReads_of_check {settings : Settings} {document : Document}
    (locked : settings.allowMutations = false)
    (checked : (check settings query s).result = .ok document) : OnlyReads query := by
  obtain ⟨parsed, admitted⟩ := result_check_eq_ok_iff.1 checked
  refine ⟨document, parsed, fun o member mutates => ?_⟩
  have found : document.hasMutation = true := Document.hasMutation_iff.2 ⟨o, member, mutates⟩
  rw [admitted found] at locked
  cases locked

/-- Where mutations are not admitted, an execution posts nothing but its query, and that only if the
query only reads. -/
theorem onlyReads_of_mem_requests {request : Request} (locked : g.settings.allowMutations = false)
    (posted : request ∈ (g.execute query vars s).2.requests) :
    request.Brings query ∧ OnlyReads query := by
  rw [requests_execute] at posted
  cases prepared : (prepare g.settings query vars s).result with
  | error f =>
      rw [prepared] at posted
      cases posted
  | ok ready =>
      rw [prepared, List.mem_singleton] at posted
      obtain ⟨⟨document, checked⟩, given, -, rfl⟩ := result_prepare_eq_ok_iff.1 prepared
      subst posted
      exact ⟨request_brings g.settings query given, onlyReads_of_check locked checked⟩

/-- Where mutations are not admitted, executing a text that does not only read posts nothing. -/
theorem requests_execute_of_not_onlyReads (locked : g.settings.allowMutations = false)
    (refused : ¬OnlyReads query) : (g.execute query vars s).2.requests = [] :=
  List.eq_nil_iff_forall_not_mem.2 fun _ posted =>
    refused (onlyReads_of_mem_requests locked posted).2

end Gateway

/-- All that is posted to load a schema brings the introspection. -/
theorem Settings.brings_of_mem_loadRequests {settings : Settings} {request : Request}
    (posted : request ∈ settings.loadRequests) : request.Brings IntrospectionQuery.text := by
  unfold Settings.loadRequests at posted
  cases source : settings.schemaFile? with
  | some path =>
      rw [source] at posted
      cases posted
  | none =>
      rw [source] at posted
      cases List.mem_singleton.1 posted
      exact IntrospectionQuery.request_brings _ _

namespace Server

variable {v : Server} {s : Surroundings}

/-- What one move posts where mutations are not admitted. -/
theorem onlyReads_of_mem_posted (locked : v.settings.allowMutations = false) {m : Move}
    {request : Request} (posted : request ∈ v.posted s m) :
    ∃ text, request.Brings text ∧ (text = IntrospectionQuery.text ∨ OnlyReads text) := by
  cases m with
  | start =>
      have loads : request ∈ v.settings.loadRequests := by
        rw [← v.requests_start s]
        exact posted
      exact ⟨_, Settings.brings_of_mem_loadRequests loads, Or.inl rfl⟩
  | call tool arguments =>
      simp only [Server.posted] at posted
      by_cases own : tool = OwnTool.introspect.name
      · subst own
        rw [requests_call_introspect] at posted
        cases checked : checkArguments OwnTool.introspect.name OwnTool.introspect.fields arguments with
        | error f =>
            rw [checked] at posted
            cases posted
        | ok given =>
            rw [checked] at posted
            exact ⟨_, Settings.brings_of_mem_loadRequests posted, Or.inl rfl⟩
      · rw [requests_call_of_ne own] at posted
        cases submitted : v.submit s tool arguments with
        | error f =>
            rw [submitted] at posted
            cases posted
        | ok submission =>
            rw [submitted] at posted
            obtain ⟨brings, reads⟩ := Gateway.onlyReads_of_mem_requests locked posted
            exact ⟨_, brings, Or.inr reads⟩

/-- Where mutations are not admitted, a call that leads to a text that does not only read posts
nothing. -/
theorem posted_of_not_onlyReads (locked : v.settings.allowMutations = false) {tool text : String}
    {arguments : Json} {vars : Option Variables} (other : tool ≠ OwnTool.introspect.name)
    (submitted : v.submission tool arguments = .ok (text, vars)) (refused : ¬OnlyReads text) :
    v.posted s (.call tool arguments) = [] := by
  simp only [posted]
  rw [requests_call_of_ne other]
  cases reached : v.submit s tool arguments with
  | error f => rfl
  | ok same =>
      cases submitted.symm.trans (submit_eq_ok.1 reached).2
      exact Gateway.requests_execute_of_not_onlyReads locked refused

/-- The requests of a run are those of its moves, each made by the server as it is then. -/
theorem mem_requests {v : Server} {run : List (Surroundings × Move)} {request : Request} :
    request ∈ v.requests run ↔
      ∃ before s m rest, run = before ++ (s, m) :: rest ∧
        request ∈ (v.after before).posted s m := by
  induction run generalizing v with
  | nil => simp [requests]
  | cons step run ih =>
      simp only [requests, List.mem_append, ih]
      constructor
      · rintro (now | ⟨before, s, m, rest, rfl, later⟩)
        · exact ⟨[], step.1, step.2, run, rfl, now⟩
        · exact ⟨step :: before, s, m, rest, rfl, later⟩
      · rintro ⟨before, s, m, rest, split, posted⟩
        cases before with
        | nil =>
            obtain ⟨rfl, rfl⟩ := List.cons.inj split
            exact Or.inl posted
        | cons first before =>
            obtain ⟨rfl, rfl⟩ := List.cons.inj split
            exact Or.inr ⟨before, s, m, rest, rfl, posted⟩

/-- **No mutation leaves.**  Of a server whose settings do not admit mutations, every request of
every run brings the introspection query or a document that defines no mutation.  A text that is no
such document is not posted, whichever tool it comes through and whatever the run did before. -/
theorem mutations_never_posted (settings : Settings) (locked : settings.allowMutations = false)
    (client : Client) (run : List (Surroundings × Move)) :
    (∀ request ∈ (new settings client).requests run,
      ∃ text, request.Brings text ∧ (text = IntrospectionQuery.text ∨ OnlyReads text)) ∧
    (∀ tool arguments text vars s, tool ≠ OwnTool.introspect.name →
      ((new settings client).after run).submission tool arguments = .ok (text, vars) →
      ¬OnlyReads text →
      ((new settings client).after run).posted s (.call tool arguments) = []) ∧
    (∀ (g : Gateway) query vars s, g.settings = settings → ¬OnlyReads query →
      (g.execute query vars s).2.requests = []) := by
  have lockedAfter : ∀ before : List (Surroundings × Move),
      ((new settings client).after before).settings.allowMutations = false := by
    intro before
    rw [settings_after]
    exact locked
  refine ⟨fun request posted => ?_, ?_, ?_⟩
  · obtain ⟨before, s, m, rest, -, posted⟩ := mem_requests.1 posted
    exact onlyReads_of_mem_posted (lockedAfter before) posted
  · intro tool arguments text vars s other submitted refused
    exact posted_of_not_onlyReads (lockedAfter run) other submitted refused
  · intro g query vars s same refused
    refine Gateway.requests_execute_of_not_onlyReads ?_ refused
    rw [same]
    exact locked

/-- A text with a mutation behind a type and a query. -/
def mixedText : String := "type T { a: Int } query A { a } mutation B { b }"

/-- Surroundings without files, and with an endpoint that is not reached. -/
def cutOff : Surroundings := { reply := fun _ => .failed "ConnectError" "no route" }

/-- A run that starts, submits a text with a mutation and then one without. -/
def mixedRun : List (Surroundings × Move) :=
  [(cutOff, .start), (cutOff, .call "query-graphql" (.obj [("query", .str mixedText)])),
    (cutOff, .call "query-graphql" (.obj [("query", .str "{ a }")]))]

/-- The gate at work: the mixed text is not posted, and what the run posts only reads. -/
theorem mutations_never_posted_mixedRun :
    ({} : Settings).allowMutations = false ∧
    (∀ request ∈ (new {} .shared).requests mixedRun,
      ∃ text, request.Brings text ∧ (text = IntrospectionQuery.text ∨ OnlyReads text)) ∧
    ¬OnlyReads mixedText ∧
    ((Gateway.owning {}).execute mixedText (.ok none) cutOff).2.requests = [] := by
  have refused : ¬OnlyReads mixedText := by decide +kernel
  have gate := mutations_never_posted {} rfl .shared mixedRun
  exact ⟨rfl, gate.1, refused, gate.2.2 _ mixedText _ _ rfl refused⟩

example : ((new {} .shared).requests mixedRun).length = 2 := by decide +kernel

end Server

end QueryTools
