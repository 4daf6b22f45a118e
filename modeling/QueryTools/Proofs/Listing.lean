import QueryTools.Proofs.Calls
import QueryTools.Proofs.Tool.Obstacles

/-!
# The tools that clients are told of

What clients are told of, what is looked up for a call, and which names the server keeps to itself are
decided in three places.  They fit together: where the tools can be listed, a name is listed just where a
call of it is not answered that there is no such tool, the tool whose manifest is listed is the one that
serves the calls of its name, and no schema gives a tool that stands before one of the server's own.  Listing
fails where a tool is described by a value that is no text, though it can be called all the same.

Main statements:

* `Server.exists_manifests_iff` -- when the tools can be listed;
* `Server.Reachable.named` -- the tools of a running server go by their own names, no two by the same;
* `Server.kind_of_fails` -- a call of a listed name does not fail because there is no such tool;
* `Server.servedBy_of_lookup`, `Server.call_withTools` -- who serves a call;
* `Server.listed_iff_callable` -- listing and calling agree, whatever was loaded before.
-/

namespace QueryTools

/-! ## Failures of the parts of a call -/

/-- A failure of reading a value as members: what should be gone through cannot be, or is no list of
pairs. -/
def Failure.IsUnpaired (f : Failure) : Prop :=
  (∃ cause, f = .access cause) ∨ ∃ index length, f = .notPairs index length

/-- Pairs that make no table have one that is no pair of a key and a value. -/
theorem Table.isUnpaired_of_ofPairs {index : Nat} {done : Table} {items : List Json} {f : Failure}
    (failed : ofPairs index done items = .error f) : f.IsUnpaired := by
  induction items generalizing index done with
  | nil => cases failed
  | cons e rest ih =>
      unfold ofPairs at failed
      rcases Outcome.bind_eq_error.1 failed with unread | ⟨parts, -, failed⟩
      · obtain ⟨cause, -, rfl⟩ := Outcome.mapError_eq_error.1 unread
        exact .inl ⟨_, rfl⟩
      · split at failed
        · rcases Outcome.bind_eq_error.1 failed with unnamed | ⟨name, -, failed⟩
          · obtain ⟨cause, -, rfl⟩ := Outcome.mapError_eq_error.1 unnamed
            exact .inl ⟨_, rfl⟩
          · exact ih failed
        · cases failed
          exact .inr ⟨_, _, rfl⟩

/-- A value that is no table fails as one whose items are no pairs. -/
theorem Table.isUnpaired_of_ofJson {v : Json} {f : Failure} (failed : ofJson v = .error f) :
    f.IsUnpaired := by
  unfold ofJson at failed
  split at failed
  · cases failed
  · rcases Outcome.bind_eq_error.1 failed with unlisted | ⟨items, -, unpaired⟩
    · obtain ⟨cause, -, rfl⟩ := Outcome.mapError_eq_error.1 unlisted
      exact .inl ⟨cause, rfl⟩
    · exact isUnpaired_of_ofPairs unpaired

/-- Arguments are refused as such, or because they are no members of anything. -/
theorem cases_of_checkArguments {tool : String} {fields : List (Member Shape)} {raw : Json} {f : Failure}
    (failed : checkArguments tool fields raw = .error f) :
    (∃ issues, f = .badArguments tool issues) ∨ f.IsUnpaired := by
  unfold checkArguments at failed
  rcases Outcome.bind_eq_error.1 failed with unread | ⟨members, -, failed⟩
  · right
    unfold readArguments at unread
    split at unread
    · unfold Members.ofJson at unread
      split at unread
      · cases unread
      · rcases Outcome.bind_eq_error.1 unread with untabled | ⟨table, -, never⟩
        · exact Table.isUnpaired_of_ofJson untabled
        · cases never
    · cases unread
  · split at failed
    · cases failed
    · cases failed
      exact .inl ⟨_, rfl⟩

/-- Arguments that do not fit are never taken for a tool that is missing. -/
theorem kind_of_checkArguments {tool : String} {fields : List (Member Shape)} {raw : Json} {f : Failure}
    (failed : checkArguments tool fields raw = .error f) : f.kind ≠ .toolNotFound := by
  rcases cases_of_checkArguments failed with ⟨issues, rfl⟩ | ⟨cause, rfl⟩ | ⟨_, _, rfl⟩
  · nofun
  · cases cause <;> nofun
  · nofun

/-- Nor are variables that are none. -/
theorem Variables.kind_of_ofJson {raw : Json} {f : Failure} (failed : ofJson raw = .error f) :
    f.kind ≠ .toolNotFound := by
  unfold ofJson at failed
  split at failed
  · cases failed
  · cases failed
  · split at failed
    · cases failed
    · cases failed
      nofun
    · rename_i error _
      cases failed
      unfold Failure.kind
      dsimp only
      split
      · nofun
      · split <;> nofun
  · cases failed
  · cases failed
    nofun

/-- A query that is not let through is never taken for a tool that is missing. -/
theorem Gateway.kind_of_check {settings : Settings} {query : String} {s : Surroundings} {f : Failure}
    (failed : (check settings query s).result = .error f) : f.kind ≠ .toolNotFound := by
  unfold check at failed
  cases parsed : Document.parse query with
  | error e =>
      rw [parsed] at failed
      cases failed
      nofun
  | ok document =>
      simp only [parsed] at failed
      by_cases refused : (document.hasMutation && !settings.allowMutations) = true
      · simp only [refused, if_true] at failed
        rcases Action.result_bind_eq_error.1 failed with never | ⟨_, -, failed⟩
        · cases never
        · cases failed
          nofun
      · simp only [refused] at failed
        cases failed

/-- An execution never fails because there is no such tool. -/
theorem Gateway.kind_of_execute {g : Gateway} {query : String} {vars : Option Variables}
    {s : Surroundings} {f : Failure} (failed : (g.execute query (.ok vars) s).2.result = .error f) :
    f.kind ≠ .toolNotFound := by
  cases checked : (check g.settings query s).result with
  | ok document =>
      rw [result_execute ⟨document, checked⟩] at failed
      exact fun kind => Failure.not_isRefusal_of_told failed (.inl kind)
  | error refused =>
      rw [(execute_of_check_error checked (.ok vars)).1] at failed
      cases failed
      exact kind_of_check checked

/-! ### Loading -/

/-- A file without a schema is never taken for a tool that is missing. -/
theorem Schema.kind_of_ofFile {path : String} {s : Surroundings} {f : Failure}
    (failed : (ofFile path s).result = .error f) : f.kind ≠ .toolNotFound := by
  rcases Action.result_bind_eq_error.1 failed with never | ⟨_, -, failed⟩
  · cases never
  rcases Action.result_bind_eq_error.1 failed with never | ⟨around, -, failed⟩
  · cases never
  rcases Action.result_bind_eq_error.1 failed with unread | ⟨bytes, -, failed⟩
  · obtain ⟨fault, -, rfl⟩ := Outcome.mapError_eq_error.1 unread
    cases fault <;> nofun
  · rcases Outcome.bind_eq_error.1 failed with undecoded | ⟨cs, -, unparsed⟩
    · obtain ⟨fault, -, rfl⟩ := Outcome.mapError_eq_error.1 undecoded
      nofun
    · obtain ⟨fault, -, rfl⟩ := Outcome.mapError_eq_error.1 unparsed
      nofun

/-- A reply without a schema is never taken for a tool that is missing. -/
theorem Schema.kind_of_ofReply {reply : Reply} {f : Failure} (failed : ofReply reply = .error f) :
    f.kind ≠ .toolNotFound := by
  unfold ofReply at failed
  cases payload : reply.payload with
  | error g =>
      rw [payload] at failed
      cases failed
      have told : Gateway.told reply Server.cutOff = .error f := Gateway.told_of_error _ payload
      exact fun kind => Failure.not_isRefusal_of_told told (.inl kind)
  | ok answer =>
      rw [payload] at failed
      obtain ⟨fault, -, rfl⟩ := Outcome.mapError_eq_error.1 failed
      cases fault with
      | access cause => cases cause <;> nofun
      | _ => nofun

/-- Loading a schema, from wherever it is loaded, never fails for a tool that is missing. -/
theorem Settings.kind_of_loadSchema {settings : Settings} {client : Option Client} {s : Surroundings}
    {f : Failure} (failed : (settings.loadSchema client s).result = .error f) :
    f.kind ≠ .toolNotFound := by
  unfold loadSchema at failed
  cases source : settings.schemaFile? with
  | some path =>
      rw [source] at failed
      exact Schema.kind_of_ofFile failed
  | none =>
      rw [source] at failed
      rw [Schema.result_ofEndpoint] at failed
      exact Schema.kind_of_ofReply failed

/-- Making a tool of an operation never fails for a tool that is missing. -/
theorem Synthesizer.kind_of_synthesize {y : Synthesizer} {schema : Schema} {o : Operation} {f : Failure}
    (failed : y.synthesize schema o = .error f) : f.kind ≠ .toolNotFound := by
  rcases cases_of_synthesize failed with ⟨-, rfl⟩ | met
  · nofun
  · rcases cases_of_obstacle? met with ⟨_, _, _, _, -, -, rfl⟩ | ⟨_, _, _, _, _, -, -, -, rfl⟩
    · nofun
    · nofun

/-- Computing tools never fails for a tool that is missing. -/
theorem ToolRules.kind_of_compute {settings : Settings} {reserved : List String} {schema : Schema}
    {s : Surroundings} {f : Failure}
    (failed : ((ofSettings settings reserved).compute schema s).result = .error f) :
    f.kind ≠ .toolNotFound := by
  rcases cases_of_compute failed with ⟨fault, -, rfl⟩ | ⟨os, o, -, -, unmade⟩ | ⟨name, rfl⟩
  · cases fault <;> nofun
  · exact Synthesizer.kind_of_synthesize unmade
  · nofun

/-- Printing a schema never fails for a tool that is missing. -/
theorem Schema.kind_of_print {schema : Schema} {f : Failure} (failed : schema.print = .error f) :
    f.kind ≠ .toolNotFound := by
  unfold print at failed
  split at failed
  · cases failed
    nofun
  · cases failed

/-! ## Tools that clients can be told of -/

namespace Tool

/-- A client can be told of a tool just where a text describes it. -/
theorem manifest_eq_ok_iff {t : Tool} {m : Manifest} :
    t.manifest = .ok m ↔ ∃ text, t.description = .str text ∧ m = ⟨t.name, text, t.inputSchema⟩ := by
  unfold manifest
  cases t.description with
  | str text => simp [eq_comm]
  | _ => simp

/-- A tool that cannot be listed fails for its manifest. -/
theorem kind_of_manifest {t : Tool} {f : Failure} (failed : t.manifest = .error f) :
    f.kind = .manifest := by
  unfold manifest at failed
  cases described : t.description with
  | str text =>
      rw [described] at failed
      cases failed
  | _ =>
      rw [described] at failed
      cases failed
      rfl

end Tool

/-- A tool is described by a text where descriptions tell of parameters and results. -/
theorem Synthesizer.exists_description {y : Synthesizer} (describes : y.describe = true) {s : Schema}
    {o : Operation} {t : Tool} (made : y.synthesize s o = .ok t) : ∃ text, t.description = .str text := by
  unfold synthesize at made
  split at made
  · cases made
  · split at made
    · cases made
    · cases made
      exact ⟨_, if_pos describes⟩

/-! ## Names -/

namespace Server

variable {settings : Settings} {v : Server}

/-- The tools are listed as the server's own and then the manifests of all that it made. -/
theorem manifests_eq_ok {ms : List Manifest} :
    v.manifests = .ok ms ↔
      ∃ made, (v.toolset.tools.mapM fun p => p.2.manifest) = .ok made ∧
        ms = OwnTool.all.map OwnTool.manifest ++ made := by
  unfold manifests
  simp only [Outcome.bind_eq_ok, Outcome.pure_eq_ok, eq_comm (a := ms)]

/-- The tools can be listed just where each is described by a text. -/
theorem exists_manifests_iff :
    (∃ ms, v.manifests = .ok ms) ↔ ∀ p ∈ v.toolset.tools, ∃ text, p.2.description = .str text := by
  have each : (∃ made, (v.toolset.tools.mapM fun p => p.2.manifest) = .ok made) ↔
      ∀ p ∈ v.toolset.tools, ∃ text, p.2.description = .str text := by
    rw [Outcome.exists_mapM_iff]
    simp only [Tool.manifest_eq_ok_iff]
    exact forall₂_congr fun p _ => ⟨fun ⟨_, text, is, _⟩ => ⟨text, is⟩, fun ⟨text, is⟩ => ⟨_, text, is, rfl⟩⟩
  rw [← each]
  simp only [manifests_eq_ok]
  exact ⟨fun ⟨_, made, is, _⟩ => ⟨made, is⟩, fun ⟨made, is⟩ => ⟨_, made, is, rfl⟩⟩

/-- Tools that cannot be listed fail for a manifest. -/
theorem kind_of_manifests {f : Failure} (failed : v.manifests = .error f) : f.kind = .manifest := by
  unfold manifests at failed
  rcases Outcome.bind_eq_error.1 failed with untold | ⟨made, -, never⟩
  · obtain ⟨p, -, fails⟩ := Outcome.exists_of_mapM_error untold
    exact Tool.kind_of_manifest fails
  · cases never

/-- The names that are listed are the server's own and then those of the tools that it made. -/
theorem names_manifests (named : ∀ p ∈ v.toolset.tools, p.2.name = p.1) {ms : List Manifest}
    (listed : v.manifests = .ok ms) :
    ms.map Manifest.name = OwnTool.all.map OwnTool.name ++ v.toolset.names := by
  obtain ⟨made, each, rfl⟩ := manifests_eq_ok.1 listed
  have own : (OwnTool.all.map OwnTool.manifest).map Manifest.name = OwnTool.all.map OwnTool.name := rfl
  have kept : made.map Manifest.name = v.toolset.tools.map fun p => p.2.name :=
    Outcome.map_of_mapM (fun p m is => by
      obtain ⟨text, -, rfl⟩ := Tool.manifest_eq_ok_iff.1 is
      rfl) each
  rw [List.map_append, own, kept]
  exact congrArg _ (List.map_congr_left named)

/-- The tools of a running server go by their own names, no two by the same and none by a name of the
server's own. -/
structure Named (v : Server) : Prop where
  named : ∀ p ∈ v.toolset.tools, p.2.name = p.1
  distinct : v.toolset.names.Nodup
  free : ∀ name ∈ v.toolset.names, name ∉ OwnTool.all.map OwnTool.name

/-- The tools of a server stand under their own names, and under none of the server's. -/
theorem Reachable.named (reachable : v.Reachable settings) : v.Named := by
  have tools : (∀ p ∈ v.toolset.tools, p.2.name = p.1) ∧ v.toolset.names.Nodup := by
    rcases reachable.computed with empty | ⟨schema, -, -, computed⟩
    · rw [Toolset.names, empty]
      exact ⟨nofun, List.nodup_nil⟩
    · obtain ⟨os, -, fates, -, tools, distinct⟩ := ToolRules.result_compute_eq_ok_iff.1 (computed cutOff)
      rw [Toolset.names, tools]
      exact ⟨fun p member => (Keyed.mem_ofTools member).2, tools ▸ distinct⟩
  refine ⟨tools.1, tools.2, fun name member => ?_⟩
  obtain ⟨p, there, rfl⟩ := List.mem_map.1 member
  obtain ⟨named, schema, -, offers⟩ := reachable.offers (Keyed.get?_of_mem tools.2 there)
  rw [← named]
  exact offers.free

/-- The tools of a running server can be listed where descriptions tell of parameters and results. -/
theorem Reachable.exists_manifests (reachable : v.Reachable settings)
    (describes : settings.describeOutput = true) : ∃ ms, v.manifests = .ok ms := by
  refine exists_manifests_iff.2 fun p there => ?_
  obtain ⟨-, schema, -, offers⟩ := reachable.offers (Keyed.get?_of_mem reachable.named.distinct there)
  exact Synthesizer.exists_description describes offers.made

namespace Named

/-- No two of the names that can be called are the same. -/
theorem nodup_names (named : v.Named) : (OwnTool.all.map OwnTool.name ++ v.toolset.names).Nodup := by
  rw [List.nodup_append]
  refine ⟨by decide, named.distinct, ?_⟩
  rintro name own other made rfl
  exact named.free name made own

/-- The tool that a manifest tells of is looked up under its name. -/
theorem lookup_of_mem (named : v.Named) {ms : List Manifest} (listed : v.manifests = .ok ms) {m : Manifest}
    (member : m ∈ ms) (other : m.name ∉ OwnTool.all.map OwnTool.name) :
    ∃ t, v.toolset.lookup m.name = some t ∧ t.manifest = .ok m := by
  obtain ⟨made, each, rfl⟩ := manifests_eq_ok.1 listed
  rcases List.mem_append.1 member with own | made
  · obtain ⟨t, there, rfl⟩ := List.mem_map.1 own
    exact absurd (List.mem_map_of_mem there) other
  · obtain ⟨p, there, tells⟩ := Outcome.exists_of_mem_mapM each made
    have same : m.name = p.1 := by
      obtain ⟨text, -, rfl⟩ := Tool.manifest_eq_ok_iff.1 tells
      exact named.named p there
    rw [same]
    exact ⟨p.2, Keyed.get?_of_mem named.distinct there, tells⟩

/-- No tool stands under a name of the server's own. -/
theorem lookup_own (named : v.Named) {name : String} (own : name ∈ OwnTool.all.map OwnTool.name) :
    v.toolset.lookup name = none :=
  Keyed.get?_eq_none_iff.2 fun member => named.free name member own

end Named

/-! ## Calls -/

/-- Loading the schema anew never fails for a tool that is missing. -/
theorem kind_of_refresh {f : Failure} {s : Surroundings}
    (rules : v.toolset.rules = .ofSettings settings (OwnTool.all.map OwnTool.name))
    (failed : Fails (v.refresh s) f) : f.kind ≠ .toolNotFound := by
  rcases failed with failed | ⟨w, failed⟩
  · rw [result_refresh] at failed
    rcases Outcome.bind_eq_error.1 failed with unloaded | ⟨schema, -, failed⟩
    · exact Settings.kind_of_loadSchema unloaded
    · rw [result_install, Toolset.result_build, rules] at failed
      cases computed : ((ToolRules.ofSettings settings (OwnTool.all.map OwnTool.name)).compute
          schema s).result with
      | ok tools =>
          rw [computed] at failed
          cases failed
      | error g =>
          rw [computed] at failed
          cases failed
          exact ToolRules.kind_of_compute computed
  · obtain ⟨schema, -, -, text⟩ := result_refresh_eq_ok.1 failed
    exact Schema.kind_of_print text.symm

/-- What a call submits fails because there is no such tool only where there is none. -/
theorem kind_of_submit {name : String} {arguments : Json} {f : Failure}
    {s : Surroundings} (failed : v.submit s name arguments = .error f)
    (known : name = OwnTool.query.name ∨ ∃ t, v.toolset.lookup name = some t) :
    f.kind ≠ .toolNotFound := by
  rcases submit_eq_error failed with ⟨text, rfl⟩ | failed
  · nofun
  unfold submission at failed
  by_cases own : name = OwnTool.query.name
  · simp only [own, if_true] at failed
    rcases Outcome.bind_eq_error.1 failed with refused | ⟨given, -, failed⟩
    · exact kind_of_checkArguments refused
    · rcases Outcome.bind_eq_error.1 failed with refused | ⟨vars, -, never⟩
      · exact Variables.kind_of_ofJson refused
      · cases never
  · rcases known with same | ⟨t, found⟩
    · exact absurd same own
    · simp only [own, if_false, found] at failed
      rcases Outcome.bind_eq_error.1 failed with refused | ⟨given, -, never⟩
      · exact kind_of_checkArguments refused
      · cases never

/-- A call of a listed name fails for another reason than that there is no such tool. -/
theorem kind_of_fails {name : String} {arguments : Json} {s : Surroundings} {f : Failure}
    (rules : v.toolset.rules = .ofSettings settings (OwnTool.all.map OwnTool.name))
    (known : name ∈ OwnTool.all.map OwnTool.name ∨ ∃ t, v.toolset.lookup name = some t)
    (failed : Fails (v.call name arguments s) f) : f.kind ≠ .toolNotFound := by
  by_cases introspect : name = OwnTool.introspect.name
  · subst introspect
    unfold Fails at failed
    rw [result_call_introspect] at failed
    cases checked : checkArguments OwnTool.introspect.name OwnTool.introspect.fields arguments with
    | ok given =>
        rw [checked] at failed
        exact kind_of_refresh rules failed
    | error g =>
        rw [checked] at failed
        rcases failed with failed | ⟨w, never⟩
        · cases failed
          exact kind_of_checkArguments checked
        · cases never
  · rcases (fails_call_of_ne introspect).1 failed with refused | ⟨query, vars, -, failed⟩
    · refine kind_of_submit refused (known.imp (fun own => ?_) id)
      exact (OwnTool.mem_names_iff.1 own).resolve_left introspect
    · exact Gateway.kind_of_execute failed

/-- A call of a name that is not there fails for that reason. -/
theorem fails_call_of_lookup_none {name : String}
    (other : name ∉ OwnTool.all.map OwnTool.name) (missing : v.toolset.lookup name = none)
    (arguments : Json) (s : Surroundings) : Fails (v.call name arguments s) (.toolNotFound name) := by
  obtain ⟨notIntrospect, notQuery⟩ := OwnTool.not_mem_names_iff.1 other
  refine (fails_call_of_ne notIntrospect).2 (.inl ?_)
  unfold submit exhaustion? submission
  simp only [notQuery, if_false, missing, Option.filter_none, Option.map_none]

/-- A call is served by a tool: it fails as the tool refuses the arguments, or it comes to what executing
the tool's query with the arguments that the tool takes comes to.  Where the stack runs out over the check of
the arguments, they are not looked at. -/
structure ServedBy (v : Server) (t : Tool) (arguments : Json) (s : Surroundings)
    (called : Outcome (Server × Except Failure String)) : Prop where
  exhausted : s.exhausts t.fields = true →
    called.result = .error (.tooDeep "maximum recursion depth exceeded") ∧ called.requests = []
  refused : s.exhausts t.fields = false → ∀ f, t.validate arguments = .error f →
    called.result = .error f ∧ called.requests = []
  executed : s.exhausts t.fields = false → ∀ given query vars, t.validate arguments = .ok given →
    toolQuery t given = (query, vars) →
    called.requests = ((Gateway.sharing v.settings v.client).execute query (.ok vars) s).2.requests ∧
    called.result = ((Gateway.sharing v.settings v.client).execute query (.ok vars) s).2.result.map
      fun answer => (v, .ok (Json.obj answer).indented)

/-- A call of a name under which a tool stands is served by that tool. -/
theorem servedBy_of_lookup {name : String} {t : Tool} (other : name ∉ OwnTool.all.map OwnTool.name)
    (found : v.toolset.lookup name = some t) (arguments : Json) (s : Surroundings) :
    v.ServedBy t arguments s (v.call name arguments s) := by
  obtain ⟨notIntrospect, notQuery⟩ := OwnTool.not_mem_names_iff.1 other
  have requests := requests_call_of_ne notIntrospect v arguments s
  have result := result_call_of_ne notIntrospect v arguments s
  constructor
  · intro exhausts
    rw [submit_of_exhausts notQuery found exhausts] at requests result
    exact ⟨result, requests⟩
  · intro enough f refused
    rw [submit_of_lookup notQuery found enough, refused] at requests result
    exact ⟨result, requests⟩
  · intro enough given query vars accepted makes
    rw [submit_of_lookup notQuery found enough] at requests result
    simp only [accepted, Except.map, makes] at requests result
    exact ⟨requests, result⟩

/-- The server with other tools. -/
def withTools (v : Server) (tools : Keyed Tool) : Server :=
  { v with toolset := { v.toolset with tools } }

/-- What comes of loading the schema anew does not turn on the tools that were there. -/
theorem result_refresh_withTools (v : Server) (tools : Keyed Tool) (s : Surroundings) :
    ((v.withTools tools).refresh s).result = (v.refresh s).result := by
  simp only [result_refresh, result_install, Toolset.result_build]
  refine congrArg _ (funext fun schema => congrArg _ ?_)
  show (Except.map _ ((v.toolset.rules.compute schema s).result.map _)) = _
  cases (v.toolset.rules.compute schema s).result <;> rfl

/-- The tools that a server has make no difference to a call of one of its own. -/
theorem call_withTools {name : String} (own : name ∈ OwnTool.all.map OwnTool.name) (v : Server)
    (tools : Keyed Tool) (arguments : Json) (s : Surroundings) :
    ((v.withTools tools).call name arguments s).requests = (v.call name arguments s).requests ∧
      ((v.withTools tools).call name arguments s).result.map Prod.snd =
        (v.call name arguments s).result.map Prod.snd := by
  by_cases introspect : name = OwnTool.introspect.name
  · subst introspect
    rw [requests_call_introspect, requests_call_introspect, result_call_introspect,
      result_call_introspect, result_refresh_withTools]
    exact ⟨rfl, rfl⟩
  · have query := (OwnTool.mem_names_iff.1 own).resolve_left introspect
    have submitted : (v.withTools tools).submit s name arguments = v.submit s name arguments := by
      subst query
      rfl
    have executed (query : String) (vars : Option Variables) :
        (Gateway.sharing (v.withTools tools).settings (v.withTools tools).client).execute query (.ok vars) s =
          (Gateway.sharing v.settings v.client).execute query (.ok vars) s := rfl
    rw [requests_call_of_ne introspect, requests_call_of_ne introspect, result_call_of_ne introspect,
      result_call_of_ne introspect, submitted]
    cases v.submit s name arguments with
    | error f => exact ⟨rfl, rfl⟩
    | ok submission =>
        obtain ⟨query, vars⟩ := submission
        refine ⟨rfl, ?_⟩
        dsimp only
        rw [executed]
        cases ((Gateway.sharing v.settings v.client).execute query (.ok vars) s).2.result <;> rfl

/-! ## Listing and calling -/

/-- **What is listed can be called.**  In whatever state a server is, the tools can be listed just where a text
describes each tool that it made, as is always so where descriptions tell of parameters and results; else
listing fails for such a tool.  A call fails because there is no such tool just where its name is neither one
of the server's own nor that of a tool that it made, whether the tools can be listed or not.  Where they can,
no two of them have the same name, the server's own stand first, these are the names that can be called, and a
call of any other listed name is served by the tool whose manifest is listed.  To a call of one of the server's
own tools it makes no difference which tools there are beside. -/
theorem listed_iff_callable (reachable : v.Reachable settings) :
    ((∃ ms, v.manifests = .ok ms) ↔ ∀ p ∈ v.toolset.tools, ∃ text, p.2.description = .str text) ∧
    (settings.describeOutput = true → ∃ ms, v.manifests = .ok ms) ∧
    (∀ f, v.manifests = .error f → f.kind = .manifest) ∧
    (∀ name arguments s, (∃ f, Fails (v.call name arguments s) f ∧ f.kind = .toolNotFound) ↔
      name ∉ OwnTool.all.map OwnTool.name ++ v.toolset.names) ∧
    (∀ ms, v.manifests = .ok ms →
      (ms.map Manifest.name).Nodup ∧
      OwnTool.all.map OwnTool.manifest <+: ms ∧
      ms.map Manifest.name = OwnTool.all.map OwnTool.name ++ v.toolset.names ∧
      ∀ m ∈ ms, m.name ∉ OwnTool.all.map OwnTool.name →
        ∃ t, v.toolset.lookup m.name = some t ∧ t.manifest = .ok m ∧
          ∀ arguments s, v.ServedBy t arguments s (v.call m.name arguments s)) ∧
    ∀ name ∈ OwnTool.all.map OwnTool.name, v.toolset.lookup name = none ∧ ∀ tools arguments s,
      ((v.withTools tools).call name arguments s).requests = (v.call name arguments s).requests ∧
      ((v.withTools tools).call name arguments s).result.map Prod.snd =
        (v.call name arguments s).result.map Prod.snd := by
  have named := reachable.named
  refine ⟨exists_manifests_iff, reachable.exists_manifests, fun f => kind_of_manifests,
    fun name arguments s => ?_, fun ms listed => ?_,
    fun name own => ⟨named.lookup_own own, fun tools arguments s => call_withTools own v tools arguments s⟩⟩
  · rw [List.mem_append]
    constructor
    · rintro ⟨f, failed, kind⟩ known
      refine kind_of_fails reachable.rules_eq (known.imp id fun made => ?_) failed kind
      obtain ⟨p, there, rfl⟩ := List.mem_map.1 made
      exact ⟨p.2, Keyed.get?_of_mem named.distinct there⟩
    · intro unknown
      rw [not_or] at unknown
      have missing : v.toolset.lookup name = none := Keyed.get?_eq_none_iff.2 unknown.2
      exact ⟨_, fails_call_of_lookup_none unknown.1 missing arguments s, rfl⟩
  · have names := names_manifests named.named listed
    obtain ⟨made, -, same⟩ := manifests_eq_ok.1 listed
    refine ⟨names ▸ named.nodup_names, same ▸ List.prefix_append _ _, names, fun m member other => ?_⟩
    obtain ⟨t, found, tells⟩ := named.lookup_of_mem listed member other
    exact ⟨t, found, tells, fun arguments s => servedBy_of_lookup other found arguments s⟩

/-- Surroundings with a schema one of whose fields would give a tool with a name of the server's own. -/
def namesakes : Surroundings where
  files := [("s", "type Query { graphql: Int ping: Int }".toUTF8.toList)]
  reply := fun _ => .failed "ConnectError" "no route"

/-- A server that has loaded such a schema twice. -/
def shadowed : Server :=
  (new writing .shared).after [(namesakes, .start), (namesakes, .call "introspect-schema" .null)]

/-- The field does not give a tool, and the other one does. -/
theorem listed_iff_callable_shadowed :
    shadowed.Reachable writing ∧
    (∃ ms, shadowed.manifests = .ok ms ∧
      ms.map Manifest.name = ["introspect-schema", "query-graphql", "query-ping"] ∧
      (ms.map Manifest.name).Nodup) ∧
    (∃ f, Fails (shadowed.call "query-pong" .null namesakes) f ∧ f.kind = .toolNotFound) ∧
    (¬∃ f, Fails (shadowed.call "query-ping" .null namesakes) f ∧ f.kind = .toolNotFound) ∧
    ∃ t, shadowed.toolset.lookup "query-ping" = some t ∧
      shadowed.ServedBy t .null namesakes (shadowed.call "query-ping" .null namesakes) := by
  have reachable : shadowed.Reachable writing := reachable_after writing .shared _
  have made : shadowed.toolset.names = ["query-ping"] := by decide +kernel
  obtain ⟨-, lists, -, callable, served, -⟩ := listed_iff_callable reachable
  obtain ⟨ms, listed⟩ := lists rfl
  obtain ⟨distinct, -, names, serves⟩ := served ms listed
  rw [made] at names
  have ping : "query-ping" ∈ ms.map Manifest.name := by
    rw [names]
    decide
  obtain ⟨m, member, isPing⟩ := List.mem_map.1 ping
  obtain ⟨t, found, -, serves⟩ := serves m member (by rw [isPing]; decide)
  rw [isPing] at found
  have serves := serves .null namesakes
  rw [isPing] at serves
  rw [made] at callable
  exact ⟨reachable, ⟨ms, listed, names, distinct⟩, (callable _ _ _).2 (by decide),
    fun fails => (callable _ _ _).1 fails (by decide), t, found, serves⟩

/-- Settings that leave descriptions as they are given. -/
def terse : Settings := { convention := .arguments, describeOutput := false }

/-- An answer whose only field is described by a number. -/
def numbered : Json :=
  let number := .obj [("kind", .str "SCALAR"), ("name", .str "Int")]
  let field := .obj [("name", .str "f"), ("description", .int 5), ("args", .arr []), ("type", number)]
  let root := .obj [("kind", .str "OBJECT"), ("name", .str "Query"), ("interfaces", .arr []),
    ("fields", .arr [field])]
  .obj [("data", .obj [("__schema", .obj [("queryType", .obj [("name", .str "Query")]),
    ("types", .arr [root, number])])])]

/-- A tool that is described by a number can be called, and keeps all tools from being listed. -/
theorem exists_unlisted_tool :
    (answered terse numbered).Reachable terse ∧
    (∃ t, (answered terse numbered).toolset.lookup "query-f" = some t) ∧
    ¬∃ ms, (answered terse numbered).manifests = .ok ms := by
  refine ⟨reachable_answered terse numbered, ?_, ?_⟩
  · have there : ((answered terse numbered).toolset.lookup "query-f").isSome = true := by decide +kernel
    exact Option.isSome_iff_exists.1 there
  · have fails : (answered terse numbered).manifests.isOk = false := by decide +kernel
    rintro ⟨ms, listed⟩
    rw [listed] at fails
    cases fails

end Server

end QueryTools
