import QueryTools.Proofs.Interleaving
import QueryTools.Proofs.Loading
import QueryTools.Proofs.Registry
import QueryTools.Proofs.Tool.Arguments
import QueryTools.Proofs.Admission

/-!
# States of a server

What loading brings is a schema that was read from a text or from an answer.  A server is
`Server.Reachable` after any turns, overlapping ones too, in which each load that succeeds brings such a
schema.

Main statements:

* `Server.reachable_after` -- moves made one after the other lead to such states;
* `Server.Reachable.offers` -- in such a state each tool was made for an operation of the schema that
  the server holds, and as the settings say.
-/

namespace QueryTools

/-! ## Loading -/

namespace Schema

/-- A schema that comes of a file is one that was loaded. -/
theorem loaded_of_ofFile {path : String} {s : Surroundings} {schema : Schema}
    (loads : (ofFile path s).result = .ok schema) : schema.Loaded := by
  obtain ⟨_, -, loads⟩ := Action.result_bind_eq_ok.1 loads
  obtain ⟨_, -, loads⟩ := Action.result_bind_eq_ok.1 loads
  obtain ⟨bytes, -, loads⟩ := Action.result_bind_eq_ok.1 loads
  obtain ⟨cs, -, parsed⟩ := Outcome.bind_eq_ok.1 loads
  exact .inl ⟨_, parsed⟩

/-- So is one that comes of an endpoint. -/
theorem loaded_of_ofEndpoint {client : Option Client} {url : String} {headers : Keyed String}
    {s : Surroundings} {schema : Schema} (loads : (ofEndpoint client url headers s).result = .ok schema) :
    schema.Loaded := by
  rw [result_ofEndpoint] at loads
  unfold ofReply at loads
  split at loads
  · exact .inr ⟨_, Outcome.mapError_eq_ok.1 loads⟩
  · cases loads

end Schema

/-- What loading brings is a schema that was read from a text or from an answer. -/
theorem Settings.loaded_of_loadSchema {settings : Settings} {client : Option Client}
    {s : Surroundings} {schema : Schema} (loads : (settings.loadSchema client s).result = .ok schema) :
    schema.Loaded := by
  unfold loadSchema at loads
  cases source : settings.schemaFile? with
  | some path =>
      rw [source] at loads
      exact Schema.loaded_of_ofFile loads
  | none =>
      rw [source] at loads
      exact Schema.loaded_of_ofEndpoint loads

/-! ## Tools of a running server -/

/-- A tool was made for an operation of a loaded schema that the settings do not leave out, and it has a
name that is none of the server's own. -/
structure Settings.Offers (settings : Settings) (schema : Schema) (t : Tool) : Prop where
  loaded : schema.Loaded
  listed : ∃ os, schema.operations settings.allowedKinds = .ok os ∧ t.operation ∈ os
  included : settings.excludes t.operation.kind t.operation.name = false
  made : settings.synthesizer.synthesize schema t.operation = .ok t
  free : t.name ∉ OwnTool.all.map OwnTool.name

/-- A server with some settings can be so: it began without a schema, and went through turns in which
what was loaded is a schema that was read. -/
def Server.Reachable (settings : Settings) (v : Server) : Prop :=
  ∃ client run, v = ((Busy.new settings client).after run).server ∧
    ∀ s index schema, (s, Turn.loaded index (.ok schema)) ∈ run → schema.Loaded

namespace Server

variable {settings : Settings} {v : Server}

/-- After moves made one after the other a server is as it can be. -/
theorem reachable_after (settings : Settings) (client : Client) (run : List (Surroundings × Move)) :
    ((new settings client).after run).Reachable settings := by
  obtain ⟨turns, reached, loads⟩ := Busy.exists_after_eq (new settings client) run
  refine ⟨client, turns, ?_, fun s index schema member => ?_⟩
  · exact (congrArg Busy.server reached).symm
  · obtain ⟨_, _, loaded⟩ := loads s index schema member
    exact Settings.loaded_of_loadSchema loaded

/-- No moves change anything of a server but its schema and its tools. -/
theorem frame_after (v : Server) (run : List (Surroundings × Move)) :
    ∃ schema tools, v.after run = { v with schema, toolset := { v.toolset with tools } } := by
  obtain ⟨turns, reached, -⟩ := Busy.exists_after_eq v run
  obtain ⟨schema, tools, framed⟩ := Busy.frame_after ⟨v, []⟩ turns
  rw [reached] at framed
  exact ⟨schema, tools, framed⟩

theorem Reachable.settings_eq (reachable : v.Reachable settings) : v.settings = settings := by
  obtain ⟨client, run, rfl, -⟩ := reachable
  exact Busy.settings_after _ run

/-- A server keeps the rules that it was made with. -/
theorem Reachable.rules_eq (reachable : v.Reachable settings) :
    v.toolset.rules = .ofSettings settings (OwnTool.all.map OwnTool.name) := by
  obtain ⟨client, run, rfl, -⟩ := reachable
  exact (Busy.new settings client).rules_after run

/-- The tools of a running server are those for the schema that it holds, and none if it holds none. -/
theorem Reachable.determined (reachable : v.Reachable settings) :
    (v.schema = none → v.toolset.tools = []) ∧ ∀ schema, v.schema = some schema → schema.Loaded ∧
      ∀ s, ((ToolRules.ofSettings settings (OwnTool.all.map OwnTool.name)).compute schema s).result =
        .ok v.toolset.tools := by
  have rules := reachable.rules_eq
  obtain ⟨client, run, rfl, brings⟩ := reachable
  have agreed : (Busy.new settings client).server.Agrees none := ⟨rfl, fun _ => rfl, nofun⟩
  have agrees := Busy.agrees_after agreed run
  constructor
  · intro none
    exact agrees.empty_of_none (agrees.holds.symm.trans none)
  · intro schema holds
    have last : (Busy.new settings client).lastLoaded none run = some schema := agrees.holds.symm.trans holds
    have loaded : schema.Loaded := by
      rcases Busy.mem_of_lastLoaded last with never | ⟨s, index, brought⟩
      · cases never
      · exact brings s index schema brought
    have computed := agrees.computed_of_some schema last
    rw [rules] at computed
    exact ⟨loaded, computed⟩

/-- A running server has no tools yet, or just those for the schema that it holds. -/
theorem Reachable.computed (reachable : v.Reachable settings) :
    v.toolset.tools = [] ∨ ∃ schema, v.schema = some schema ∧ schema.Loaded ∧
      ∀ s, ((ToolRules.ofSettings settings (OwnTool.all.map OwnTool.name)).compute schema s).result =
        .ok v.toolset.tools := by
  obtain ⟨empty, tools⟩ := reachable.determined
  cases holds : v.schema with
  | none => exact .inl (empty holds)
  | some schema => exact .inr ⟨schema, rfl, tools schema holds⟩

/-- Servers that began alike are alike where they hold the same schema. -/
theorem after_eq_of_schema {client : Client} {run others : List (Surroundings × Move)}
    (same : ((new settings client).after run).schema = ((new settings client).after others).schema) :
    (new settings client).after run = (new settings client).after others := by
  have tools : ((new settings client).after run).toolset.tools =
      ((new settings client).after others).toolset.tools := by
    obtain ⟨empty, made⟩ := (reachable_after settings client run).determined
    obtain ⟨empty', made'⟩ := (reachable_after settings client others).determined
    cases holds : ((new settings client).after others).schema with
    | none => rw [empty (same.trans holds), empty' holds]
    | some schema =>
        have computed := (made schema (same.trans holds)).2 cutOff
        rw [(made' schema holds).2 cutOff] at computed
        exact (Except.ok.inj computed).symm
  obtain ⟨_, _, framed⟩ := (new settings client).frame_after run
  obtain ⟨_, _, framed'⟩ := (new settings client).frame_after others
  rw [framed, framed'] at same tools ⊢
  cases same
  cases tools
  rfl

/-- Each tool of a running server was made for an operation of the schema that the server holds. -/
theorem Reachable.offers (reachable : v.Reachable settings) {name : String} {t : Tool}
    (found : v.toolset.lookup name = some t) :
    t.name = name ∧ ∃ schema, v.schema = some schema ∧ settings.Offers schema t := by
  rcases reachable.computed with empty | ⟨schema, holds, loaded, computed⟩
  · rw [Toolset.lookup, empty] at found
    cases found
  · obtain ⟨os, o, listed, member, kept, named⟩ :=
      ToolRules.exists_kept_of_compute (computed cutOff) found
    obtain ⟨included, made, free⟩ := ToolRules.fate_eq_kept_iff.1 kept
    have same := (Synthesizer.makes_of_synthesize made).operation
    subst same
    exact ⟨named, schema, holds, loaded, ⟨os, listed, member⟩, included, made, free⟩

end Server

end QueryTools
