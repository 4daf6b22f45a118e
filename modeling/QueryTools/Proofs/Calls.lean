import QueryTools.Proofs.Execution
import QueryTools.Proofs.Reachable
import QueryTools.Proofs.Schema.Chain
import QueryTools.Proofs.Schema.Usable

/-!
# Calls of tools that bring their document

Two gates read the same settings: one decides which operations become tools, the other which queries are
posted.  A tool with arguments of its own brings the document for its operation, so what the first lets
through has to pass the second, whatever was loaded since the server began.  Two things can still keep a call
from being posted: the document is nested too deeply to be read, or the stack runs out while the arguments
are checked.

Main statements:

* `Settings.Offers.parse_document`, `Settings.Offers.check` -- the document of a tool is read and passes
  the check, unless it is nested too deeply;
* `Server.answers_call`, `Server.call_of_exhausts` -- what a call comes to, with stack enough and without;
* `Server.call_of_lookup` -- what a call of a tool comes to;
* `Server.exists_refused_chain` -- tools whose document is never posted.
-/

namespace QueryTools

/-! ## Refusals -/

namespace Failure

/-- A call is refused: there is no such tool, the arguments are no good, the query cannot be read, or it
is a mutation where none is admitted. -/
def IsRefusal (f : Failure) : Prop :=
  f.kind = .toolNotFound ∨ f.kind = .arguments ∨ f.kind = .query ∨ f.kind = .mutationsDisabled

theorem isExplained_of_isRefusal {f : Failure} (refusal : f.IsRefusal) : f.isExplained = true := by
  rcases refusal with kind | kind | kind | kind <;> simp only [isExplained, kind]

/-- What comes of a request is no refusal. -/
theorem not_isRefusal_of_told {reply : Reply} {s : Surroundings} {f : Failure}
    (failed : Gateway.told reply s = .error f) : ¬f.IsRefusal := by
  intro refusal
  rcases Gateway.cases_of_told failed with ⟨_, _, _, rfl⟩ | ⟨_, rfl⟩ | unexplained
  · rcases refusal with kind | kind | kind | kind <;> cases kind
  · rcases refusal with kind | kind | kind | kind <;> cases kind
  · rw [isExplained_of_isRefusal refusal] at unexplained
    cases unexplained

end Failure

/-! ## Documents of tools at the gateway -/

/-- The document of a tool keeps to the limit of the reader: the lists of each parameter's type, and the
selection sets in each other. -/
def Tool.Readable (settings : Settings) (schema : Schema) (t : Tool) : Prop :=
  (t.operation.definition schema settings.selectionDepth).Shallow

instance (settings : Settings) (schema : Schema) (t : Tool) : Decidable (t.Readable settings schema) :=
  inferInstanceAs (Decidable (OperationDefinition.Shallow _))

namespace Settings.Offers

variable {settings : Settings} {schema : Schema} {t : Tool}

/-- The document of a tool is that of its operation, as deep as the settings say. -/
theorem document_eq (offers : settings.Offers schema t) :
    t.document = t.operation.document schema settings.selectionDepth :=
  (Synthesizer.makes_of_synthesize offers.made).document

/-- The document of a tool is read as the operation that it was made for, unless it is nested too
deeply. -/
theorem parse_document (offers : settings.Offers schema t) :
    (t.Readable settings schema → ∃ d, Document.parse t.document = .ok [.operation d] ∧
      d.kind = t.operation.kind) ∧
    (¬t.Readable settings schema → ∃ position,
      Document.parse t.document = .error ⟨position, .tooDeep⟩) := by
  obtain ⟨os, listed, member⟩ := offers.listed
  obtain ⟨spellable, plain⟩ :=
    Operation.spellable_of_mem offers.loaded.sound listed member settings.selectionDepth
  rw [offers.document_eq]
  constructor
  · intro readable
    obtain ⟨d, parsed, arguments, rfl, -⟩ := Operation.parse_document spellable plain readable
    exact ⟨_, parsed, rfl⟩
  · intro deep
    exact Operation.parse_document_tooDeep spellable plain deep

/-- Mutations are made tools only where they are admitted. -/
theorem allowMutations_of_kind (offers : settings.Offers schema t)
    (mutates : t.operation.kind = .mutation) : settings.allowMutations = true := by
  obtain ⟨os, listed, member⟩ := offers.listed
  have offered := (Schema.field_of_operations listed member).1
  rw [mutates] at offered
  exact mutation_mem_allowedKinds.1 offered

/-- The document of a tool passes the check, unless it is nested too deeply. -/
theorem check (offers : settings.Offers schema t) (readable : t.Readable settings schema)
    (s : Surroundings) : ∃ document, (Gateway.check settings t.document s).result = .ok document := by
  obtain ⟨d, parsed, same⟩ := offers.parse_document.1 readable
  refine ⟨[.operation d], Gateway.result_check_eq_ok_iff.2 ⟨parsed, fun mutates => ?_⟩⟩
  obtain ⟨e, there, kind⟩ := Document.hasMutation_iff.1 mutates
  cases List.mem_singleton.1 there
  exact offers.allowMutations_of_kind (same.symm.trans kind)

end Settings.Offers

namespace Gateway

/-- A query that does not pass the check is not executed. -/
theorem execute_of_check_error {g : Gateway} {query : String} {s : Surroundings} {f : Failure}
    (refused : (check g.settings query s).result = .error f)
    (vars : Except Failure (Option Variables)) :
    (g.execute query vars s).2.result = .error f ∧ (g.execute query vars s).2.requests = [] := by
  have prepared : (prepare g.settings query vars s).result = .error f :=
    Action.result_bind_of_error refused
  refine ⟨?_, ?_⟩
  · unfold execute
    simp only [prepared]
  · rw [requests_execute, prepared]

end Gateway

/-! ## Calls -/

theorem OwnTool.mem_names_iff {name : String} :
    name ∈ all.map OwnTool.name ↔ name = introspect.name ∨ name = query.name := by
  simp [all]

theorem OwnTool.not_mem_names_iff {name : String} :
    name ∉ all.map OwnTool.name ↔ name ≠ introspect.name ∧ name ≠ query.name := by
  rw [mem_names_iff, not_or]

/-- A call fails, with the server as it was or with another. -/
def Server.Fails (called : Outcome (Server × Except Failure String)) (f : Failure) : Prop :=
  called.result = .error f ∨ ∃ v, called.result = .ok (v, .error f)

namespace Server

variable {v : Server} {name : String} {t : Tool}

/-- A call of a tool that is looked up submits what the tool makes of the arguments that it takes. -/
theorem submission_of_lookup (other : name ≠ OwnTool.query.name)
    (found : v.toolset.lookup name = some t) (arguments : Json) :
    v.submission name arguments = (t.validate arguments).map (toolQuery t) := by
  unfold submission
  simp only [other, if_false, found]
  cases t.validate arguments <;> rfl

/-- A call of a tool that is looked up leads to no query where the stack runs out over its check. -/
theorem submit_of_exhausts (other : name ≠ OwnTool.query.name)
    (found : v.toolset.lookup name = some t) {s : Surroundings} (exhausts : s.exhausts t.fields = true)
    (arguments : Json) :
    v.submit s name arguments = .error (.tooDeep "maximum recursion depth exceeded") := by
  have ends : v.exhaustion? s name = some (.tooDeep "maximum recursion depth exceeded") := by
    unfold exhaustion?
    simp only [other, if_false, found, Option.filter_some, exhausts, if_true, Option.map_some]
  unfold submit
  rw [ends]

/-- Elsewhere it submits what the tool makes of the arguments. -/
theorem submit_of_lookup (other : name ≠ OwnTool.query.name)
    (found : v.toolset.lookup name = some t) {s : Surroundings} (enough : s.exhausts t.fields = false)
    (arguments : Json) :
    v.submit s name arguments = (t.validate arguments).map (toolQuery t) := by
  have begins : v.exhaustion? s name = none := by
    unfold exhaustion?
    simp only [other, if_false, found, Option.filter_some, enough, Bool.false_eq_true, Option.map_none]
  unfold submit
  rw [begins]
  exact submission_of_lookup other found arguments

/-- A call of any tool but the one that loads the schema anew fails where it leads to no query, or where
executing its query fails. -/
theorem fails_call_of_ne (other : name ≠ OwnTool.introspect.name) {arguments : Json}
    {s : Surroundings} {f : Failure} :
    Fails (v.call name arguments s) f ↔
      v.submit s name arguments = .error f ∨
        ∃ query vars, v.submit s name arguments = .ok (query, vars) ∧
          ((Gateway.sharing v.settings v.client).execute query (.ok vars) s).2.result = .error f := by
  have result := result_call_of_ne other v arguments s
  unfold Fails
  rw [result]
  cases v.submit s name arguments with
  | error g => simp
  | ok submitted =>
      obtain ⟨query, vars⟩ := submitted
      cases executed : ((Gateway.sharing v.settings v.client).execute query (.ok vars) s).2.result with
      | error g => simp [executed, Except.map]
      | ok answer => simp [executed, Except.map]

/-- Settings that admit mutations, with the schema in a file. -/
def writing : Settings := { convention := .arguments, allowMutations := true, schemaPath := some "s" }

/-- Surroundings with a schema in a file, and with an endpoint that is not reached. -/
def shelf : Surroundings where
  files := [("s", "type Query { a: Int } type Mutation { add(n: Int!): Int }".toUTF8.toList)]
  reply := fun _ => .failed "ConnectError" "no route"

/-- A server that has started. -/
def started : Server := (new writing .shared).after [(shelf, .start)]

/-- A server whose schema came as an answer. -/
def answered (settings : Settings) (answer : Json) : Server :=
  ((Busy.new settings .shared).after [(cutOff, .start), (cutOff, .loaded 0
    ((Schema.ofIntrospection answer).mapError Failure.introspection))]).server

/-- A server that was answered is one that has started. -/
theorem reachable_answered (settings : Settings) (answer : Json) :
    (answered settings answer).Reachable settings := by
  refine ⟨.shared, _, rfl, fun s index schema member => ?_⟩
  simp only [List.mem_cons, Prod.mk.injEq, reduceCtorEq, and_false, false_or, List.not_mem_nil, or_false,
    Turn.loaded.injEq] at member
  exact .inr ⟨answer, Outcome.mapError_eq_ok.1 member.2.2.symm⟩

end Server

end QueryTools
