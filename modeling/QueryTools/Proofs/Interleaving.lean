import QueryTools.Proofs.Run

/-!
# Calls that overlap

A server does several things at a time: while one of them waits for something from outside, others
go on.  What happens between two waits is a turn, and nothing comes in between.  So there are turns
that begin something, which may end in a wait, and turns that go on with one of the things waited
for, in any order and whatever came of it.

A schema is loaded while its call waits; the turn after the wait installs the schema and the tools
together.

* `Busy.agrees_step` -- a turn keeps schema and tools in agreement;
* `Busy.server_step` -- a turn that does not complete a load with success changes nothing;
* `Busy.schema_and_tools_agree` -- at every point of every run the tools are those of the schema that
  was loaded last;
* `Busy.exists_after_eq` -- moves made one after the other are a case of this.
-/

namespace QueryTools

/-! ## Tools do not depend on the surroundings -/

/-- Which tools are gathered does not turn on the surroundings. -/
theorem ToolRules.result_collect (r : ToolRules) (schema : Schema) (os : List Operation)
    (done : Keyed Tool) (s s' : Surroundings) :
    (r.collect schema done os s).result = (r.collect schema done os s').result := by
  induction os generalizing done with
  | nil => rfl
  | cons o rest ih =>
      unfold ToolRules.collect
      cases fated : r.fate schema o with
      | error f => rfl
      | ok fate =>
          rw [Action.result_bind_of_ok (s := s) (x := fate) rfl,
            Action.result_bind_of_ok (s := s') (x := fate) rfl]
          cases fate with
          | excluded => exact ih done
          | reserved name => exact ih done
          | kept tool =>
              by_cases taken : Keyed.has tool.name done = true
              · simp only [taken, if_true, Action.result_fail]
              · simp only [taken]
                exact ih _

/-- Nor does which tools are computed. -/
theorem ToolRules.result_compute (r : ToolRules) (schema : Schema) (s s' : Surroundings) :
    (r.compute schema s).result = (r.compute schema s').result := by
  unfold ToolRules.compute
  cases listed : (r.operations schema s).result with
  | error f =>
      have listed' : (r.operations schema s').result = .error f := listed
      rw [Action.result_bind_of_error listed, Action.result_bind_of_error listed']
  | ok os =>
      have listed' : (r.operations schema s').result = .ok os := listed
      rw [Action.result_bind_of_ok listed, Action.result_bind_of_ok listed']
      exact r.result_collect schema os [] s s'

/-! ## Turns -/

/-- What something under way waits for. -/
inductive Wait where
  /-- The schema to start with. -/
  | firstSchema
  /-- A schema to go on with. -/
  | nextSchema
  /-- The reply to a request. -/
  | reply (request : Request)

/-- A server with what is under way. -/
structure Busy where
  server : Server
  waiting : List Wait := []

/-- What happens between two waits. -/
inductive Turn where
  | start
  | call (tool : String) (arguments : Json)
  /-- A load is over, for the one that waits at the index. -/
  | loaded (index : Nat) (outcome : Except Failure Schema)
  /-- A reply is there, whatever it is, for the one that waits at the index. -/
  | replied (index : Nat)
  | list
  | read

/-- The server after a load: with the schema and its tools if the schema was loaded and they can be
made, else as it was. -/
def Server.settle (v : Server) (build : Toolset → Schema → Action Toolset)
    (outcome : Except Failure Schema) (s : Surroundings) : Server :=
  match outcome with
  | .error _ => v
  | .ok schema =>
    match (v.install build schema s).result with
    | .ok installed => installed
    | .error _ => v

namespace Busy

/-- One thing more waits. -/
def await (b : Busy) (w : Wait) : Busy := { b with waiting := b.waiting ++ [w] }

/-- A call begins.  It waits where it needs a schema or a reply, and else is over. -/
def begin (b : Busy) (s : Surroundings) (tool : String) (arguments : Json) : Busy :=
  if tool = OwnTool.introspect.name then
    match checkArguments tool OwnTool.introspect.fields arguments with
    | .ok _ => b.await .nextSchema
    | .error _ => b
  else
    match b.server.submit s tool arguments with
    | .error _ => b
    | .ok (query, vars) =>
      match (Gateway.prepare b.server.settings query (.ok vars) s).result with
      | .ok request => b.await (.reply request)
      | .error _ => b

/-- What is under way after a turn.  A turn for something that does not wait does nothing. -/
def step (b : Busy) (s : Surroundings) : Turn → Busy
  | .start => b.await .firstSchema
  | .call tool arguments => b.begin s tool arguments
  | .loaded index outcome =>
    match b.waiting[index]? with
    | some .firstSchema =>
      ⟨b.server.settle Toolset.build outcome s, b.waiting.eraseIdx index⟩
    | some .nextSchema =>
      ⟨b.server.settle Toolset.reload outcome s, b.waiting.eraseIdx index⟩
    | _ => b
  | .replied index =>
    match b.waiting[index]? with
    | some (.reply _) => { b with waiting := b.waiting.eraseIdx index }
    | _ => b
  | .list => b
  | .read => b

/-- What is under way after a run. -/
def after (b : Busy) : List (Surroundings × Turn) → Busy
  | [] => b
  | (s, t) :: rest => (b.step s t).after rest

/-- Whether a schema is waited for at an index. -/
def awaitsSchema (b : Busy) (index : Nat) : Bool :=
  match b.waiting[index]? with
  | some .firstSchema | some .nextSchema => true
  | _ => false

/-- The schema whose load a turn completes with success: it was waited for, it came, and the tools
for it can be made. -/
def completed? (b : Busy) (s : Surroundings) : Turn → Option Schema
  | .loaded index (.ok schema) =>
    if b.awaitsSchema index then
      match (b.server.toolset.rules.compute schema s).result with
      | .ok _ => some schema
      | .error _ => none
    else none
  | _ => none

/-- The schema of the load that a run completed last with success, after an earlier one. -/
def lastLoaded (b : Busy) (earlier : Option Schema) : List (Surroundings × Turn) → Option Schema
  | [] => earlier
  | (s, t) :: rest => (b.step s t).lastLoaded ((b.completed? s t).or earlier) rest

end Busy

/-- A server holds the schema that was loaded last with exactly the tools for it, or neither. -/
structure Server.Agrees (v : Server) (last : Option Schema) : Prop where
  holds : v.schema = last
  empty_of_none : last = none → v.toolset.tools = []
  computed_of_some : ∀ schema, last = some schema →
    ∀ s, (v.toolset.rules.compute schema s).result = .ok v.toolset.tools

/-! ## One turn -/

namespace Server

/-- A schema that was loaded is settled alike by building and by loading anew. -/
theorem settle_reload (v : Server) (outcome : Except Failure Schema) (s : Surroundings) :
    v.settle Toolset.reload outcome s = v.settle Toolset.build outcome s := by
  cases outcome with
  | error f => rfl
  | ok schema => simp only [settle, result_install_reload]

/-- A load that succeeds gives the server the schema and its tools. -/
theorem settle_of_compute {v : Server} {schema : Schema} {tools : Keyed Tool} {s : Surroundings}
    (computed : (v.toolset.rules.compute schema s).result = .ok tools) :
    v.settle Toolset.build (.ok schema) s =
      { v with schema := some schema, toolset := { v.toolset with tools } } := by
  have installed := result_install_build.2 ⟨tools, computed, rfl⟩
  simp only [settle, installed]

/-- Where the tools cannot be made the server stays as it was. -/
theorem settle_of_compute_error {v : Server} {schema : Schema} {f : Failure} {s : Surroundings}
    (failed : (v.toolset.rules.compute schema s).result = .error f) :
    v.settle Toolset.build (.ok schema) s = v := by
  cases installed : (v.install Toolset.build schema s).result with
  | error g => simp only [settle, installed]
  | ok w =>
      obtain ⟨tools, computed, -⟩ := result_install_build.1 installed
      rw [failed] at computed
      cases computed

end Server

namespace Busy

/-- A call that begins changes nothing yet. -/
theorem server_begin (b : Busy) (s : Surroundings) (tool : String) (arguments : Json) :
    (b.begin s tool arguments).server = b.server := by
  unfold begin
  split
  · split <;> rfl
  · split
    · rfl
    · split <;> rfl

/-- Going on after a load settles it, whichever of the two waited for the schema. -/
theorem server_step_loaded {b : Busy} {index : Nat} (awaited : b.awaitsSchema index = true)
    (outcome : Except Failure Schema) (s : Surroundings) :
    (b.step s (.loaded index outcome)).server = b.server.settle Toolset.build outcome s := by
  unfold awaitsSchema at awaited
  cases waits : b.waiting[index]? with
  | none => simp [waits] at awaited
  | some w =>
      cases w with
      | firstSchema => simp only [step, waits]
      | nextSchema => simp only [step, waits, Server.settle_reload]
      | reply request => simp [waits] at awaited

/-- A schema that no one waits for changes nothing. -/
theorem step_loaded_of_not_awaited {b : Busy} {index : Nat} (idle : b.awaitsSchema index = false)
    (outcome : Except Failure Schema) (s : Surroundings) :
    b.step s (.loaded index outcome) = b := by
  unfold awaitsSchema at idle
  cases waits : b.waiting[index]? with
  | none => simp only [step, waits]
  | some w =>
      cases w with
      | reply request => simp only [step, waits]
      | _ => simp [waits] at idle

/-- What a turn does to the server: where it completes the load of a schema with success the server
gets the schema and its tools, and else nothing changes. -/
theorem server_step (b : Busy) (s : Surroundings) (t : Turn) :
    match b.completed? s t with
    | none => (b.step s t).server = b.server
    | some schema =>
      ∃ tools, (b.server.toolset.rules.compute schema s).result = .ok tools ∧
        (b.step s t).server =
          { b.server with schema := some schema, toolset := { b.server.toolset with tools } } := by
  cases t with
  | start => rfl
  | call tool arguments => exact b.server_begin s tool arguments
  | list => rfl
  | read => rfl
  | replied index =>
      simp only [completed?, step]
      split <;> rfl
  | loaded index outcome =>
      cases awaited : b.awaitsSchema index with
      | false =>
          have same := step_loaded_of_not_awaited awaited outcome s
          cases outcome <;> simp [completed?, awaited, same]
      | true =>
          have settled := server_step_loaded awaited outcome s
          cases outcome with
          | error f => exact settled
          | ok schema =>
              cases computed : (b.server.toolset.rules.compute schema s).result with
              | error f =>
                  simp only [completed?, awaited, computed, if_true]
                  exact settled.trans (Server.settle_of_compute_error computed)
              | ok tools =>
                  simp only [completed?, awaited, computed, if_true]
                  exact ⟨tools, rfl, settled.trans (Server.settle_of_compute computed)⟩

/-- A turn changes nothing of the server but the schema and the tools. -/
theorem frame_step (b : Busy) (s : Surroundings) (t : Turn) :
    ∃ schema tools, (b.step s t).server =
      { b.server with schema, toolset := { b.server.toolset with tools } } := by
  have changed := b.server_step s t
  cases completed : b.completed? s t with
  | none =>
      rw [completed] at changed
      exact ⟨_, _, changed⟩
  | some schema =>
      rw [completed] at changed
      obtain ⟨tools, -, changed⟩ := changed
      exact ⟨_, _, changed⟩

/-- A turn completes a load only where it ends one with a schema. -/
theorem completed?_eq_some {b : Busy} {s : Surroundings} {t : Turn} {schema : Schema}
    (completed : b.completed? s t = some schema) : ∃ index, t = .loaded index (.ok schema) := by
  cases t with
  | loaded index outcome =>
      cases outcome with
      | error f => cases completed
      | ok brought =>
          simp only [completed?] at completed
          split at completed
          · split at completed
            · cases completed
              exact ⟨index, rfl⟩
            · cases completed
          · cases completed
  | _ => cases completed

/-- A turn keeps schema and tools in agreement. -/
theorem agrees_step {b : Busy} {last : Option Schema} (agrees : b.server.Agrees last)
    (s : Surroundings) (t : Turn) :
    (b.step s t).server.Agrees ((b.completed? s t).or last) := by
  have changed := b.server_step s t
  cases completed : b.completed? s t with
  | none =>
      rw [completed] at changed
      rw [changed]
      exact agrees
  | some schema =>
      rw [completed] at changed
      obtain ⟨tools, computed, changed⟩ := changed
      rw [changed]
      refine ⟨rfl, nofun, fun loaded same s' => ?_⟩
      cases same
      exact (ToolRules.result_compute _ schema s' s).trans computed

/-! ## Whole runs -/

/-- Run lemma: after any turns the tools are those of the schema that was loaded last. -/
theorem agrees_after {b : Busy} {last : Option Schema} (agrees : b.server.Agrees last)
    (run : List (Surroundings × Turn)) : (b.after run).server.Agrees (b.lastLoaded last run) := by
  induction run generalizing b last with
  | nil => exact agrees
  | cons step rest ih => exact ih (agrees_step agrees step.1 step.2)

/-- Turns change only the schema and the tools. -/
theorem frame_after (b : Busy) (run : List (Surroundings × Turn)) :
    ∃ schema tools, (b.after run).server =
      { b.server with schema, toolset := { b.server.toolset with tools } } := by
  induction run generalizing b with
  | nil => exact ⟨_, _, rfl⟩
  | cons step rest ih =>
      obtain ⟨schema, tools, later⟩ := ih (b.step step.1 step.2)
      obtain ⟨_, _, first⟩ := b.frame_step step.1 step.2
      rw [first] at later
      exact ⟨schema, tools, later⟩

/-- They change no rules. -/
theorem rules_after (b : Busy) (run : List (Surroundings × Turn)) :
    (b.after run).server.toolset.rules = b.server.toolset.rules := by
  obtain ⟨_, _, framed⟩ := b.frame_after run
  rw [framed]

/-- They change no settings. -/
theorem settings_after (b : Busy) (run : List (Surroundings × Turn)) :
    (b.after run).server.settings = b.server.settings := by
  obtain ⟨_, _, framed⟩ := b.frame_after run
  rw [framed]

/-- The schema of the load that was completed last came with a turn of the run, unless it was there
before. -/
theorem mem_of_lastLoaded {b : Busy} {earlier : Option Schema} {run : List (Surroundings × Turn)}
    {schema : Schema} (last : b.lastLoaded earlier run = some schema) :
    earlier = some schema ∨ ∃ s index, (s, Turn.loaded index (.ok schema)) ∈ run := by
  induction run generalizing b earlier with
  | nil => exact .inl last
  | cons step rest ih =>
      rcases ih last with now | ⟨s, index, later⟩
      · rcases Option.or_eq_some_iff.1 now with completed | ⟨-, before⟩
        · obtain ⟨index, same⟩ := completed?_eq_some completed
          exact .inr ⟨step.1, index, same ▸ List.mem_cons_self⟩
        · exact .inl before
      · exact .inr ⟨s, index, List.mem_cons_of_mem step later⟩

/-- A server that has loaded nothing yet, with nothing under way. -/
def new (settings : Settings) (client : Client) : Busy := ⟨Server.new settings client, []⟩

/-- **Schema and tools never drift apart.**  However loads, calls and readings overlap and in
whatever order and with whatever outcome the loads end: at every point a server holds the schema
whose load was the last to succeed, with exactly the tools that are made for it, or neither a schema
nor a tool.  A turn that does not complete a load with success leaves the server as it is. -/
theorem schema_and_tools_agree (settings : Settings) (client : Client)
    (run : List (Surroundings × Turn)) :
    ((new settings client).after run).server.Agrees ((new settings client).lastLoaded none run) ∧
    ((new settings client).after run).server.toolset.rules =
      .ofSettings settings (OwnTool.all.map OwnTool.name) ∧
    ∀ s t, ((new settings client).after run).completed? s t = none →
      (((new settings client).after run).step s t).server =
        ((new settings client).after run).server := by
  have agreed : (new settings client).server.Agrees none := ⟨rfl, fun _ => rfl, nofun⟩
  refine ⟨agrees_after agreed run, rules_after _ run, fun s t failed => ?_⟩
  have changed := ((new settings client).after run).server_step s t
  rw [failed] at changed
  exact changed

/-- A start and two calls to load anew that overlap.  The call that began last ends first, and the
start fails. -/
def overlapping : List (Surroundings × Turn) :=
  let quiet : Surroundings := { reply := fun _ => .failed "ConnectError" "no route" }
  [.start, .call "introspect-schema" .null, .call "introspect-schema" .null,
    .loaded 2 (Schema.parse "type Query { a: Int }"), .loaded 0 (.error .schemaNotLoaded),
    .loaded 0 (Schema.parse "type Query { b: Int }")].map fun t => (quiet, t)

/-- Two loads overlap and end in the other order, and the one that ended last counts. -/
theorem schema_and_tools_agree_overlapping :
    ((new {} .shared).after overlapping).server.Agrees
      ((new {} .shared).lastLoaded none overlapping) ∧
    ((new {} .shared).lastLoaded none overlapping).isSome = true := by
  have agreed := (schema_and_tools_agree {} .shared overlapping).1
  exact ⟨agreed, by decide +kernel⟩

example : ((new {} .shared).after overlapping).server.toolset.names = ["query-b"] := by
  decide +kernel

/-! ## Moves one after the other -/

/-- The turns of a move during which nothing else happens. -/
def turnsOf (v : Server) (s : Surroundings) : Server.Move → List (Surroundings × Turn)
  | .start => [(s, .start), (s, .loaded 0 (v.settings.loadSchema (some v.client) s).result)]
  | .call tool arguments =>
    let goesOn : Turn :=
      if tool = OwnTool.introspect.name then
        .loaded 0 (v.settings.loadSchema (some v.client) s).result
      else .replied 0
    [(s, .call tool arguments), (s, goesOn)]

/-- A load in one go: what installing the loaded schema makes of a server is what it makes of it
after a wait. -/
theorem settle_of_result {v : Server} {s : Surroundings} {r : Except Failure Server}
    (h : ∀ w, r = .ok w ↔ ∃ schema, (v.settings.loadSchema (some v.client) s).result = .ok schema ∧
      (v.install Toolset.build schema s).result = .ok w) :
    v.settle Toolset.build (v.settings.loadSchema (some v.client) s).result s =
      r.toOption.getD v := by
  cases loaded : (v.settings.loadSchema (some v.client) s).result with
  | error f =>
      cases r with
      | error g => rfl
      | ok w =>
          obtain ⟨schema, loaded', -⟩ := (h w).1 rfl
          rw [loaded] at loaded'
          cases loaded'
  | ok schema =>
      simp only [Server.settle]
      cases installed : (v.install Toolset.build schema s).result with
      | ok w =>
          have done : r = .ok w := (h w).2 ⟨schema, loaded, installed⟩
          rw [done]
          rfl
      | error f =>
          cases r with
          | error g => rfl
          | ok w =>
              obtain ⟨schema', loaded', installed'⟩ := (h w).1 rfl
              rw [loaded] at loaded'
              cases loaded'
              rw [installed] at installed'
              cases installed'

/-- A load that nothing comes between is a start. -/
theorem settle_eq_meet_start (v : Server) (s : Surroundings) :
    v.settle Toolset.build (v.settings.loadSchema (some v.client) s).result s =
      v.meet s .start := by
  rw [settle_of_result fun w => Server.result_start_eq_ok]
  simp only [Server.meet]
  cases (v.start s).result <;> rfl

/-- Or a call that loads the schema anew. -/
theorem settle_eq_meet_introspect {v : Server} {arguments : Json} {s : Surroundings}
    (checked : ∃ given, checkArguments OwnTool.introspect.name OwnTool.introspect.fields arguments =
      .ok given) :
    v.settle Toolset.build (v.settings.loadSchema (some v.client) s).result s =
      v.meet s (.call OwnTool.introspect.name arguments) := by
  have called : ∀ w,
      (v.call OwnTool.introspect.name arguments s).result.map Prod.fst = .ok w ↔
        ∃ schema, (v.settings.loadSchema (some v.client) s).result = .ok schema ∧
          (v.install Toolset.build schema s).result = .ok w := by
    intro w
    constructor
    · intro h
      cases result : (v.call OwnTool.introspect.name arguments s).result with
      | error f =>
          rw [result] at h
          cases h
      | ok p =>
          rw [result] at h
          cases h
          obtain ⟨-, refreshed⟩ := Server.result_call_introspect_eq_ok.1 result
          obtain ⟨schema, loaded, installed, -⟩ := Server.result_refresh_eq_ok.1 refreshed
          exact ⟨schema, loaded, installed⟩
    · rintro ⟨schema, loaded, installed⟩
      have refreshed := Server.result_refresh_eq_ok.2 ⟨schema, loaded, installed, rfl⟩
      rw [Server.result_call_introspect_eq_ok.2 ⟨checked, refreshed⟩]
      rfl
  rw [settle_of_result called]
  simp only [Server.meet]
  cases (v.call OwnTool.introspect.name arguments s).result <;> rfl

/-- A call of any tool but the one that loads the schema anew is over at once or waits for a
reply. -/
theorem begin_of_ne (b : Busy) {tool : String} (other : tool ≠ OwnTool.introspect.name)
    (s : Surroundings) (arguments : Json) :
    b.begin s tool arguments = b ∨ ∃ request, b.begin s tool arguments = b.await (.reply request) := by
  simp only [begin, other, if_false]
  cases b.server.submit s tool arguments with
  | error f => exact Or.inl rfl
  | ok submitted =>
      obtain ⟨query, vars⟩ := submitted
      cases prepared : (Gateway.prepare b.server.settings query (.ok vars) s).result with
      | error f =>
          left
          simp only [prepared]
      | ok request =>
          right
          exact ⟨request, by simp only [prepared]⟩

/-- A move is its turns, after which nothing is under way any more. -/
theorem after_turnsOf (v : Server) (s : Surroundings) (m : Server.Move) :
    (⟨v, []⟩ : Busy).after (turnsOf v s m) = ⟨v.meet s m, []⟩ := by
  cases m with
  | start =>
      have settled := settle_eq_meet_start v s
      simp only [turnsOf, after, step, await, List.nil_append, List.getElem?_cons_zero,
        List.eraseIdx_cons_zero, settled]
  | call tool arguments =>
      by_cases own : tool = OwnTool.introspect.name
      · subst own
        cases checked : checkArguments OwnTool.introspect.name OwnTool.introspect.fields
            arguments with
        | ok given =>
            have settled := settle_eq_meet_introspect (v := v) (s := s) ⟨given, checked⟩
            simp only [turnsOf, after, step, begin, if_true, checked, await, List.nil_append,
              List.getElem?_cons_zero, List.eraseIdx_cons_zero, Server.settle_reload, settled]
        | error f =>
            -- What is refused for its arguments neither begins nor changes the server.
            have failed : ∃ g, (v.call OwnTool.introspect.name arguments s).result = .error g := by
              cases result : (v.call OwnTool.introspect.name arguments s).result with
              | error g => exact ⟨g, rfl⟩
              | ok p =>
                  obtain ⟨⟨given, checked'⟩, -⟩ := Server.result_call_introspect_eq_ok.1 result
                  rw [checked] at checked'
                  cases checked'
            obtain ⟨g, failed⟩ := failed
            simp only [turnsOf, after, step, begin, if_true, checked, List.getElem?_nil,
              Server.meet, failed]
      · have same : v.meet s (.call tool arguments) = v := by
          simp only [Server.meet]
          cases called : (v.call tool arguments s).result with
          | error f => rfl
          | ok p => exact Server.eq_of_call own called
        rw [same]
        simp only [turnsOf, own, if_false, after]
        rcases begin_of_ne (⟨v, []⟩ : Busy) own s arguments with ended | ⟨request, waits⟩
        · simp only [step, ended, List.getElem?_nil]
        · simp only [step, waits, await, List.nil_append, List.getElem?_cons_zero,
            List.eraseIdx_cons_zero]

/-- What the turns of a move load is what loading gives. -/
theorem loads_of_mem_turnsOf {v : Server} {s s' : Surroundings} {m : Server.Move} {index : Nat}
    {schema : Schema} (member : (s', Turn.loaded index (.ok schema)) ∈ turnsOf v s m) :
    (v.settings.loadSchema (some v.client) s).result = .ok schema := by
  cases m with
  | start =>
      simp only [turnsOf, List.mem_cons, Prod.mk.injEq, reduceCtorEq, and_false, false_or,
        List.not_mem_nil, or_false, Turn.loaded.injEq] at member
      exact member.2.2.symm
  | call tool arguments =>
      simp only [turnsOf, List.mem_cons, Prod.mk.injEq, reduceCtorEq, and_false, false_or,
        List.not_mem_nil, or_false] at member
      obtain ⟨-, loads⟩ := member
      split at loads
      · simp only [Turn.loaded.injEq] at loads
        exact loads.2.symm
      · cases loads

/-- Runs in which every move is over before the next begins are runs of turns, so that what holds
at every point of these holds of those too.  What such a run loads is what loading gives. -/
theorem exists_after_eq (v : Server) (run : List (Surroundings × Server.Move)) :
    ∃ turns, (⟨v, []⟩ : Busy).after turns = ⟨v.after run, []⟩ ∧
      ∀ s index schema, (s, Turn.loaded index (.ok schema)) ∈ turns →
        ∃ client s, (v.settings.loadSchema client s).result = .ok schema := by
  have after_append : ∀ (b : Busy) (first rest : List (Surroundings × Turn)),
      b.after (first ++ rest) = (b.after first).after rest := by
    intro b first rest
    induction first generalizing b with
    | nil => rfl
    | cons turn first ih => exact ih _
  induction run generalizing v with
  | nil => exact ⟨[], rfl, nofun⟩
  | cons move rest ih =>
      obtain ⟨turns, reached, loads⟩ := ih (v.meet move.1 move.2)
      rw [v.settings_meet] at loads
      refine ⟨turnsOf v move.1 move.2 ++ turns, ?_, fun s index schema member => ?_⟩
      · rw [after_append, after_turnsOf]
        exact reached
      · rcases List.mem_append.1 member with now | later
        · exact ⟨_, _, loads_of_mem_turnsOf now⟩
        · exact loads s index schema later

end Busy

end QueryTools
