import QueryTools.Proofs.Contents

/-!
# Building a set of tools again and again

A set of tools is built and rebuilt, each time for another schema and with tools made in another way: what
makes them may fail for any operation, and may give tools of any names.  Each call has a way of its own,
so one that remembers earlier calls is covered; within a call no operation is asked for twice
(`ToolRules.nodup_asked`).

What a call asks for is written down operation by operation, with the answers (`ToolRules.dealings`).  They
decide all that comes of the call (`ToolRules.compute_congr`), so nothing else is asked for.

Main statements:

* `ToolRules.answered_cases` -- what comes of collecting where every answer is a tool;
* `ToolRules.exists_made_iff` -- the complete result of a call that returns;
* `Toolset.rebuilt_whole` -- after any calls a set is the complete result of the last that returned.
-/

namespace QueryTools

namespace ToolRules

/-! ## What is asked for -/

/-- The operations that a tool is asked for, with the answers, where tools of some names are there.  A
failure and a name that is there end it. -/
def dealings (r : ToolRules) (schema : Schema) (taken : List String) :
    List Operation → List (Operation × Except Failure Tool)
  | [] => []
  | o :: rest =>
    if r.settings.excludes o.kind o.name then r.dealings schema taken rest
    else
      match r.make schema o with
      | .error f => [(o, .error f)]
      | .ok tool =>
        if tool.name ∈ r.reserved then (o, .ok tool) :: r.dealings schema taken rest
        else if tool.name ∈ taken then [(o, .ok tool)]
        else (o, .ok tool) :: r.dealings schema (taken ++ [tool.name]) rest

/-- The operations that are not excluded. -/
def included (r : ToolRules) (os : List Operation) : List Operation :=
  os.filter fun o => !r.settings.excludes o.kind o.name

/-- The tools whose names are not reserved. -/
def unreserved (r : ToolRules) (tools : List Tool) : List Tool :=
  tools.filter fun t => t.name ∉ r.reserved

/-- The tools among answers. -/
def answers (dealt : List (Operation × Except Failure Tool)) : List Tool :=
  dealt.filterMap fun d => d.2.toOption

variable {r : ToolRules} {schema : Schema} {s : Surroundings}

/-- The rules with another way to make tools. -/
def making (r : ToolRules) (make : Schema → Operation → Except Failure Tool) : ToolRules :=
  { r with make }

section

variable {o : Operation} {t : Tool} {f : Failure}

/-! ### The first operation -/

/-- An operation that is excluded is left out. -/
theorem included_cons_of_excluded (excluded : r.settings.excludes o.kind o.name = true)
    (rest : List Operation) : r.included (o :: rest) = r.included rest :=
  List.filter_cons_of_neg (by simp [excluded])

/-- An operation that is not excluded stands first. -/
theorem included_cons (included : ¬ r.settings.excludes o.kind o.name = true) (rest : List Operation) :
    r.included (o :: rest) = o :: r.included rest :=
  List.filter_cons_of_pos (by simp [included])

/-- A tool with a reserved name is left out. -/
theorem unreserved_cons_of_reserved (reserved : t.name ∈ r.reserved) (tools : List Tool) :
    r.unreserved (t :: tools) = r.unreserved tools :=
  List.filter_cons_of_neg (by simp [reserved])

/-- One with another name stands first. -/
theorem unreserved_cons (free : t.name ∉ r.reserved) (tools : List Tool) :
    r.unreserved (t :: tools) = t :: r.unreserved tools :=
  List.filter_cons_of_pos (by simp [free])

theorem answers_cons (o : Operation) (t : Tool) (dealt : List (Operation × Except Failure Tool)) :
    answers ((o, .ok t) :: dealt) = t :: answers dealt := rfl

theorem fate_of_excluded (excluded : r.settings.excludes o.kind o.name = true) :
    r.fate schema o = .ok .excluded := if_pos excluded

/-- What is made of an operation that is not excluded is kept, if its name is not reserved. -/
theorem fate_of_included (included : ¬ r.settings.excludes o.kind o.name = true) :
    r.fate schema o = (r.make schema o).map fun t =>
      if r.reserved.contains t.name then .reserved t.name else .kept t := by
  unfold fate
  rw [if_neg included]
  cases r.make schema o <;> rfl

/-- An operation of which nothing can be made fails. -/
theorem fate_of_error (included : ¬ r.settings.excludes o.kind o.name = true)
    (unmade : r.make schema o = .error f) : r.fate schema o = .error f := by
  rw [fate_of_included included, unmade]
  rfl

/-- A tool with a reserved name is not kept. -/
theorem fate_of_reserved (included : ¬ r.settings.excludes o.kind o.name = true)
    (made : r.make schema o = .ok t) (reserved : t.name ∈ r.reserved) :
    r.fate schema o = .ok (.reserved t.name) := by
  rw [fate_of_included included, made]
  exact congrArg Except.ok (if_pos (List.contains_iff_mem.2 reserved))

/-- One with another name is. -/
theorem fate_of_free (included : ¬ r.settings.excludes o.kind o.name = true)
    (made : r.make schema o = .ok t) (free : t.name ∉ r.reserved) :
    r.fate schema o = .ok (.kept t) :=
  fate_eq_kept_iff.2 ⟨Bool.eq_false_iff.2 included, made, free⟩

variable {done : Keyed Tool} {rest : List Operation}

/-- Passing over an excluded operation is said, and the rest is gathered. -/
theorem collect_of_excluded (excluded : r.settings.excludes o.kind o.name = true) :
    r.collect schema done (o :: rest) = (do
      Action.say .info logger s!"Skipping operation {o.name} as it is excluded"
      r.collect schema done rest) := by
  rw [collect, fate_of_excluded excluded]
  rfl

/-- Gathering stops where nothing can be made of an operation. -/
theorem collect_of_error (included : ¬ r.settings.excludes o.kind o.name = true)
    (unmade : r.make schema o = .error f) : r.collect schema done (o :: rest) = Action.fail f := by
  rw [collect, fate_of_error included unmade]
  rfl

/-- Passing over a reserved name is said, and the rest is gathered. -/
theorem collect_of_reserved (included : ¬ r.settings.excludes o.kind o.name = true)
    (made : r.make schema o = .ok t) (reserved : t.name ∈ r.reserved) :
    r.collect schema done (o :: rest) = (do
      Action.say .warning logger s!"Skipping operation {o.name}: tool name {t.name} is reserved"
      r.collect schema done rest) := by
  rw [collect, fate_of_reserved included made reserved]
  rfl

/-- Gathering stops where a name was gathered before. -/
theorem collect_of_taken (included : ¬ r.settings.excludes o.kind o.name = true)
    (made : r.make schema o = .ok t) (free : t.name ∉ r.reserved) (there : t.name ∈ Keyed.names done) :
    r.collect schema done (o :: rest) = Action.fail (.duplicateTool t.name) := by
  rw [collect, fate_of_free included made free]
  exact if_pos (Keyed.has_iff.2 there)

/-- A tool with a name of its own is gathered. -/
theorem collect_of_fresh (included : ¬ r.settings.excludes o.kind o.name = true)
    (made : r.make schema o = .ok t) (free : t.name ∉ r.reserved) (fresh : t.name ∉ Keyed.names done) :
    r.collect schema done (o :: rest) = r.collect schema (done ++ [(t.name, t)]) rest := by
  rw [collect, fate_of_free included made free]
  exact if_neg fun has => fresh (Keyed.has_iff.1 has)

theorem names_concat (done : Keyed Tool) (t : Tool) :
    Keyed.names (done ++ [(t.name, t)]) = Keyed.names done ++ [t.name] := List.map_append

end

/-- What is asked for are some of the operations, in their order. -/
theorem asked_sublist (taken : List String) (os : List Operation) :
    ((r.dealings schema taken os).map Prod.fst).Sublist os := by
  fun_induction dealings r schema taken os with
  | case1 => exact .slnil
  | case2 taken o rest excluded ih => exact ih.cons o
  | case3 taken o rest included f unmade => exact (List.nil_sublist rest).cons_cons o
  | case4 taken o rest included t made reserved ih => exact ih.cons_cons o
  | case5 taken o rest included t made free there => exact (List.nil_sublist rest).cons_cons o
  | case6 taken o rest included t made free fresh ih => exact ih.cons_cons o

/-- What is asked for is not excluded, and the answer is what was made. -/
theorem of_mem_dealings {taken : List String} {os : List Operation}
    {d : Operation × Except Failure Tool} (dealt : d ∈ r.dealings schema taken os) :
    ¬ r.settings.excludes d.1.kind d.1.name = true ∧ d.2 = r.make schema d.1 := by
  fun_induction dealings r schema taken os with
  | case1 => cases dealt
  | case2 taken o rest excluded ih => exact ih dealt
  | case3 taken o rest included f unmade =>
      cases List.mem_singleton.1 dealt
      exact ⟨included, unmade.symm⟩
  | case4 taken o rest included t made reserved ih =>
      rcases List.mem_cons.1 dealt with rfl | later
      · exact ⟨included, made.symm⟩
      · exact ih later
  | case5 taken o rest included t made free there =>
      cases List.mem_singleton.1 dealt
      exact ⟨included, made.symm⟩
  | case6 taken o rest included t made free fresh ih =>
      rcases List.mem_cons.1 dealt with rfl | later
      · exact ⟨included, made.symm⟩
      · exact ih later

/-- No operation is asked for twice. -/
theorem nodup_asked (distinct : schema.DistinctRoots) {os : List Operation}
    (listed : schema.operations r.settings.allowedKinds = .ok os) :
    ((r.dealings schema [] os).map Prod.fst).Nodup := by
  have places := Settings.eq_map_places listed
  have names : (os.map Operation.toolName).Nodup := by
    rw [places, List.map_map]
    exact Settings.nodup_toolNames_places distinct r.settings
  exact (names.of_map _).sublist (asked_sublist [] os)

/-- **What is asked for, and what is answered, decides** all that comes of collecting. -/
theorem collect_congr {make : Schema → Operation → Except Failure Tool} {os : List Operation}
    {done : Keyed Tool} {taken : List String} (there : Keyed.names done = taken)
    (agrees : ∀ d ∈ r.dealings schema taken os, make schema d.1 = d.2) :
    (r.making make).collect schema done os = r.collect schema done os := by
  fun_induction dealings r schema taken os generalizing done with
  | case1 => rfl
  | case2 taken o rest excluded ih =>
      have excluded' : (r.making make).settings.excludes o.kind o.name = true := excluded
      rw [collect_of_excluded excluded, collect_of_excluded excluded', ih there agrees]
  | case3 taken o rest included f unmade =>
      have included' : ¬ (r.making make).settings.excludes o.kind o.name = true := included
      have unmade' : (r.making make).make schema o = .error f := agrees _ List.mem_cons_self
      rw [collect_of_error included unmade, collect_of_error included' unmade']
  | case4 taken o rest included t made reserved ih =>
      have included' : ¬ (r.making make).settings.excludes o.kind o.name = true := included
      have made' : (r.making make).make schema o = .ok t := agrees _ List.mem_cons_self
      have later := ih there fun d dealt => agrees d (List.mem_cons_of_mem _ dealt)
      rw [collect_of_reserved included made reserved, collect_of_reserved included' made' reserved, later]
  | case5 taken o rest included t made free met =>
      have included' : ¬ (r.making make).settings.excludes o.kind o.name = true := included
      have made' : (r.making make).make schema o = .ok t := agrees _ List.mem_cons_self
      have known : t.name ∈ Keyed.names done := there ▸ met
      rw [collect_of_taken included made free known, collect_of_taken included' made' free known]
  | case6 taken o rest included t made free new ih =>
      have included' : ¬ (r.making make).settings.excludes o.kind o.name = true := included
      have made' : (r.making make).make schema o = .ok t := agrees _ List.mem_cons_self
      have fresh : t.name ∉ Keyed.names done := there ▸ new
      have grown : Keyed.names (done ++ [(t.name, t)]) = taken ++ [t.name] := by
        rw [names_concat, there]
      have later := ih grown fun d dealt => agrees d (List.mem_cons_of_mem _ dealt)
      rw [collect_of_fresh included made free fresh, collect_of_fresh included' made' free fresh, later]

/-- A failure to make a tool is the failure of the collection. -/
theorem collect_of_dealt_error {os : List Operation} {done : Keyed Tool} {taken : List String}
    (there : Keyed.names done = taken) {o : Operation} {f : Failure}
    (dealt : (o, .error f) ∈ r.dealings schema taken os) :
    (r.collect schema done os s).result = .error f := by
  fun_induction dealings r schema taken os generalizing done with
  | case1 => cases dealt
  | case2 taken p rest excluded ih =>
      rw [collect_of_excluded excluded]
      exact ih there dealt
  | case3 taken p rest included g unmade =>
      cases List.mem_singleton.1 dealt
      rw [collect_of_error included unmade]
      rfl
  | case4 taken p rest included t made reserved ih =>
      rw [collect_of_reserved included made reserved]
      rcases List.mem_cons.1 dealt with now | later
      · cases now
      · exact ih there later
  | case5 taken p rest included t made free met => cases List.mem_singleton.1 dealt
  | case6 taken p rest included t made free new ih =>
      have grown : Keyed.names (done ++ [(t.name, t)]) = taken ++ [t.name] := by
        rw [names_concat, there]
      rw [collect_of_fresh included made free (there ▸ new)]
      rcases List.mem_cons.1 dealt with now | later
      · cases now
      · exact ih grown later

/-- **Where every answer is a tool** all is collected if the names that are not reserved are different,
and else one of them is met a second time. -/
theorem answered_cases {os : List Operation} {done : Keyed Tool} {taken : List String}
    (there : Keyed.names done = taken) (distinct : taken.Nodup)
    (answered : ∀ d ∈ r.dealings schema taken os, d.2.isOk = true) :
    ((∃ tools, (r.collect schema done os s).result = .ok tools) ∧
        (taken ++ (r.unreserved (answers (r.dealings schema taken os))).map Tool.name).Nodup) ∨
      (∃ name, (r.collect schema done os s).result = .error (.duplicateTool name)) ∧
        ¬ (taken ++ (r.unreserved (answers (r.dealings schema taken os))).map Tool.name).Nodup := by
  fun_induction dealings r schema taken os generalizing done with
  | case1 taken => exact .inl ⟨⟨done, rfl⟩, (List.append_nil taken).symm ▸ distinct⟩
  | case2 taken o rest excluded ih =>
      rw [collect_of_excluded excluded]
      exact ih there distinct answered
  | case3 taken o rest included f unmade => cases answered _ List.mem_cons_self
  | case4 taken o rest included t made reserved ih =>
      rw [collect_of_reserved included made reserved, answers_cons, unreserved_cons_of_reserved reserved]
      exact ih there distinct fun d dealt => answered d (List.mem_cons_of_mem _ dealt)
  | case5 taken o rest included t made free met =>
      rw [collect_of_taken included made free (there ▸ met), answers_cons, unreserved_cons free]
      refine .inr ⟨⟨t.name, rfl⟩, fun nodup => ?_⟩
      exact (List.nodup_append.1 nodup).2.2 _ met _ List.mem_cons_self rfl
  | case6 taken o rest included t made free new ih =>
      have grown : Keyed.names (done ++ [(t.name, t)]) = taken ++ [t.name] := by
        rw [names_concat, there]
      have still : (taken ++ [t.name]).Nodup :=
        distinct.append (List.nodup_singleton t.name) (List.disjoint_singleton.2 new)
      have later := ih grown still fun d dealt => answered d (List.mem_cons_of_mem _ dealt)
      rw [List.append_assoc] at later
      rw [collect_of_fresh included made free (there ▸ new), answers_cons, unreserved_cons free]
      exact later

/-- What becomes of operations, told by the tools that are made for those that are not excluded. -/
theorem exists_made_iff {os : List Operation} {kept : List Tool} :
    (∃ fates, os.mapM (r.fate schema) = .ok fates ∧ fates.filterMap Fate.tool? = kept) ↔
      ∃ made, (r.included os).mapM (r.make schema) = .ok made ∧
        r.unreserved made = kept := by
  induction os generalizing kept with
  | nil => simp [Outcome.pure_eq_ok, included, unreserved]
  | cons o rest ih =>
      by_cases excluded : r.settings.excludes o.kind o.name = true
      · rw [Outcome.exists_mapM_cons_iff (fate_of_excluded excluded), included_cons_of_excluded excluded]
        exact ih
      · rw [included_cons excluded]
        cases made : r.make schema o with
        | error f =>
            constructor
            · rintro ⟨fates, fated, -⟩
              obtain ⟨fate, first, -⟩ := Outcome.mapM_cons_eq_ok.1 fated
              rw [fate_of_error excluded made] at first
              cases first
            · rintro ⟨tools, all, -⟩
              obtain ⟨t, first, -⟩ := Outcome.mapM_cons_eq_ok.1 all
              rw [made] at first
              cases first
        | ok t =>
            rw [Outcome.exists_mapM_cons_iff made]
            by_cases reserved : t.name ∈ r.reserved
            · rw [Outcome.exists_mapM_cons_iff (fate_of_reserved excluded made reserved)]
              simp only [unreserved_cons_of_reserved reserved]
              exact ih
            · rw [Outcome.exists_mapM_cons_iff (fate_of_free excluded made reserved)]
              simp only [unreserved_cons reserved, List.filterMap_cons, Fate.tool?]
              constructor
              · rintro ⟨fates, fated, rfl⟩
                obtain ⟨tools, all, same⟩ := ih.1 ⟨fates, fated, rfl⟩
                exact ⟨tools, all, congrArg _ same⟩
              · rintro ⟨tools, all, rfl⟩
                obtain ⟨fates, fated, same⟩ := ih.2 ⟨tools, all, rfl⟩
                exact ⟨fates, fated, congrArg _ same⟩

/-- What is computed for a schema: all that is made, but for what is reserved, under different names. -/
theorem result_compute_iff_made {tools : Keyed Tool} :
    (r.compute schema s).result = .ok tools ↔
      ∃ os made, schema.operations r.settings.allowedKinds = .ok os ∧
        (r.included os).mapM (r.make schema) = .ok made ∧
        tools = Keyed.ofTools (r.unreserved made) ∧
        (Keyed.names tools).Nodup := by
  rw [result_compute_eq_ok_iff]
  constructor
  · rintro ⟨os, listed, fates, fated, same, distinct⟩
    obtain ⟨made, all, kept⟩ := exists_made_iff.1 ⟨fates, fated, rfl⟩
    exact ⟨os, made, listed, all, by rw [same, kept], distinct⟩
  · rintro ⟨os, made, listed, all, same, distinct⟩
    obtain ⟨fates, fated, kept⟩ := exists_made_iff.2 ⟨made, all, rfl⟩
    exact ⟨os, listed, fates, fated, by rw [same, kept], distinct⟩

/-- What is computed for a schema is what is collected of its operations. -/
theorem compute_of_operations {os : List Operation}
    (listed : schema.operations r.settings.allowedKinds = .ok os) :
    (r.compute schema s).result = (r.collect schema [] os s).result := by
  refine Action.result_bind_of_ok ?_
  rw [result_operations, listed]
  rfl

/-- No tools are computed from a schema whose operations cannot be listed. -/
theorem compute_of_fault {fault : RootFault}
    (unlisted : schema.operations r.settings.allowedKinds = .error fault) :
    (r.compute schema s).result = .error (.roots fault) := by
  refine Action.result_bind_of_error ?_
  rw [result_operations, unlisted]
  rfl

end ToolRules

namespace Toolset

/-! ## Calls -/

/-- A call that has a set built, or built again, for a schema and with tools made in a way of its own. -/
structure Call where
  again : Bool
  make : Schema → Operation → Except Failure Tool
  schema : Schema
  around : Surroundings

/-- The operations that a call asks for, with the answers. -/
def Call.dealings (c : Call) (rules : ToolRules) : List (Operation × Except Failure Tool) :=
  match c.schema.operations rules.settings.allowedKinds with
  | .ok os => (rules.making c.make).dealings c.schema [] os
  | .error _ => []

/-- What a call gives where it returns: the tools made for all operations that are admitted and not
excluded, without those whose names are reserved, in order and each under its name, which are different. -/
def Call.Gives (c : Call) (rules : ToolRules) (tools : Keyed Tool) : Prop :=
  ∃ os made, c.schema.operations rules.settings.allowedKinds = .ok os ∧
    (rules.included os).mapM (c.make c.schema) = .ok made ∧
    tools = Keyed.ofTools (rules.unreserved made) ∧ (Keyed.names tools).Nodup

/-- What comes of a call: the tools that it returns, if it returns. -/
def attempt (t : Toolset) (c : Call) : Outcome (Keyed Tool) :=
  let own : Toolset := { t with rules := t.rules.making c.make }
  let o := if c.again then own.reload c.schema c.around else own.build c.schema c.around
  ⟨o.result.map Toolset.tools, o.events⟩

/-- The set after a call. -/
def meet (t : Toolset) (c : Call) : Toolset :=
  match (t.attempt c).result with
  | .ok tools => { t with tools }
  | .error _ => t

/-- The set after some calls. -/
def after (t : Toolset) : List Call → Toolset
  | [] => t
  | c :: rest => (t.meet c).after rest

/-- What the call returned that was the last to return, or an earlier one if none did. -/
def lastReturned (t : Toolset) (earlier : Option (Keyed Tool)) : List Call → Option (Keyed Tool)
  | [] => earlier
  | c :: rest => (t.meet c).lastReturned ((t.attempt c).result.toOption.or earlier) rest

/-- All that a set answers is told by one mapping. -/
structure Describes (t : Toolset) (mapping : Keyed Tool) : Prop where
  names : t.names = mapping.map Prod.fst
  size : t.size = mapping.length
  contains : ∀ name, t.contains name = true ↔ ∃ tool, (name, tool) ∈ mapping
  lookup : ∀ name tool, t.lookup name = some tool ↔ (name, tool) ∈ mapping

/-! ## One call -/

variable {t : Toolset} {c : Call} {tools : Keyed Tool}

/-- What comes of a call, by what is computed for it: what it says in the end depends on the number of
tools. -/
theorem attempt_eq (t : Toolset) (c : Call) :
    t.attempt c = (do
      let tools ← (t.rules.making c.make).compute c.schema
      Action.say .info ToolRules.logger s!"Registered {tools.length} GraphQL tools"
      if c.again then
        Action.say .info ToolRules.logger s!"Reloaded GraphQL tools: {t.size} -> {tools.length}"
      return tools : Action (Keyed Tool)) c.around := by
  obtain ⟨again, make, schema, s⟩ := c
  unfold attempt reload build
  cases again <;> cases computed : ((t.rules.making make).compute schema s).result <;>
    simp [bind, Action.andThen, computed, Except.map] <;> rfl

/-- What an attempt gives turns on its rules and its call alone. -/
theorem result_attempt (t : Toolset) (c : Call) :
    (t.attempt c).result = ((t.rules.making c.make).compute c.schema c.around).result := by
  rw [attempt_eq]
  cases computed : ((t.rules.making c.make).compute c.schema c.around).result with
  | error f => exact Action.result_bind_of_error computed
  | ok tools =>
      refine (Action.result_bind_of_ok computed).trans ?_
      cases c.again <;> rfl

/-- A call returns just what it gives. -/
theorem result_attempt_eq_ok_iff : (t.attempt c).result = .ok tools ↔ c.Gives t.rules tools := by
  rw [result_attempt]
  exact ToolRules.result_compute_iff_made

/-- What is asked for is of admitted kinds and not excluded, and the answers are those of the call. -/
theorem Call.of_mem_dealings {rules : ToolRules} {d : Operation × Except Failure Tool}
    (dealt : d ∈ c.dealings rules) :
    d.1.kind ∈ rules.settings.allowedKinds ∧ rules.settings.excludes d.1.kind d.1.name = false ∧
      d.2 = c.make c.schema d.1 := by
  unfold dealings at dealt
  cases listed : c.schema.operations rules.settings.allowedKinds with
  | error fault =>
      rw [listed] at dealt
      cases dealt
  | ok os =>
      rw [listed] at dealt
      obtain ⟨included, answer⟩ := ToolRules.of_mem_dealings dealt
      have asked := (ToolRules.asked_sublist [] os).subset (List.mem_map_of_mem dealt)
      exact ⟨(Schema.field_of_operations listed asked).1, Bool.eq_false_iff.2 included, answer⟩

/-- Another way to make tools that answers what is asked for alike makes no difference. -/
theorem attempt_congr {make : Schema → Operation → Except Failure Tool}
    (agrees : ∀ d ∈ c.dealings t.rules, make c.schema d.1 = d.2) :
    t.attempt { c with make } = t.attempt c := by
  have same : (t.rules.making make).compute c.schema = (t.rules.making c.make).compute c.schema := by
    funext s
    have listing : (t.rules.making make).operations c.schema s =
        (t.rules.making c.make).operations c.schema s := rfl
    show Action.andThen _ _ s = Action.andThen _ _ s
    cases listed : ((t.rules.making c.make).operations c.schema s).result with
    | error f => simp only [Action.andThen, listing, listed]
    | ok os =>
        have own := listed
        rw [ToolRules.result_operations, Outcome.mapError_eq_ok] at own
        have own' : c.schema.operations t.rules.settings.allowedKinds = .ok os := own
        simp only [Call.dealings, own'] at agrees
        have collected : (t.rules.making make).collect c.schema [] os =
            (t.rules.making c.make).collect c.schema [] os :=
          ToolRules.collect_congr (r := t.rules.making c.make) rfl agrees
        simp only [Action.andThen, listing, listed, collected]
  rw [attempt_eq, attempt_eq, same]

/-- A failure to make a tool is the failure of the call. -/
theorem result_attempt_of_dealt {o : Operation} {f : Failure}
    (dealt : (o, .error f) ∈ c.dealings t.rules) : (t.attempt c).result = .error f := by
  rw [result_attempt]
  unfold Call.dealings at dealt
  cases listed : c.schema.operations t.rules.settings.allowedKinds with
  | error fault =>
      rw [listed] at dealt
      cases dealt
  | ok os =>
      rw [listed] at dealt
      rw [ToolRules.compute_of_operations (r := t.rules.making c.make) listed]
      exact ToolRules.collect_of_dealt_error rfl dealt

/-- Where every answer is a tool, a call fails for a name met twice just where two of the names that are
not reserved are the same. -/
theorem internal_iff_of_answered (answered : ∀ d ∈ c.dealings t.rules, d.2.isOk = true) :
    (∃ f, (t.attempt c).result = .error f ∧ f.kind = .internal) ↔
      ¬ ((t.rules.unreserved (ToolRules.answers (c.dealings t.rules))).map Tool.name).Nodup := by
  rw [result_attempt]
  unfold Call.dealings at answered ⊢
  cases listed : c.schema.operations t.rules.settings.allowedKinds with
  | error fault =>
      rw [ToolRules.compute_of_fault (r := t.rules.making c.make) listed]
      constructor
      · rintro ⟨f, failed, internal⟩
        cases failed
        cases fault <;> cases internal
      · intro twice
        exact absurd List.nodup_nil twice
  | ok os =>
      rw [listed] at answered
      rw [ToolRules.compute_of_operations (r := t.rules.making c.make) listed]
      have noNames : Keyed.names ([] : Keyed Tool) = [] := rfl
      rcases ToolRules.answered_cases (s := c.around) noNames List.nodup_nil answered with
        ⟨⟨tools, collected⟩, distinct⟩ | ⟨⟨name, collected⟩, twice⟩
      · rw [collected]
        constructor
        · rintro ⟨f, failed, -⟩
          cases failed
        · intro twice
          exact absurd distinct twice
      · rw [collected]
        exact ⟨fun _ => twice, fun _ => ⟨_, rfl, rfl⟩⟩

/-! ## Every run -/

/-- The tools of a set stand under their names, which are different and not reserved. -/
structure Orderly (t : Toolset) : Prop where
  distinct : (Keyed.names t.tools).Nodup
  named : ∀ p ∈ t.tools, p.2.name = p.1 ∧ p.1 ∉ t.rules.reserved

theorem orderly_empty (rules : ToolRules) : (empty rules).Orderly := ⟨List.nodup_nil, nofun⟩

/-- The tools that a call gives are in order. -/
theorem Call.Gives.orderly {rules : ToolRules} (gives : c.Gives rules tools) :
    Orderly { rules, tools } := by
  obtain ⟨os, made, -, -, rfl, distinct⟩ := gives
  refine ⟨distinct, fun p member => ?_⟩
  obtain ⟨t, there, rfl⟩ := List.mem_map.1 member
  have free := (List.mem_filter.1 there).2
  exact ⟨rfl, by simpa using free⟩

theorem meet_of_error {f : Failure} (failed : (t.attempt c).result = .error f) : t.meet c = t := by
  simp only [meet, failed]

theorem meet_of_ok (returned : (t.attempt c).result = .ok tools) : t.meet c = { t with tools } := by
  simp only [meet, returned]

theorem rules_meet (t : Toolset) (c : Call) : (t.meet c).rules = t.rules := by
  unfold meet
  cases (t.attempt c).result <;> rfl

/-- Step lemma: tools that are in order are so after a call. -/
theorem Orderly.meet (orderly : t.Orderly) (c : Call) : (t.meet c).Orderly := by
  cases returned : (t.attempt c).result with
  | error f => rwa [meet_of_error returned]
  | ok tools =>
      rw [meet_of_ok returned]
      exact (result_attempt_eq_ok_iff.1 returned).orderly

/-- Run lemma: they are so after all calls. -/
theorem Orderly.after (orderly : t.Orderly) (calls : List Call) : (t.after calls).Orderly := by
  induction calls generalizing t with
  | nil => exact orderly
  | cons c rest ih => exact ih (orderly.meet c)

/-- No calls change the rules. -/
theorem rules_after (t : Toolset) (calls : List Call) : (t.after calls).rules = t.rules := by
  induction calls generalizing t with
  | nil => rfl
  | cons c rest ih => exact (ih (t.meet c)).trans (t.rules_meet c)

/-- Calls may be met in two parts. -/
theorem after_append (t : Toolset) (first rest : List Call) :
    t.after (first ++ rest) = (t.after first).after rest := by
  induction first generalizing t with
  | nil => rfl
  | cons c first ih => exact ih (t.meet c)

/-- The tools of a set are those that the last call returned, or the ones before if none did. -/
theorem tools_after {earlier : Option (Keyed Tool)} {none : Keyed Tool}
    (before : t.tools = earlier.getD none) (calls : List Call) :
    (t.after calls).tools = (t.lastReturned earlier calls).getD none := by
  induction calls generalizing t earlier with
  | nil => exact before
  | cons c rest ih =>
      refine ih ?_
      cases returned : (t.attempt c).result with
      | error f =>
          rw [meet_of_error returned, before]
          rfl
      | ok tools =>
          rw [meet_of_ok returned]
          rfl

/-- Where names are different, a set's answers are told by its tools. -/
theorem Orderly.describes (orderly : t.Orderly) : t.Describes t.tools := by
  refine ⟨rfl, rfl, fun name => ?_, fun name tool => ⟨Keyed.mem_of_get?, fun member => ?_⟩⟩
  · rw [contains, Keyed.has_iff, Keyed.names, List.mem_map]
    constructor
    · rintro ⟨⟨key, tool⟩, member, rfl⟩
      exact ⟨tool, member⟩
    · rintro ⟨tool, member⟩
      exact ⟨_, member, rfl⟩
  · exact Keyed.get?_of_mem orderly.distinct member

/-- **Building is all or nothing.**  After any calls the answers of a set are told by one mapping: what the
call returned that was the last to return, and nothing if none did.  Each tool stands under its name, and
no name is reserved.  A further call returns just what it gives; it asks only for operations of admitted
kinds that are not excluded, and fails as an answer fails; where all answers are tools it fails for a
name met twice just where two names that are not reserved are the same; and where it fails the set
stays. -/
theorem rebuilt_whole (rules : ToolRules) (calls : List Call) :
    ((empty rules).after calls).Describes (((empty rules).lastReturned none calls).getD []) ∧
    (∀ p ∈ ((empty rules).after calls).tools, p.2.name = p.1 ∧ p.1 ∉ rules.reserved) ∧
    ∀ c : Call,
      (∀ tools, (((empty rules).after calls).attempt c).result = .ok tools ↔ c.Gives rules tools) ∧
      (∀ d ∈ c.dealings rules, d.1.kind ∈ rules.settings.allowedKinds ∧
        rules.settings.excludes d.1.kind d.1.name = false ∧ d.2 = c.make c.schema d.1) ∧
      (∀ make, (∀ d ∈ c.dealings rules, make c.schema d.1 = d.2) →
        ((empty rules).after calls).attempt { c with make } = ((empty rules).after calls).attempt c) ∧
      (∀ o f, (o, .error f) ∈ c.dealings rules →
        (((empty rules).after calls).attempt c).result = .error f) ∧
      ((∀ d ∈ c.dealings rules, d.2.isOk = true) →
        ((∃ f, (((empty rules).after calls).attempt c).result = .error f ∧ f.kind = .internal) ↔
          ¬ ((rules.unreserved (ToolRules.answers (c.dealings rules))).map Tool.name).Nodup)) ∧
      ∀ f, (((empty rules).after calls).attempt c).result = .error f →
        (empty rules).after (calls ++ [c]) = (empty rules).after calls := by
  have orderly := (orderly_empty rules).after calls
  have same : ((empty rules).after calls).rules = rules := (empty rules).rules_after calls
  have last : ((empty rules).after calls).tools = ((empty rules).lastReturned none calls).getD [] :=
    tools_after rfl calls
  refine ⟨last ▸ orderly.describes, ?named, fun c =>
    ⟨?gives, fun d => c.of_mem_dealings, ?asked, ?fails, ?twice, ?stays⟩⟩
  case named =>
    have named := orderly.named
    rwa [same] at named
  case gives =>
    intro tools
    rw [result_attempt_eq_ok_iff, same]
  case asked =>
    intro make agrees
    rw [← same] at agrees
    exact attempt_congr agrees
  case fails =>
    intro o f dealt
    rw [← same] at dealt
    exact result_attempt_of_dealt dealt
  case twice =>
    have twice := internal_iff_of_answered (t := (empty rules).after calls) (c := c)
    rwa [same] at twice
  case stays =>
    intro f failed
    rw [after_append]
    exact meet_of_error failed

/-- Rules that exclude a query and reserve a name. -/
def wary : ToolRules := .ofSettings { excludedQueries := ["c"] } ["taken"]

/-- A call that names the tool of each field, or fails for it. -/
def Call.naming (again : Bool) (fields : String) (name : String → Except Failure String) : Call where
  again
  make := fun _ o => (name o.name).map fun n => { (default : Tool) with name := n, operation := o }
  schema := (Schema.parse ("type Query \x7b " ++ fields ++ " \x7d")).toOption.getD
    ⟨none, [], [], [], none, none, none⟩
  around := Server.cutOff

/-- A call that succeeds, with an excluded field and a reserved name; one that fails half-way; and one in
which all names are the same, also those never reached. -/
def restless : List Call :=
  [.naming false "a: Int b: Int c: Int d: Int" fun n => if n = "b" then .ok "taken" else .ok n,
   .naming true "x: Int y: Int" fun n => if n = "y" then .error .unnamedOperation else .ok n,
   .naming true "x: Int y: Int z: Int" fun n => if n = "z" then .error .unnamedOperation else .ok "same"]

/-- After these calls the set holds what the first one made, and a further one fails for a name met
twice. -/
theorem rebuilt_whole_restless :
    ((empty wary).after restless).names = ["a", "d"] ∧
    ((empty wary).after restless).Describes (((empty wary).lastReturned none restless).getD []) ∧
    ∃ c : Call, (∀ d ∈ c.dealings wary, d.2.isOk = true) ∧
      (∃ f, (((empty wary).after restless).attempt c).result = .error f ∧ f.kind = .internal) ∧
      (empty wary).after (restless ++ [c]) = (empty wary).after restless := by
  obtain ⟨describes, -, next⟩ := rebuilt_whole wary restless
  let c := Call.naming true "x: Int y: Int z: Int" fun n =>
    if n = "z" then .error .unnamedOperation else .ok "same"
  obtain ⟨-, -, -, -, twice, stays⟩ := next c
  have answered : (c.dealings wary).all (fun d => d.2.isOk) = true := by decide +kernel
  have answered := List.all_eq_true.1 answered
  have repeated : ¬ ((wary.unreserved (ToolRules.answers (c.dealings wary))).map Tool.name).Nodup := by
    decide +kernel
  obtain ⟨f, failed, internal⟩ := (twice answered).2 repeated
  exact ⟨by decide +kernel, describes, c, answered, ⟨f, failed, internal⟩, stays f failed⟩

end Toolset

end QueryTools
