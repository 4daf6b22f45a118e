import Mathlib.Data.List.Forall2
import QueryTools.Proofs.Registry
import QueryTools.Proofs.Reachable
import QueryTools.Proofs.Tool.Obstacles

/-!
# The content of a set of tools

With the tools that settings make, the fields of a schema's roots say what a set holds: each field that
is offered gives one tool, in the order of declaration and queries first, under a name that starts with
the kind.  The kinds differ in their first letter, so that no two names meet, whatever the roots have in
common.

Main statements:

* `ToolRules.made_of_compute` -- the tools for a schema, one by one;
* `ToolRules.compute_ne_duplicate` -- no two of them get the same name;
* `Toolset.tools_of_build` -- both, and that an exclusion concerns its own kind alone.
-/

namespace QueryTools

/-! ## Fields of the roots -/

/-- A field of the root of a kind. -/
structure RootField where
  kind : OperationKind
  field : OutputField

/-- The name of the tool for a field of a root. -/
def RootField.toolName (p : RootField) : String := p.kind.word ++ "-" ++ p.field.name

namespace Schema

/-- The fields that the root of a kind declares, none where there is no root. -/
def declared (s : Schema) (kind : OperationKind) : List OutputField :=
  (((s.root? kind).bind s.find?).bind NamedType.outputFields?).getD []

/-- The fields of each root stand under their names, of which none occurs twice. -/
def DistinctRoots (s : Schema) : Prop :=
  ∀ kind, ((s.declared kind).map OutputField.name).Nodup

/-- The fields that are listed at a root are those that are declared there. -/
theorem declared_of_rootFields {s : Schema} {kind : OperationKind} {fields : List OutputField}
    (listed : s.rootFields kind = .ok fields) : fields = s.declared kind := by
  unfold rootFields at listed
  unfold declared
  cases found : (s.root? kind).bind s.find? with
  | none =>
      rw [found] at listed
      cases listed
      rfl
  | some root =>
      simp only [found] at listed
      simp only [Option.bind_some, NamedType.outputFields?]
      split at listed
      · rename_i interfaces own form
        split at listed
        · cases listed
        · cases listed
          rw [form]
          rfl
      · rename_i interfaces own form
        split at listed
        · cases listed
        · cases listed
          rw [form]
          rfl
      · rename_i oneOf form
        cases listed
        rw [form]
        rfl
      · cases listed
      · cases listed

/-- Every schema that is loaded keeps the fields of its roots under their names. -/
theorem Loaded.distinctRoots {s : Schema} (loaded : s.Loaded) : s.DistinctRoots := by
  intro kind
  unfold declared
  cases found : (s.root? kind).bind s.find? with
  | none => exact List.nodup_nil
  | some root =>
      cases has : root.outputFields? with
      | none => simp [has]
      | some fields =>
          obtain ⟨name, -, here⟩ := Option.bind_eq_some_iff.1 found
          simpa [has] using (loaded.sound name root here fields has).1

end Schema

/-- A tool under a name is the one that was made for a field of a root. -/
structure Synthesizer.MadeFor (y : Synthesizer) (s : Schema) (entry : String × Tool) (p : RootField) :
    Prop where
  key : entry.1 = p.toolName
  name : entry.2.name = entry.1
  made : y.synthesize s (s.operation p.kind p.field) = .ok entry.2

namespace Synthesizer

variable {y : Synthesizer} {s : Schema}

/-- Tools stand under the names for what they were made for. -/
theorem names_of_made {tools : Keyed Tool} {ps : List RootField}
    (made : List.Forall₂ (y.MadeFor s) tools ps) : Keyed.names tools = ps.map RootField.toolName := by
  induction made with
  | nil => rfl
  | cons first _ ih =>
      rw [Keyed.names, List.map_cons, List.map_cons, first.key]
      exact congrArg _ ih

/-- What a tool is made for says which tool it is. -/
theorem madeFor_unique (y : Synthesizer) (s : Schema) : Relator.LeftUnique (y.MadeFor s) := by
  rintro ⟨key, t⟩ ⟨key', t'⟩ p first second
  have keys : key = key' := first.key.trans second.key.symm
  have tools : t = t' := by
    have both := first.made.symm.trans second.made
    cases both
    rfl
  rw [keys, tools]

end Synthesizer

namespace Settings

/-- The fields of the roots of a schema for which settings offer tools: of the queries those that are not
excluded, and where mutations are admitted the same of these. -/
def offered (settings : Settings) (s : Schema) : List RootField :=
  ((s.declared .query).filter fun f => f.name ∉ settings.excludedQueries).map (RootField.mk .query) ++
    if settings.allowMutations then
      ((s.declared .mutation).filter fun f => f.name ∉ settings.excludedMutations).map
        (RootField.mk .mutation)
    else []

/-- All fields of the roots whose kinds are admitted. -/
def places (settings : Settings) (s : Schema) : List RootField :=
  (s.declared .query).map (RootField.mk .query) ++
    if settings.allowMutations then (s.declared .mutation).map (RootField.mk .mutation) else []

/-- What is offered are the places of which none is excluded. -/
theorem offered_eq_filter (settings : Settings) (s : Schema) :
    settings.offered s = (settings.places s).filter fun p => !settings.excludes p.kind p.field.name := by
  unfold offered places
  rw [List.filter_append, List.filter_map]
  congr 1
  · congr 1
    refine List.filter_congr fun f _ => ?_
    simp [excludes]
  · cases settings.allowMutations with
    | false => rfl
    | true =>
        simp only [if_true, List.filter_map]
        congr 1
        refine List.filter_congr fun f _ => ?_
        simp [excludes]

/-- The operations are those of the places, in their order. -/
theorem eq_map_places {settings : Settings} {s : Schema} {os : List Operation}
    (listed : s.operations settings.allowedKinds = .ok os) :
    os = (settings.places s).map fun p => s.operation p.kind p.field := by
  obtain ⟨queries, mutations, queried, changed, rfl⟩ := Schema.operations_eq_ok listed
  have query : OperationKind.query ∈ settings.allowedKinds := by
    unfold allowedKinds
    cases settings.allowMutations <;> simp
  have first := Schema.declared_of_rootFields (queried.asked query)
  subst first
  unfold places
  rw [List.map_append, List.map_map]
  by_cases admitted : settings.allowMutations = true
  · have second := Schema.declared_of_rootFields
      (changed.asked (mutation_mem_allowedKinds.2 admitted))
    subst second
    rw [if_pos admitted, List.map_map]
    rfl
  · have none := changed.unasked fun offered => admitted (mutation_mem_allowedKinds.1 offered)
    subst none
    rw [if_neg admitted]
    rfl

/-- No two fields of the roots give tools of one name. -/
theorem nodup_toolNames_places {s : Schema} (distinct : s.DistinctRoots) (settings : Settings) :
    ((settings.places s).map RootField.toolName).Nodup := by
  have each : ∀ kind, (((s.declared kind).map (RootField.mk kind)).map RootField.toolName).Nodup := by
    intro kind
    have names : ((s.declared kind).map (RootField.mk kind)).map RootField.toolName =
        ((s.declared kind).map OutputField.name).map fun name => kind.word ++ "-" ++ name := by
      rw [List.map_map, List.map_map]
      rfl
    rw [names]
    refine (distinct kind).map fun a b same => ?_
    exact (String.append_right_inj _).1 same
  unfold places
  cases settings.allowMutations with
  | false => simpa using each .query
  | true =>
      simp only [if_true, List.map_append]
      refine List.nodup_append.2 ⟨each .query, each .mutation, ?_⟩
      -- The words of the two kinds differ in their first letter.
      intro a isQuery b isMutation same
      obtain ⟨f, -, rfl⟩ : ∃ f, f ∈ s.declared .query ∧ RootField.toolName ⟨.query, f⟩ = a := by
        simpa using isQuery
      obtain ⟨g, -, rfl⟩ : ∃ g, g ∈ s.declared .mutation ∧ RootField.toolName ⟨.mutation, g⟩ = b := by
        simpa using isMutation
      have letters := congrArg String.toList same
      simp [RootField.toolName, OperationKind.word, String.toList_append] at letters

end Settings

/-! ## Tools one by one -/

namespace ToolRules

variable {settings : Settings} {reserved : List String} {schema : Schema} {s : Surroundings}

/-- The tools that are kept of the fields of roots. -/
theorem made_of_fates {places : List RootField} {fates : List Fate}
    (fated : (places.map fun p => schema.operation p.kind p.field).mapM
      ((ofSettings settings reserved).fate schema) = .ok fates) :
    List.Forall₂ (settings.synthesizer.MadeFor schema) (Keyed.ofTools (fates.filterMap Fate.tool?))
      ((places.filter fun p => !settings.excludes p.kind p.field.name).filter fun p =>
        p.toolName ∉ reserved) := by
  induction places generalizing fates with
  | nil =>
      rw [List.map_nil, List.mapM_nil, Outcome.pure_eq_ok] at fated
      rw [← fated]
      exact .nil
  | cons p rest ih =>
      obtain ⟨fate, first, later, fatedLater, rfl⟩ := Outcome.mapM_cons_eq_ok.1 fated
      have others := ih fatedLater
      rcases fate_cases first with ⟨excluded, rfl⟩ | ⟨included, t, made, become⟩
      · have left : settings.excludes p.kind p.field.name = true := excluded
        rw [List.filter_cons_of_neg (by simp [left])]
        exact others
      · have stays : settings.excludes p.kind p.field.name = false := included
        have named : t.name = p.toolName := (Synthesizer.makes_of_synthesize made).name
        rw [List.filter_cons_of_pos (by simp [stays])]
        rcases become with ⟨taken, rfl⟩ | ⟨free, rfl⟩
        · have held : p.toolName ∈ reserved := named ▸ taken
          rw [List.filter_cons_of_neg (by simp [held])]
          exact others
        · have open' : p.toolName ∉ reserved := named ▸ free
          have entry : settings.synthesizer.MadeFor schema (t.name, t) p := ⟨named, rfl, made⟩
          rw [List.filter_cons_of_pos (by simp [open'])]
          exact .cons entry others

/-- The tools for a schema are those made for the fields that are offered and whose tools have no
reserved names, in their order. -/
theorem made_of_compute {tools : Keyed Tool}
    (computed : ((ofSettings settings reserved).compute schema s).result = .ok tools) :
    List.Forall₂ (settings.synthesizer.MadeFor schema) tools
      ((settings.offered schema).filter fun p => p.toolName ∉ reserved) := by
  obtain ⟨os, listed, fates, fated, rfl, -⟩ := result_compute_eq_ok_iff.1 computed
  have places := Settings.eq_map_places listed
  subst places
  rw [Settings.offered_eq_filter]
  exact made_of_fates fated

/-- Where all names are different, no name is met a second time while tools are collected. -/
theorem collect_ne_duplicate {r : ToolRules} {os : List Operation} {done : Keyed Tool}
    (others : ∀ o name, r.make schema o ≠ .error (.duplicateTool name))
    (named : ∀ o t, r.make schema o = .ok t → t.name = o.toolName)
    (distinct : (Keyed.names done ++ os.map Operation.toolName).Nodup) (name : String) :
    (r.collect schema done os s).result ≠ .error (.duplicateTool name) := by
  induction os generalizing done with
  | nil => nofun
  | cons o rest ih =>
      have shorter : (Keyed.names done ++ rest.map Operation.toolName).Nodup := by
        refine distinct.sublist (List.Sublist.append_left ?_ _)
        exact List.sublist_cons_self _ _
      unfold collect
      cases fated : r.fate schema o with
      | error f =>
          rw [Action.result_bind_of_error (s := s) (e := f) rfl]
          intro same
          cases same
          exact others o name (make_of_fate_error fated)
      | ok fate =>
          rw [Action.result_bind_of_ok (s := s) (x := fate) rfl]
          rcases fate_cases fated with ⟨-, rfl⟩ | ⟨-, t, made, ⟨-, rfl⟩ | ⟨-, rfl⟩⟩
          · exact ih shorter
          · exact ih shorter
          · have same := named o t made
            have fresh : t.name ∉ Keyed.names done := by
              rw [same]
              intro member
              have apart := (List.nodup_append.1 distinct).2.2
              exact apart _ member _ List.mem_cons_self rfl
            have free : Keyed.has t.name done ≠ true := fun has => fresh (Keyed.has_iff.1 has)
            simp only [free]
            refine ih ?_
            rw [Keyed.names, List.map_append, List.append_assoc]
            simpa [Keyed.names, same] using distinct

/-- Making one tool does not fail for another of its name. -/
theorem make_ofSettings_ne_duplicate (o : Operation) (name : String) :
    (ofSettings settings reserved).make schema o ≠ .error (.duplicateTool name) := by
  intro failed
  rcases Synthesizer.cases_of_synthesize failed with ⟨-, never⟩ | met
  · cases never
  · rcases Synthesizer.cases_of_obstacle? met with ⟨_, _, _, _, -, -, never⟩ |
      ⟨_, _, _, _, _, -, -, -, never⟩
    · cases never
    · cases never

/-- Under the rules that settings give no two tools for a schema get the same name. -/
theorem compute_ne_duplicate (distinct : schema.DistinctRoots) (name : String) :
    ((ofSettings settings reserved).compute schema s).result ≠ .error (.duplicateTool name) := by
  intro computed
  unfold compute at computed
  have listing := (ofSettings settings reserved).result_operations schema s
  cases listed : schema.operations settings.allowedKinds with
  | error fault =>
      have failed : ((ofSettings settings reserved).operations schema s).result =
          .error (.roots fault) := listing.trans (by rw [ofSettings, listed]; rfl)
      rw [Action.result_bind_of_error failed] at computed
      cases computed
  | ok os =>
      have passed : ((ofSettings settings reserved).operations schema s).result = .ok os :=
        listing.trans (by rw [ofSettings, listed]; rfl)
      rw [Action.result_bind_of_ok passed] at computed
      have places := Settings.eq_map_places listed
      subst places
      refine collect_ne_duplicate make_ofSettings_ne_duplicate ?_ ?_ name computed
      · intro o t made
        exact (Synthesizer.makes_of_synthesize made).name
      · have names : ((settings.places schema).map fun p => schema.operation p.kind p.field).map
            Operation.toolName = (settings.places schema).map RootField.toolName := by
          rw [List.map_map]
          rfl
        rw [names]
        exact Settings.nodup_toolNames_places distinct settings

/-! ## What settings decide -/

/-- The tools of one kind for a schema are made for the fields of that kind. -/
theorem made_of_kind {tools : Keyed Tool}
    (computed : ((ofSettings settings reserved).compute schema s).result = .ok tools)
    (kind : OperationKind) :
    List.Forall₂ (settings.synthesizer.MadeFor schema) (tools.filter fun e => e.2.operation.kind = kind)
      (((settings.offered schema).filter fun p => p.kind = kind).filter fun p =>
        p.toolName ∉ reserved) := by
  have same : ((settings.offered schema).filter fun p => p.kind = kind).filter
        (fun p => p.toolName ∉ reserved) =
      ((settings.offered schema).filter fun p => p.toolName ∉ reserved).filter
        fun p => p.kind = kind := by
    rw [List.filter_filter, List.filter_filter]
    exact List.filter_congr fun p _ => Bool.and_comm _ _
  rw [same]
  refine List.rel_filter ?_ (made_of_compute computed)
  intro entry p made
  have same : entry.2.operation.kind = p.kind :=
    congrArg Operation.kind (Synthesizer.makes_of_synthesize made.made).operation
  simp only [same]

end ToolRules

namespace Settings

/-- Which queries are offered does not depend on the mutations that are excluded. -/
theorem offered_query (settings : Settings) (s : Schema) (names : List String) :
    ((({ settings with excludedMutations := names } : Settings).offered s).filter
      fun p => p.kind = .query) = (settings.offered s).filter fun p => p.kind = .query := by
  unfold offered
  rw [List.filter_append, List.filter_append]
  congr 1
  cases settings.allowMutations <;> simp [List.filter_map, Function.comp_def]

/-- Which mutations are offered does not depend on the queries that are excluded. -/
theorem offered_mutation (settings : Settings) (s : Schema) (names : List String) :
    ((({ settings with excludedQueries := names } : Settings).offered s).filter
      fun p => p.kind = .mutation) = (settings.offered s).filter fun p => p.kind = .mutation := by
  unfold offered
  rw [List.filter_append, List.filter_append]
  congr 1
  simp [List.filter_map, Function.comp_def]

end Settings

namespace Toolset

variable {settings : Settings} {reserved : List String} {before : Keyed Tool} {schema : Schema}
  {s : Surroundings}

/-- The tools of a kind that a set holds after it was built. -/
def ofKind (t : Toolset) (kind : OperationKind) : Keyed Tool :=
  t.tools.filter fun e => e.2.operation.kind = kind

/-- **What a set of tools holds.**  A set that is built for a schema whose root fields stand under their
names holds just the tools made for the fields that are offered, in their order and under their names,
but for the reserved ones; excluding fields of one kind does not change the tools of the other.  Where
building fails, it is not because two tools have one name. -/
theorem tools_of_build (distinct : schema.DistinctRoots) :
    (∀ t, ((⟨.ofSettings settings reserved, before⟩ : Toolset).build schema s).result = .ok t →
      t.names = ((settings.offered schema).map RootField.toolName).filter (fun n => n ∉ reserved) ∧
      List.Forall₂ (settings.synthesizer.MadeFor schema) t.tools
        ((settings.offered schema).filter fun p => p.toolName ∉ reserved) ∧
      (∀ excluded u, ((⟨.ofSettings { settings with excludedMutations := excluded } reserved,
        before⟩ : Toolset).build schema s).result = .ok u → u.ofKind .query = t.ofKind .query) ∧
      ∀ excluded u, ((⟨.ofSettings { settings with excludedQueries := excluded } reserved,
        before⟩ : Toolset).build schema s).result = .ok u → u.ofKind .mutation = t.ofKind .mutation) ∧
    ∀ name, ((⟨.ofSettings settings reserved, before⟩ : Toolset).build schema s).result ≠
      .error (.duplicateTool name) := by
  have computes : ∀ {settings : Settings} {t : Toolset},
      ((⟨.ofSettings settings reserved, before⟩ : Toolset).build schema s).result = .ok t →
        ((ToolRules.ofSettings settings reserved).compute schema s).result = .ok t.tools := by
    intro settings t built
    rw [result_build] at built
    obtain ⟨tools, computed, rfl⟩ := Outcome.map_eq_ok.1 built
    exact computed
  constructor
  · intro t built
    have computed := computes built
    have made := ToolRules.made_of_compute computed
    refine ⟨?_, made, ?_, ?_⟩
    · calc t.names
          = ((settings.offered schema).filter fun p => p.toolName ∉ reserved).map
              RootField.toolName := Synthesizer.names_of_made made
        _ = ((settings.offered schema).map RootField.toolName).filter (fun n => n ∉ reserved) := by
          rw [List.filter_map]
          rfl
    · intro excluded u other
      have mine := ToolRules.made_of_kind computed .query
      have theirs := ToolRules.made_of_kind (computes other) .query
      rw [Settings.offered_query] at theirs
      exact List.left_unique_forall₂' (Synthesizer.madeFor_unique _ schema) theirs mine
    · intro excluded u other
      have mine := ToolRules.made_of_kind computed .mutation
      have theirs := ToolRules.made_of_kind (computes other) .mutation
      rw [Settings.offered_mutation] at theirs
      exact List.left_unique_forall₂' (Synthesizer.madeFor_unique _ schema) theirs mine
  · intro name built
    rw [result_build] at built
    cases computed : ((ToolRules.ofSettings settings reserved).compute schema s).result with
    | ok tools =>
        rw [computed] at built
        cases built
    | error f =>
        rw [computed] at built
        cases built
        exact ToolRules.compute_ne_duplicate distinct name computed

/-- A schema whose queries and mutations have one root. -/
def twins : String := "schema \x7b query: Q mutation: Q \x7d type Q \x7b a: Int graphql: Int b: Int \x7d"

/-- Settings that admit mutations and exclude a query, and another name of both kinds. -/
def picky : Settings :=
  { allowMutations := true, excludedQueries := ["b"], excludedMutations := ["a"] }

/-- Both kinds of operations on one root: each field makes two tools, but for what is excluded of its
kind and for the name that is reserved. -/
theorem tools_of_build_twins :
    ∃ schema t, Schema.parse twins = .ok schema ∧ schema.DistinctRoots ∧
      ((⟨.ofSettings picky ["query-graphql"], []⟩ : Toolset).build schema Server.cutOff).result = .ok t ∧
      t.names = ["query-a", "mutation-graphql", "mutation-b"] ∧
      List.Forall₂ (picky.synthesizer.MadeFor schema) t.tools
        ((picky.offered schema).filter fun p => p.toolName ∉ ["query-graphql"]) := by
  have run : (Schema.parse twins).toOption.any (fun schema =>
      ((⟨.ofSettings picky ["query-graphql"], []⟩ : Toolset).build schema
        Server.cutOff).result.toOption.any fun t =>
          t.names == ["query-a", "mutation-graphql", "mutation-b"]) = true := by decide +kernel
  obtain ⟨schema, parsed, run⟩ := (Option.any_eq_true _ _).1 run
  obtain ⟨t, built, names⟩ := (Option.any_eq_true _ _).1 run
  have parsed := Outcome.toOption_eq_some_iff.1 parsed
  have built := Outcome.toOption_eq_some_iff.1 built
  have distinct := Schema.Loaded.distinctRoots (.inl ⟨twins, parsed⟩)
  have holds := (tools_of_build distinct).1 t built
  exact ⟨schema, t, parsed, distinct, built, beq_iff_eq.1 names, holds.2.1⟩

end Toolset

end QueryTools
