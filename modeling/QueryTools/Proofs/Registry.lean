import QueryTools.Proofs.Keyed
import QueryTools.Proofs.Outcome
import QueryTools.Toolset

/-!
# What a set of tools holds

Tools are collected one operation at a time.  What is there in the end depends on what became of each
operation, and on nothing around.

Main statements:

* `ToolRules.fate_eq_kept_iff` -- when the tool for an operation is kept;
* `ToolRules.result_compute_eq_ok_iff` -- the tools for a schema are the kept ones, under their names
  and in the order of the operations, and there are none where two would share a name.
-/

namespace QueryTools

/-- The tool that is kept, if one is. -/
def ToolRules.Fate.tool? : ToolRules.Fate → Option Tool
  | .kept tool => some tool
  | _ => none

/-- Tools under their names. -/
def Keyed.ofTools (tools : List Tool) : Keyed Tool := tools.map fun t => (t.name, t)

/-- A tool stands under its own name. -/
theorem Keyed.mem_ofTools {tools : List Tool} {p : String × Tool} (member : p ∈ ofTools tools) :
    p.2 ∈ tools ∧ p.2.name = p.1 := by
  obtain ⟨t, there, rfl⟩ := List.mem_map.1 member
  exact ⟨there, rfl⟩

/-- Mutations are offered just where the settings allow them. -/
theorem Settings.mutation_mem_allowedKinds {settings : Settings} :
    .mutation ∈ settings.allowedKinds ↔ settings.allowMutations = true := by
  unfold allowedKinds
  cases settings.allowMutations <;> simp

namespace ToolRules

variable {r : ToolRules} {schema : Schema} {s : Surroundings}

/-- What becomes of an operation: it is excluded, or its tool is made and either has a reserved name or is
kept. -/
theorem fate_cases {o : Operation} {fate : Fate} (fated : r.fate schema o = .ok fate) :
    (r.settings.excludes o.kind o.name = true ∧ fate = .excluded) ∨
      r.settings.excludes o.kind o.name = false ∧ ∃ t, r.make schema o = .ok t ∧
        (t.name ∈ r.reserved ∧ fate = .reserved t.name ∨ t.name ∉ r.reserved ∧ fate = .kept t) := by
  unfold ToolRules.fate at fated
  cases excluded : r.settings.excludes o.kind o.name with
  | true =>
      simp only [excluded, if_true, Except.ok.injEq] at fated
      exact .inl ⟨rfl, fated.symm⟩
  | false =>
      simp only [excluded, Bool.false_eq_true, if_false, Outcome.bind_eq_ok, Outcome.pure_eq_ok] at fated
      obtain ⟨t, made, rfl⟩ := fated
      by_cases taken : t.name ∈ r.reserved
      · have reserved : r.reserved.contains t.name = true := List.contains_iff_mem.2 taken
        exact .inr ⟨rfl, t, made, .inl ⟨taken, if_pos reserved⟩⟩
      · have free : r.reserved.contains t.name ≠ true := fun there => taken (List.contains_iff_mem.1 there)
        exact .inr ⟨rfl, t, made, .inr ⟨taken, if_neg free⟩⟩

/-- What becomes of an operation is unknown only where its tool cannot be made. -/
theorem make_of_fate_error {o : Operation} {f : Failure} (failed : r.fate schema o = .error f) :
    r.make schema o = .error f := by
  unfold fate at failed
  split at failed
  · cases failed
  · rcases Outcome.bind_eq_error.1 failed with unmade | ⟨t, -, never⟩
    · exact unmade
    · cases never

/-- A tool is kept just if its operation is not excluded and its name is not reserved. -/
theorem fate_eq_kept_iff {o : Operation} {t : Tool} :
    r.fate schema o = .ok (.kept t) ↔
      r.settings.excludes o.kind o.name = false ∧ r.make schema o = .ok t ∧ t.name ∉ r.reserved := by
  constructor
  · intro fated
    rcases fate_cases fated with ⟨-, never⟩ | ⟨included, u, made, ⟨-, never⟩ | ⟨free, same⟩⟩
    · cases never
    · cases never
    · cases same
      exact ⟨included, made, free⟩
  · rintro ⟨included, made, free⟩
    have open' : r.reserved.contains t.name ≠ true := fun taken => free (List.contains_iff_mem.1 taken)
    unfold fate
    simp only [included, Bool.false_eq_true, if_false, Outcome.bind_eq_ok, Outcome.pure_eq_ok]
    exact ⟨t, made, if_neg open'⟩

/-- What is collected is what was there and the tools that are kept, if no two share a name. -/
theorem result_collect_eq_ok_iff {os : List Operation} {done tools : Keyed Tool}
    (distinct : (Keyed.names done).Nodup) :
    (r.collect schema done os s).result = .ok tools ↔
      ∃ fates, os.mapM (r.fate schema) = .ok fates ∧
        tools = done ++ Keyed.ofTools (fates.filterMap Fate.tool?) ∧ (Keyed.names tools).Nodup := by
  induction os generalizing done with
  | nil =>
      constructor
      · intro collected
        cases collected
        exact ⟨[], rfl, (List.append_nil tools).symm, distinct⟩
      · rintro ⟨fates, made, rfl, -⟩
        cases made
        simp [collect, Keyed.ofTools]
  | cons o rest ih =>
      unfold collect
      cases fated : r.fate schema o with
      | error f =>
          rw [Action.result_bind_of_error (s := s) (e := f) rfl]
          constructor
          · nofun
          · rintro ⟨fates, made, -⟩
            obtain ⟨fate, first, -⟩ := Outcome.mapM_cons_eq_ok.1 made
            cases fated.symm.trans first
      | ok fate =>
          rw [Action.result_bind_of_ok (s := s) (x := fate) rfl, Outcome.exists_mapM_cons_iff fated]
          cases fate with
          | excluded => exact ih distinct
          | reserved name => exact ih distinct
          | kept tool =>
              have whole : ∀ fates : List Fate,
                  done ++ Keyed.ofTools ((Fate.kept tool :: fates).filterMap Fate.tool?) =
                    (done ++ [(tool.name, tool)]) ++ Keyed.ofTools (fates.filterMap Fate.tool?) := by
                intro fates
                rw [List.append_assoc]
                rfl
              simp only [whole]
              by_cases taken : Keyed.has tool.name done = true
              · simp only [taken, if_true, Action.result_fail]
                constructor
                · nofun
                · rintro ⟨fates, -, rfl, nodup⟩
                  rw [Keyed.names, List.map_append] at nodup
                  have free := (Keyed.nodup_names_concat.1 (List.nodup_append.1 nodup).1).2
                  exact absurd (Keyed.has_iff.1 taken) free
              · simp only [taken]
                have free : tool.name ∉ Keyed.names done := fun member => taken (Keyed.has_iff.2 member)
                exact ih (Keyed.nodup_names_concat.2 ⟨distinct, free⟩)

/-- Collecting fails where a tool cannot be made or two share a name. -/
theorem cases_of_collect {os : List Operation} {done : Keyed Tool} {f : Failure}
    (failed : (r.collect schema done os s).result = .error f) :
    (∃ o ∈ os, r.make schema o = .error f) ∨ ∃ name, f = .duplicateTool name := by
  induction os generalizing done with
  | nil => cases failed
  | cons o rest ih =>
      unfold collect at failed
      cases fated : r.fate schema o with
      | error g =>
          rw [fated, Action.result_bind_of_error (s := s) (e := g) rfl] at failed
          cases failed
          exact .inl ⟨o, List.mem_cons_self, make_of_fate_error fated⟩
      | ok fate =>
          have later : ∀ {done}, (r.collect schema done rest s).result = .error f →
              (∃ o' ∈ o :: rest, r.make schema o' = .error f) ∨ ∃ name, f = .duplicateTool name := by
            intro done failed
            rcases ih failed with ⟨o', member, unmade⟩ | twice
            · exact .inl ⟨o', List.mem_cons_of_mem o member, unmade⟩
            · exact .inr twice
          rw [fated, Action.result_bind_of_ok (s := s) (x := fate) rfl] at failed
          cases fate with
          | excluded => exact later failed
          | reserved name => exact later failed
          | kept tool =>
              dsimp only at failed
              split at failed
              · cases failed
                exact .inr ⟨tool.name, rfl⟩
              · exact later failed

/-- Listing the operations of a schema gives the operations, or says what is wrong with the roots. -/
theorem result_operations (r : ToolRules) (schema : Schema) (s : Surroundings) :
    (r.operations schema s).result =
      (schema.operations r.settings.allowedKinds).mapError Failure.roots := by
  unfold operations
  cases schema.operations r.settings.allowedKinds with
  | error fault => exact Action.result_bind_of_error rfl
  | ok os =>
      refine (Action.result_bind_of_ok (x := os) rfl).trans ?_
      exact Action.result_bind_of_ok rfl

/-- The tools for a schema. -/
theorem result_compute_eq_ok_iff {tools : Keyed Tool} :
    (r.compute schema s).result = .ok tools ↔
      ∃ os, schema.operations r.settings.allowedKinds = .ok os ∧
        ∃ fates, os.mapM (r.fate schema) = .ok fates ∧
          tools = Keyed.ofTools (fates.filterMap Fate.tool?) ∧ (Keyed.names tools).Nodup := by
  unfold compute
  simp only [Action.result_bind_eq_ok, result_operations, Outcome.mapError_eq_ok]
  exact exists_congr fun os => and_congr_right fun _ => result_collect_eq_ok_iff List.nodup_nil

/-- No tools are made for a schema where something is wrong with its roots, where one of the tools cannot
be made, or where two share a name. -/
theorem cases_of_compute {f : Failure} (failed : (r.compute schema s).result = .error f) :
    (∃ fault, schema.operations r.settings.allowedKinds = .error fault ∧ f = .roots fault) ∨
      (∃ os, ∃ o ∈ os, schema.operations r.settings.allowedKinds = .ok os ∧ r.make schema o = .error f) ∨
      ∃ name, f = .duplicateTool name := by
  unfold compute at failed
  rcases Action.result_bind_eq_error.1 failed with unlisted | ⟨os, listed, uncollected⟩
  · rw [result_operations] at unlisted
    obtain ⟨fault, wrong, rfl⟩ := Outcome.mapError_eq_error.1 unlisted
    exact .inl ⟨fault, wrong, rfl⟩
  · rw [result_operations, Outcome.mapError_eq_ok] at listed
    rcases cases_of_collect uncollected with ⟨o, member, unmade⟩ | twice
    · exact .inr (.inl ⟨os, o, member, listed, unmade⟩)
    · exact .inr (.inr twice)

/-- A tool among those for a schema was kept for an operation, and goes by its own name. -/
theorem exists_kept_of_compute {tools : Keyed Tool} (computed : (r.compute schema s).result = .ok tools)
    {name : String} {t : Tool} (found : Keyed.get? name tools = some t) :
    ∃ os o, schema.operations r.settings.allowedKinds = .ok os ∧ o ∈ os ∧
      r.fate schema o = .ok (.kept t) ∧ t.name = name := by
  obtain ⟨os, listed, fates, made, rfl, -⟩ := result_compute_eq_ok_iff.1 computed
  obtain ⟨kept, named⟩ := Keyed.mem_ofTools (Keyed.mem_of_get? found)
  obtain ⟨fate, there, is⟩ := List.mem_filterMap.1 kept
  obtain ⟨o, member, makes⟩ := Outcome.exists_of_mem_mapM made there
  cases fate with
  | kept u =>
      cases is
      exact ⟨os, o, listed, member, makes, named⟩
  | excluded => cases is
  | reserved taken => cases is

end ToolRules

end QueryTools
