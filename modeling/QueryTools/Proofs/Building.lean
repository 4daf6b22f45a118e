import QueryTools.Proofs.Contents
import QueryTools.Proofs.Schema.Usable

/-!
# Building ends with tools

All walks that make tools follow their data, so that each of them ends, whatever the types of a schema
mention: the shapes of parameters, the forms of results and the selections of documents have budgets, and
a default is read along its constant.  What can go wrong is in the schema.

Main statements:

* `Schema.Loaded.build_finishes` -- for a usable schema tools are made under all settings;
* `Schema.exists_unbuildable` -- a text may have each of the defects that keep them from being made.
-/

namespace QueryTools

/-! ## Sets of tools -/

namespace ToolRules

variable {settings : Settings} {reserved : List String} {schema : Schema} {s : Surroundings}

/-- What keeps the tools for a loaded schema from being made: its operations cannot be listed, or there is
an obstacle to the tool of one. -/
theorem cases_of_compute_error (loaded : schema.Loaded) {f : Failure}
    (failed : ((ofSettings settings reserved).compute schema s).result = .error f) :
    (∃ fault, schema.operations settings.allowedKinds = .error fault ∧ f = .roots fault) ∨
      ∃ o : Operation, settings.synthesizer.obstacle? schema o = some f := by
  rcases cases_of_compute failed with unlisted | ⟨os, o, member, listed, unmade⟩ | ⟨name, rfl⟩
  · exact .inl unlisted
  · rcases Synthesizer.cases_of_synthesize unmade with ⟨unnamed, -⟩ | met
    · obtain ⟨-, fields, field, roots, own, same⟩ := Schema.field_of_operations listed member
      obtain ⟨root, has⟩ := Schema.hasRoot_of_mem roots own
      have named := (has.sound loaded.sound).named
      have name : field.name = "" := by
        rw [same] at unnamed
        exact unnamed
      rw [name] at named
      cases named
    · exact .inr ⟨o, met⟩
  · exact absurd failed (compute_ne_duplicate loaded.distinctRoots name)

/-- Where the tools for a loaded schema cannot be made a root or a default is to blame, or an enum whose
values cannot be told. -/
theorem blame_of_compute_error (loaded : schema.Loaded) {f : Failure}
    (failed : ((ofSettings settings reserved).compute schema s).result = .error f) :
    (∃ fault, f = .roots fault) ∨ ∃ text, f = .untoldValues text := by
  rcases cases_of_compute_error loaded failed with ⟨fault, -, rfl⟩ | ⟨o, met⟩
  · exact .inl ⟨fault, rfl⟩
  · rcases Synthesizer.cases_of_obstacle? met with ⟨_, _, _, text, -, -, rfl⟩ |
      ⟨_, _, _, kind, type, -, -, -, rfl⟩
    · exact .inr ⟨text, rfl⟩
    · exact .inl ⟨_, rfl⟩

/-- The tools for a usable schema are made under all settings. -/
theorem exists_compute (loaded : schema.Loaded) (usable : schema.Usable) :
    ∃ tools, ((ofSettings settings reserved).compute schema s).result = .ok tools := by
  cases computed : ((ofSettings settings reserved).compute schema s).result with
  | ok tools => exact ⟨tools, rfl⟩
  | error f =>
      rcases cases_of_compute_error loaded computed with ⟨fault, unlisted, -⟩ | ⟨o, met⟩
      · obtain ⟨os, listed⟩ := usable.exists_operations settings.allowedKinds
        rw [listed] at unlisted
        cases unlisted
      · rw [usable.obstacle?_eq_none] at met
        cases met

end ToolRules

namespace Schema

/-- Of a usable schema that was loaded a set of tools is built under all settings. -/
theorem Usable.exists_build {schema : Schema} (usable : schema.Usable) (loaded : schema.Loaded)
    (settings : Settings) (reserved : List String) (before : Keyed Tool) (s : Surroundings) :
    ∃ t, ((⟨.ofSettings settings reserved, before⟩ : Toolset).build schema s).result = .ok t := by
  obtain ⟨tools, computed⟩ := ToolRules.exists_compute loaded usable
  rw [Toolset.result_build, computed]
  exact ⟨_, rfl⟩

/-- **Building finishes.**  A schema that was made of an answer is usable.  The operations of a usable
schema can be listed, and a set of tools is built for it under all settings.  Where building fails for a
schema that was loaded, a root or a default is to blame, or an enum whose values cannot be told. -/
theorem Loaded.build_finishes {schema : Schema} (loaded : schema.Loaded) :
    ((∃ result, Schema.ofIntrospection result = .ok schema) → schema.Usable) ∧
    (schema.Usable → ∀ kinds, ∃ os, schema.operations kinds = .ok os) ∧
    ∀ settings reserved before s,
      let built := ((⟨.ofSettings settings reserved, before⟩ : Toolset).build schema s).result
      (schema.Usable → ∃ t, built = .ok t) ∧
      ∀ f, built = .error f → (∃ fault, f = .roots fault) ∨ ∃ text, f = .untoldValues text := by
  refine ⟨fun ⟨result, made⟩ => usable_ofIntrospection made, fun usable => usable.exists_operations, ?_⟩
  intro settings reserved before s built
  refine ⟨fun usable => usable.exists_build loaded settings reserved before s, fun f failed => ?_⟩
  simp only [built, Toolset.result_build] at failed
  exact ToolRules.blame_of_compute_error loaded (Outcome.map_eq_error.1 failed)

/-- Inputs, results and defaults that mention themselves and each other. -/
def entangled : String :=
  "type Query \x7b f(a: A = \x7bb: \x7b\x7d\x7d): R \x7d " ++
    "input A \x7b b: B = \x7b\x7d a: A \x7d input B \x7b a: A! = \x7bb: \x7b\x7d\x7d \x7d " ++
    "type R \x7b r: R! q: [Query] \x7d"

/-- Tools are made of types and defaults that go round in circles. -/
theorem build_finishes_entangled :
    ∃ schema, Schema.parse entangled = .ok schema ∧ schema.Usable ∧
      (∃ os, schema.operations [.query, .mutation] = .ok os) ∧
      ∃ t, ((⟨.ofSettings {} [], []⟩ : Toolset).build schema Server.cutOff).result = .ok t := by
  have read : (Schema.parse entangled).toOption.any (fun s =>
      s.types.all (fun t => decide (t.Usable s)) &&
        [.query, .mutation, .subscription].all fun kind =>
          ((s.root? kind).bind s.find?).all fun t => t.outputFields?.isSome) = true := by
    decide +kernel
  obtain ⟨schema, parsed, sound⟩ := (Option.any_eq_true _ _).1 read
  have parsed := Outcome.toOption_eq_some_iff.1 parsed
  rw [Bool.and_eq_true, List.all_eq_true, List.all_eq_true] at sound
  have usable : schema.Usable := by
    refine usable_of_types (fun kind t root => ?_) fun t member => of_decide_eq_true (sound.1 t member)
    have all := sound.2 kind (by cases kind <;> simp)
    rw [root, Option.all_some] at all
    exact all
  obtain ⟨-, listed, builds⟩ := Loaded.build_finishes (.inl ⟨entangled, parsed⟩)
  exact ⟨schema, parsed, usable, listed usable _, (builds _ _ _ _).1 usable⟩

/-- Texts whose operations start at a scalar or at an input object, that give a default for a value of an
object type, to an argument or to a field of an input object, and that have a reason which is no text. -/
def unbuildable : List String :=
  ["scalar Query",
    "input Query \x7b a: Int \x7d",
    "type Query \x7b f(a: Query = \x7b\x7d): Int \x7d",
    "input In \x7b p: Query = \x7b\x7d \x7d type Query \x7b f(i: In): Int \x7d",
    "enum E \x7b A @deprecated(reason: 5) \x7d type Query \x7b f(e: E): Int \x7d"]

/-- **A schema can be read whose tools cannot be made.**  Each of the texts is let in, and no set of tools is
built for it; of the first three not even the operations can be listed. -/
theorem exists_unbuildable :
    (∀ text ∈ unbuildable, ∃ schema f, Schema.parse text = .ok schema ∧
      ((⟨.ofSettings {} [], []⟩ : Toolset).build schema Server.cutOff).result = .error f) ∧
    ∀ text ∈ unbuildable.take 3, ∃ schema fault, Schema.parse text = .ok schema ∧
      schema.operations [.query, .mutation] = .error fault := by
  have unbuilt : unbuildable.all (fun text => (Schema.parse text).toOption.any fun schema =>
      !((⟨.ofSettings {} [], []⟩ : Toolset).build schema Server.cutOff).result.isOk) = true := by
    decide +kernel
  have unlisted : (unbuildable.take 3).all (fun text => (Schema.parse text).toOption.any fun schema =>
      !(schema.operations [.query, .mutation]).isOk) = true := by
    decide +kernel
  constructor
  · intro text member
    obtain ⟨schema, parsed, failed⟩ := (Option.any_eq_true _ _).1 (List.all_eq_true.1 unbuilt text member)
    cases built : ((⟨.ofSettings {} [], []⟩ : Toolset).build schema Server.cutOff).result with
    | ok t =>
        rw [built] at failed
        cases failed
    | error f => exact ⟨schema, f, Outcome.toOption_eq_some_iff.1 parsed, built⟩
  · intro text member
    obtain ⟨schema, parsed, failed⟩ := (Option.any_eq_true _ _).1 (List.all_eq_true.1 unlisted text member)
    cases listed : schema.operations [.query, .mutation] with
    | ok os =>
        rw [listed] at failed
        cases failed
    | error fault => exact ⟨schema, fault, Outcome.toOption_eq_some_iff.1 parsed, listed⟩

end Schema

end QueryTools
