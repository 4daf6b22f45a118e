import QueryTools.Proofs.Tool.Obstacles

/-!
# Schemas that tools can be made for

A schema that was made of an answer was looked through before.  One that was read from a text may still
start its operations at a type without fields, ask for values of types that have none, or have an enum
whose values cannot be told.  A usable schema has none of these defects, and nothing keeps its operations,
documents and tools from being made.

Main statements:

* `Schema.usable_ofIntrospection` -- the schema of an answer is usable;
* `Schema.Usable.exists_operations` -- the operations of a usable schema can be listed;
* `Schema.Usable.makeDocument_eq_ok`, `Schema.Usable.obstacle?_eq_none` -- their documents are made, and
  nothing keeps tools from being made.
-/

namespace QueryTools

namespace NamedType

/-- The values of a type can be told if it is an enum. -/
def Told (t : NamedType) : Prop := Shape.enumFault? t.form = none

/-- Values can be given where a type asks for them, and its own can be told. -/
structure Usable (s : Schema) (t : NamedType) : Prop where
  takes : ∀ v ∈ t.inputValues, s.TakesValues v.type
  told : t.Told

instance (t : NamedType) : Decidable t.Told := inferInstanceAs (Decidable (_ = none))

instance (s : Schema) (type : TypeRef) : Decidable (s.TakesValues type) :=
  inferInstanceAs (Decidable (∀ t ∈ s.named? type, t.isInput = true))

instance (s : Schema) (t : NamedType) : Decidable (t.Usable s) :=
  decidable_of_iff ((∀ v ∈ t.inputValues, s.TakesValues v.type) ∧ t.Told)
    ⟨fun both => ⟨both.1, both.2⟩, fun usable => ⟨usable.takes, usable.told⟩⟩

end NamedType

namespace Standard

/-- Whether the values that a type asks for are of types that every schema has, which values can be given
for, and its own can be told. -/
def usable (t : NamedType) : Bool :=
  t.inputValues.all (fun v => types.any fun u => u.name == v.type.name && u.isInput) && decide t.Told

theorem usable_types : types.all usable = true := by decide +kernel

theorem nodup_names_types : (types.map NamedType.name).Nodup := by decide +kernel

end Standard

namespace Schema

variable {s : Schema}

/-- Operations start at types with fields, values can be given wherever they are asked for, and those of
all enums can be told. -/
structure Usable (s : Schema) : Prop where
  roots : ∀ kind t, (s.root? kind).bind s.find? = some t → t.outputFields?.isSome = true
  types : ∀ name t, s.find? name = some t → t.Usable s

/-- The types that every schema has can be used in each schema. -/
theorem usable_of_standard (s : Schema) {t : NamedType} (member : t ∈ Standard.types) : t.Usable s := by
  have usable := List.all_eq_true.1 Standard.usable_types t member
  rw [Standard.usable, Bool.and_eq_true, List.all_eq_true, decide_eq_true_eq] at usable
  refine ⟨fun v asked u known => ?_, usable.2⟩
  obtain ⟨w, standard, both⟩ := List.any_eq_true.1 (usable.1 v asked)
  rw [Bool.and_eq_true, beq_iff_eq] at both
  have reserved : Standard.isStandard v.type.name = true :=
    List.any_eq_true.2 ⟨w, standard, by simpa using both.1⟩
  have here := mem_types_of_isStandard reserved known
  have alike : u.name = w.name := (name_of_find? known).trans both.1.symm
  have same : u = w := List.inj_on_of_nodup_map Standard.nodup_names_types here standard alike
  exact same ▸ both.2

/-- The types of a schema are usable where those are that are declared. -/
theorem usable_of_types (roots : ∀ kind t, (s.root? kind).bind s.find? = some t →
    t.outputFields?.isSome = true) (each : ∀ t ∈ s.types, t.Usable s) : s.Usable := by
  refine ⟨roots, fun name t found => ?_⟩
  rcases mem_of_find? found with standard | declared
  · exact s.usable_of_standard standard
  · exact each t declared

end Schema

/-! ## Schemas from answers -/

namespace Introspection

/-- The kinds that types can be of that every schema has. -/
theorem cases_of_standard {t : NamedType} (member : t ∈ Standard.types) {kind : TypeKind}
    (of : standardKind? t.name = some kind) :
    (kind = .object ∧ t.outputFields?.isSome = true) ∨ (kind ≠ .object ∧ t.isInput = true) := by
  have each : Standard.types.all (fun t => decide
      ((standardKind? t.name = some .object ∧ t.outputFields?.isSome = true) ∨
        (standardKind? t.name ≠ some .object ∧ t.isInput = true))) = true := by
    decide +kernel
  have here := of_decide_eq_true (List.all_eq_true.1 each t member)
  rw [of] at here
  simpa using here

namespace MadeOf

variable {types : List Listed} {s : Schema}

/-- Values can be given for a type that is listed as one that takes them. -/
theorem takesValues (made : MadeOf types s) {type : TypeRef} (takes : (indexOf types).Takes type) :
    s.TakesValues type := by
  obtain ⟨kind, known, input⟩ := takes
  intro t found
  rcases made.cases_of_known known found with ⟨standard, of⟩ | ⟨l, -, rfl, is⟩
  · have named : t.name = type.name := Schema.name_of_find? found
    rcases cases_of_standard standard (named ▸ of) with ⟨object, -⟩ | ⟨-, isInput⟩
    · exact absurd (.inl object) input
    · exact isInput
  · exact is.input input

/-- A schema that was made of an introspection can be used. -/
theorem usable (made : MadeOf types s) : s.Usable := by
  refine Schema.usable_of_types (fun kind t root => ?_) fun t declared => ?_
  · obtain ⟨name, is, found⟩ := Option.bind_eq_some_iff.1 root
    have known := made.roots kind name is
    rcases made.cases_of_known known found with ⟨standard, of⟩ | ⟨l, -, object, is⟩
    · have named : t.name = name := Schema.name_of_find? found
      rcases cases_of_standard standard (named ▸ of) with ⟨-, fields⟩ | ⟨other, -⟩
      · exact fields
      · exact absurd rfl other
    · exact is.object object
  · obtain ⟨l, -, is⟩ := made.source t declared
    refine ⟨fun v asked => made.takesValues ?_, ?_⟩
    · rcases NamedType.cases_of_mem_inputValues asked with ⟨fields, has, f, own, member⟩ |
        ⟨fields, oneOf, form, member⟩
      · exact ((is.fields fields has).2 f own).2.takes v member
      · exact (is.inputs fields oneOf form).2 v member
    · unfold NamedType.Told
      cases form : t.form with
      | enum values fault => exact is.told values fault form
      | _ => rfl

end MadeOf

end Introspection

namespace Schema

variable {s : Schema}

/-- Every schema that an answer to the introspection query describes is usable. -/
theorem usable_ofIntrospection {result : Json} (made : Schema.ofIntrospection result = .ok s) :
    s.Usable := by
  obtain ⟨types, madeOf⟩ := madeOf_ofIntrospection made
  exact madeOf.usable

/-! ## Usable schemas -/

namespace Usable

/-- In a schema that can be used every input takes values. -/
theorem inputsTakeValues (usable : s.Usable) : s.InputsTakeValues := by
  intro name t fields oneOf found form f member
  refine (usable.types name t found).takes f ?_
  rw [NamedType.inputValues, form]
  exact member

/-- No default of a type's own gives a value where none can be given. -/
theorem misusedDefault?_eq_none (usable : s.Usable) {name : String} {t : NamedType}
    (found : s.find? name = some t) {v : InputValue} (asked : v ∈ t.inputValues) :
    s.misusedDefault? v = none :=
  Schema.misusedDefault?_eq_none usable.inputsTakeValues ((usable.types name t found).takes v asked)

/-- The root of each kind has its fields listed. -/
theorem exists_rootFields (usable : s.Usable) (kind : OperationKind) :
    ∃ fields, s.rootFields kind = .ok fields := by
  unfold rootFields
  cases found : (s.root? kind).bind s.find? with
  | none => exact ⟨[], rfl⟩
  | some t =>
      obtain ⟨fields, has⟩ := Option.isSome_iff_exists.1 (usable.roots kind t found)
      obtain ⟨name, -, here⟩ := Option.bind_eq_some_iff.1 found
      have unmisused : fields.findSome? s.defaultFault? = none := by
        refine List.findSome?_eq_none_iff.2 fun f own => ?_
        refine List.findSome?_eq_none_iff.2 fun a member => ?_
        have asked := NamedType.mem_inputValues_of_argument has own member
        rw [usable.misusedDefault?_eq_none here asked, Option.map_none]
      refine ⟨fields, ?_⟩
      unfold NamedType.outputFields? at has
      split at has
      · rename_i form
        cases has
        simp only [form, unmisused]
      · rename_i form
        cases has
        simp only [form, unmisused]
      · cases has

/-- Such a schema has operations of all kinds that are asked for. -/
theorem exists_operations (usable : s.Usable) (kinds : List OperationKind) :
    ∃ os, s.operations kinds = .ok os := by
  obtain ⟨queries, queried⟩ := usable.exists_rootFields .query
  obtain ⟨mutations, changed⟩ := usable.exists_rootFields .mutation
  unfold operations
  rw [queried, changed]
  cases kinds.contains .query <;> cases kinds.contains .mutation <;> exact ⟨_, rfl⟩

/-- The documents of all operations are made. -/
theorem makeDocument_eq_ok (usable : s.Usable) (depth : Nat) (o : Operation) :
    o.makeDocument s depth = .ok (o.document s depth) := by
  cases made : o.makeDocument s depth with
  | ok text => rw [Operation.eq_document_of_makeDocument made]
  | error fault =>
      obtain ⟨name, t, v, kind, type, found, asked, misused, -⟩ :=
        Operation.exists_of_makeDocument_eq_error made
      rw [usable.misusedDefault?_eq_none found asked] at misused
      cases misused

/-- Nothing keeps tools from being made. -/
theorem obstacle?_eq_none (usable : s.Usable) (y : Synthesizer) (o : Operation) :
    y.obstacle? s o = none := by
  refine Option.eq_none_iff_forall_ne_some.2 fun failure met => ?_
  rcases Synthesizer.cases_of_obstacle? met with ⟨name, t, values, text, found, form, -⟩ |
    ⟨name, t, v, kind, type, found, asked, misused, -⟩
  · have told := (usable.types name t found).told
    rw [NamedType.Told, form] at told
    cases told
  · rw [usable.misusedDefault?_eq_none found asked] at misused
    cases misused

end Usable

end Schema

end QueryTools
