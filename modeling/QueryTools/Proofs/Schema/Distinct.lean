import QueryTools.Proofs.Schema.Introspection

/-!
# Inputs that stand together have different names

The inputs of a type are the arguments of its fields, or its own fields if it is an input object.  The
arguments of a field have different names, and so have the fields of an input object: the rules for
documents ask it (`Schema.distinct_ofText`), and of a server's entries with one name the last alone
counts (`Schema.distinct_ofIntrospection`).
-/

namespace QueryTools

namespace NamedType

/-- The declarations of the values that go into a type: those of the arguments of its fields, or of the
fields of an input object. -/
def inputValues (t : NamedType) : List InputValue :=
  match t.form with
  | .object _ fields | .interface _ fields => fields.flatMap OutputField.arguments
  | .input fields _ => fields
  | _ => []

/-- The values that a type asks for are arguments of its fields, or fields of its own. -/
theorem cases_of_mem_inputValues {t : NamedType} {v : InputValue} (asked : v ∈ t.inputValues) :
    (∃ fields, t.outputFields? = some fields ∧ ∃ f ∈ fields, v ∈ f.arguments) ∨
      ∃ fields oneOf, t.form = .input fields oneOf ∧ v ∈ fields := by
  unfold inputValues at asked
  unfold outputFields?
  split at asked
  · rename_i interfaces fields form
    rw [form]
    exact .inl ⟨fields, rfl, List.mem_flatMap.1 asked⟩
  · rename_i interfaces fields form
    rw [form]
    exact .inl ⟨fields, rfl, List.mem_flatMap.1 asked⟩
  · rename_i fields oneOf form
    exact .inr ⟨fields, oneOf, form, asked⟩
  · cases asked

/-- An argument of a field is one of the inputs of its type. -/
theorem mem_inputValues_of_argument {t : NamedType} {fields : List OutputField}
    (has : t.outputFields? = some fields) {f : OutputField} (own : f ∈ fields) {a : InputValue}
    (member : a ∈ f.arguments) : a ∈ t.inputValues := by
  unfold outputFields? at has
  unfold inputValues
  split at has
  · rename_i form
    cases has
    rw [form]
    exact List.mem_flatMap.2 ⟨f, own, member⟩
  · rename_i form
    cases has
    rw [form]
    exact List.mem_flatMap.2 ⟨f, own, member⟩
  · cases has

end NamedType

/-- The arguments of each field of a type have different names, and its own fields if it is an input
object. -/
structure NamedType.Distinct (t : NamedType) : Prop where
  arguments : ∀ fields, t.outputFields? = some fields →
    ∀ f ∈ fields, (f.arguments.map InputValue.name).Nodup
  inputs : ∀ fields oneOf, t.form = .input fields oneOf → (fields.map InputValue.name).Nodup

/-- The inputs of each type of a schema have different names. -/
def Schema.Distinct (s : Schema) : Prop := ∀ name t, s.find? name = some t → t.Distinct

namespace Standard

/-- The fields of types that every schema has have arguments with different names. -/
theorem nodup_arguments_types :
    types.all (fun t => t.outputFields?.all fun fields => fields.all fun f =>
      decide (f.arguments.map InputValue.name).Nodup) = true := by
  decide +kernel

/-- These types are distinct. -/
theorem distinct_of_mem {t : NamedType} (member : t ∈ types) : t.Distinct := by
  constructor
  · intro fields has f there
    have all := List.all_eq_true.1 nodup_arguments_types t member
    rw [has, Option.all_some] at all
    exact of_decide_eq_true (List.all_eq_true.1 all f there)
  · intro fields oneOf form
    have output := List.all_eq_true.1 isOutput_types t member
    rw [NamedType.isOutput, form] at output
    cases output

end Standard

namespace Schema

/-- The inputs of a schema have different names where those of the declared types have. -/
theorem distinct_of_types {s : Schema} (each : ∀ t ∈ s.types, t.Distinct) : s.Distinct := by
  intro name t found
  rcases mem_of_find? found with standard | declared
  · exact Standard.distinct_of_mem standard
  · exact each t declared

end Schema

namespace Document

/-- A schema made of a document without violations is distinct. -/
theorem distinct_of_schema {doc : Document} {text : String} {s : Schema} (clean : doc.violations = [])
    (made : doc.schema text = .ok s) : s.Distinct := by
  refine Schema.distinct_of_types fun t member => ?_
  obtain ⟨d, declared, makes⟩ := Outcome.exists_of_mem_mapM (schema_eq_ok made) member
  have defined : .type d ∈ doc := mem_typeDefinitions.1 (List.mem_filter.1 declared).1
  have parts := namedType_eq_ok makes
  constructor
  · intro fields has f there
    obtain ⟨fd, own, makes⟩ := Outcome.exists_of_mem_mapM (parts.fields fields has) there
    obtain ⟨arguments, taken, makes⟩ := Outcome.bind_eq_ok.1 makes
    obtain ⟨deprecation, -, makes⟩ := Outcome.bind_eq_ok.1 makes
    cases makes
    obtain ⟨e, defines, given⟩ := exists_defines fieldsOf defined own
    have names : arguments.map InputValue.name = fd.arguments.map InputDefinition.name :=
      Outcome.map_of_mapM (fun _ _ makes => (inputValue_eq_ok makes).1) taken
    show (arguments.map InputValue.name).Nodup
    rw [names]
    exact nodup_arguments_of_clean clean defines given
  · intro fields oneOf form
    have names : fields.map InputValue.name = (doc.allInputs d).map InputDefinition.name :=
      Outcome.map_of_mapM (fun _ _ makes => (inputValue_eq_ok makes).1) (parts.inputs fields oneOf form)
    rw [names]
    exact nodup_inputs_of_clean clean defined

end Document

namespace Schema

/-- A schema that was read of a text is distinct. -/
theorem distinct_ofText {text : String} {s : Schema} (made : Schema.ofText text = .ok s) :
    s.Distinct := by
  unfold Schema.ofText at made
  obtain ⟨doc, parsed, made⟩ := Outcome.bind_eq_ok.1 made
  split at made
  · rename_i clean
    exact Document.distinct_of_schema clean made
  · exact absurd made Outcome.throw_ne_ok

/-- A schema that was introspected is distinct. -/
theorem distinct_ofIntrospection {result : Json} {s : Schema}
    (made : Schema.ofIntrospection result = .ok s) : s.Distinct := by
  obtain ⟨types, madeOf⟩ := madeOf_ofIntrospection made
  refine distinct_of_types fun t member => ?_
  obtain ⟨l, -, is⟩ := madeOf.source t member
  constructor
  · intro fields has f there
    obtain ⟨-, fits⟩ := (is.fields fields has).2 f there
    exact fits.distinct
  · exact fun fields oneOf form => (is.inputs fields oneOf form).1

end Schema

end QueryTools
