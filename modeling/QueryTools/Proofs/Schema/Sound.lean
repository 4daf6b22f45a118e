import QueryTools.Proofs.Language.Yield
import QueryTools.Proofs.Schema.Violation

/-!
# Sound schemas

A schema is sound where the fields of each type have different names, names are names, types of
arguments can be written, and the types of fields are known.  Every schema that a document defines is
sound (`Schema.sound_ofText`): the rules for documents see to the fields and the types, and the
reader sees to the names.
-/

namespace QueryTools

/-- A field can be selected and its arguments passed. -/
structure OutputField.Sound (s : Schema) (f : OutputField) : Prop where
  named : Lexer.isName f.name = true
  known : (s.named? f.type).isSome = true
  arguments : ∀ a ∈ f.arguments, Lexer.isName a.name = true ∧ a.type.wellFormed = true

/-- The fields of a type have different names and are sound. -/
def NamedType.Sound (s : Schema) (t : NamedType) : Prop :=
  ∀ fields, t.outputFields? = some fields →
    (fields.map OutputField.name).Nodup ∧ ∀ f ∈ fields, f.Sound s

/-- The types of a schema are sound. -/
def Schema.Sound (s : Schema) : Prop := ∀ name t, s.find? name = some t → t.Sound s

/-! ## Types that every schema has -/

namespace Standard

/-- Whether the fields of a type have different names, and the types that they mention are such as
every schema has. -/
def closed (t : NamedType) : Bool :=
  t.outputFields?.all fun fields =>
    decide (fields.map OutputField.name).Nodup && fields.all fun f =>
      Lexer.isName f.name && isStandard f.type.name && f.arguments.all fun a =>
        Lexer.isName a.name && a.type.wellFormed

/-- The types that every schema has refer to each other only. -/
theorem closed_types : types.all closed = true := by decide +kernel

theorem isOutput_types : types.all NamedType.isOutput = true := by decide +kernel

/-- The fields of a type that every schema has are of such types too. -/
theorem isStandard_of_field {t : NamedType} (member : t ∈ types) {fields : List OutputField}
    (has : t.outputFields? = some fields) {f : OutputField} (there : f ∈ fields) :
    isStandard f.type.name = true := by
  have closed := List.all_eq_true.1 closed_types t member
  rw [Standard.closed, has, Option.all_some, Bool.and_eq_true] at closed
  have each := List.all_eq_true.1 closed.2 f there
  simp only [Bool.and_eq_true] at each
  exact each.1.2

end Standard

namespace Schema

/-- A schema has each type that every schema has. -/
theorem find?_of_isStandard (s : Schema) {name : String} (standard : Standard.isStandard name = true) :
    (s.find? name).isSome = true := by
  have found : (Standard.types.find? fun t => t.name == name).isSome = true := by
    rw [List.find?_isSome]
    exact List.any_eq_true.1 standard
  unfold find?
  obtain ⟨t, here⟩ := Option.isSome_iff_exists.1 found
  rw [here]
  rfl

/-- A name of a schema's own is none of theirs. -/
theorem standard_find?_eq_none {name : String} (own : Standard.isStandard name = false) :
    (Standard.types.find? fun t => t.name == name) = none := by
  rw [Standard.isStandard, List.any_eq_false] at own
  exact List.find?_eq_none.2 own

/-- A type with a name of its own is found among those that are declared. -/
theorem find?_of_own (s : Schema) {name : String} (own : Standard.isStandard name = false) :
    s.find? name = s.types.find? fun t => t.name == name := by
  rw [find?, standard_find?_eq_none own]

/-- A type with the name of one that every schema has is that one. -/
theorem mem_types_of_isStandard {s : Schema} {name : String}
    (standard : Standard.isStandard name = true) {t : NamedType} (found : s.find? name = some t) :
    t ∈ Standard.types := by
  have here : (Standard.types.find? fun t => t.name == name).isSome = true := by
    rw [List.find?_isSome]
    exact List.any_eq_true.1 standard
  unfold find? at found
  split at found
  · rename_i u is
    cases found
    exact List.mem_of_find?_eq_some is
  · rename_i never
    rw [never] at here
    cases here

/-- A schema has each of its own types. -/
theorem find?_of_mem (s : Schema) {name : String} (member : name ∈ s.types.map NamedType.name) :
    (s.find? name).isSome = true := by
  obtain ⟨t, there, same⟩ := List.mem_map.1 member
  unfold find?
  split
  · rfl
  · rw [List.find?_isSome]
    exact ⟨t, there, by simpa using same⟩

/-- What a schema has is one of these or of its own. -/
theorem mem_of_find? {s : Schema} {name : String} {t : NamedType} (found : s.find? name = some t) :
    t ∈ Standard.types ∨ t ∈ s.types := by
  unfold find? at found
  split at found
  · rename_i u here
    cases found
    exact .inl (List.mem_of_find?_eq_some here)
  · exact .inr (List.mem_of_find?_eq_some found)

/-- A type is found under its name. -/
theorem name_of_find? {s : Schema} {name : String} {t : NamedType} (found : s.find? name = some t) :
    t.name = name := by
  unfold find? at found
  split at found
  · rename_i u here
    cases found
    simpa using List.find?_some here
  · simpa using List.find?_some found

/-- The types that every schema has are sound in each. -/
theorem sound_of_standard (s : Schema) {t : NamedType} (member : t ∈ Standard.types) : t.Sound s := by
  have closed := List.all_eq_true.1 Standard.closed_types t member
  intro fields has
  rw [Standard.closed, has, Option.all_some, Bool.and_eq_true, decide_eq_true_eq] at closed
  refine ⟨closed.1, fun f there => ?_⟩
  have each := List.all_eq_true.1 closed.2 f there
  simp only [Bool.and_eq_true, List.all_eq_true] at each
  exact ⟨each.1.1, s.find?_of_isStandard each.1.2, each.2⟩

/-- A schema is sound where the types are that are declared. -/
theorem sound_of_types {s : Schema} (each : ∀ t ∈ s.types, t.Sound s) : s.Sound := by
  intro name t found
  rcases mem_of_find? found with standard | declared
  · exact s.sound_of_standard standard
  · exact each t declared

end Schema

/-! ## Schemas from documents -/

namespace Document

/-- An argument is made with the name and the type that it is defined with. -/
theorem inputValue_eq_ok {d : InputDefinition} {v : InputValue} (made : inputValue d = .ok v) :
    v.name = d.name ∧ v.type = d.type := by
  obtain ⟨deprecation, -, made⟩ := Outcome.bind_eq_ok.1 made
  rw [Outcome.pure_eq_ok] at made
  rw [← made]
  exact ⟨rfl, rfl⟩

/-- A field is made with the name and the type that it is defined with, and its arguments with theirs. -/
theorem outputField_eq_ok {d : FieldDefinition} {f : OutputField} (made : outputField d = .ok f) :
    f.name = d.name ∧ f.type = d.type ∧
      ∀ a ∈ f.arguments, ∃ b ∈ d.arguments, a.name = b.name ∧ a.type = b.type := by
  obtain ⟨arguments, taken, made⟩ := Outcome.bind_eq_ok.1 made
  obtain ⟨deprecation, -, made⟩ := Outcome.bind_eq_ok.1 made
  rw [Outcome.pure_eq_ok] at made
  rw [← made]
  refine ⟨rfl, rfl, fun a member => ?_⟩
  obtain ⟨b, there, makes⟩ := Outcome.exists_of_mem_mapM taken member
  exact ⟨b, there, inputValue_eq_ok makes⟩

/-- The fields that a definition and its extensions give. -/
def allFields (doc : Document) (d : TypeDefinition) : List FieldDefinition :=
  ((d :: doc.extensionsOf d).map TypeDefinition.body).flatMap fieldsOf

/-- The fields that a definition and its extensions give an input object. -/
def allInputs (doc : Document) (d : TypeDefinition) : List InputDefinition :=
  ((d :: doc.extensionsOf d).map TypeDefinition.body).flatMap inputsOf

/-- The values that a definition and its extensions give an enum. -/
def allValues (doc : Document) (d : TypeDefinition) : List EnumValueDefinition :=
  ((d :: doc.extensionsOf d).map TypeDefinition.body).flatMap valuesOf

/-- What the parts of a type that a definition makes are. -/
structure MadeBy (doc : Document) (d : TypeDefinition) (t : NamedType) : Prop where
  name : t.name = d.name
  fields : ∀ fields, t.outputFields? = some fields →
    (doc.allFields d).mapM outputField = .ok fields
  inputs : ∀ fields oneOf, t.form = .input fields oneOf →
    (doc.allInputs d).mapM inputValue = .ok fields
  values : ∀ values, t.form = .enum values none → (doc.allValues d).mapM enumValue = .ok values

/-- A type that has no parts is made by its definition if it has its name. -/
theorem madeBy_of_partless {doc : Document} {d : TypeDefinition} {t : NamedType}
    (named : t.name = d.name) (fieldless : t.outputFields? = none)
    (other : ∀ fields oneOf, t.form ≠ .input fields oneOf)
    (others : ∀ values, t.form ≠ .enum values none) : doc.MadeBy d t := by
  refine ⟨named, fun fields has => ?_, fun fields oneOf is => absurd is (other fields oneOf),
    fun values is => absurd is (others values)⟩
  rw [fieldless] at has
  cases has

/-- A type that is made is made by its definition and the extensions of it. -/
theorem namedType_eq_ok {doc : Document} {text : String} {d : TypeDefinition} {t : NamedType}
    (made : doc.namedType text d = .ok t) : doc.MadeBy d t := by
  unfold namedType at made
  cases body : d.body with
  | object interfaces own =>
      simp only [body] at made
      obtain ⟨fields, taken, made⟩ := Outcome.bind_eq_ok.1 made
      rw [pure_bind, Outcome.pure_eq_ok] at made
      rw [← made]
      refine ⟨rfl, fun _ has => ?_, (fun _ _ is => nomatch is), fun _ is => nomatch is⟩
      cases has
      exact Outcome.mapError_eq_ok.1 taken
  | interface interfaces own =>
      simp only [body] at made
      obtain ⟨fields, taken, made⟩ := Outcome.bind_eq_ok.1 made
      rw [pure_bind, Outcome.pure_eq_ok] at made
      rw [← made]
      refine ⟨rfl, fun _ has => ?_, (fun _ _ is => nomatch is), fun _ is => nomatch is⟩
      cases has
      exact Outcome.mapError_eq_ok.1 taken
  | input own =>
      simp only [body] at made
      obtain ⟨inputs, taken, made⟩ := Outcome.bind_eq_ok.1 made
      rw [pure_bind, Outcome.pure_eq_ok] at made
      rw [← made]
      refine ⟨rfl, (fun _ has => nomatch has), fun _ _ is => ?_, fun _ is => nomatch is⟩
      cases is
      exact Outcome.mapError_eq_ok.1 taken
  | scalar =>
      simp only [body] at made
      obtain ⟨specified, -, made⟩ := Outcome.bind_eq_ok.1 made
      rw [pure_bind, Outcome.pure_eq_ok] at made
      rw [← made]
      exact madeBy_of_partless rfl rfl (fun _ _ is => nomatch is) fun _ is => nomatch is
  | union members =>
      simp only [body] at made
      rw [pure_bind, Outcome.pure_eq_ok] at made
      rw [← made]
      exact madeBy_of_partless rfl rfl (fun _ _ is => nomatch is) fun _ is => nomatch is
  | enum values =>
      simp only [body] at made
      rw [pure_bind, Outcome.pure_eq_ok] at made
      rw [← made]
      unfold enumForm
      split
      · rename_i made taken
        refine ⟨rfl, (fun _ has => nomatch has), (fun _ _ is => nomatch is), fun _ is => ?_⟩
        cases is
        exact taken
      · refine madeBy_of_partless rfl rfl (fun _ _ is => nomatch is) fun _ is => ?_
        cases is

/-- The types that a document defines are its definitions of types. -/
theorem mem_typeDefinitions {doc : Document} {d : TypeDefinition} :
    d ∈ doc.typeDefinitions ↔ .type d ∈ doc := by
  unfold typeDefinitions
  rw [List.mem_filterMap]
  constructor
  · rintro ⟨x, member, found⟩
    cases x with
    | type e =>
        cases found
        exact member
    | _ => cases found
  · intro member
    exact ⟨_, member, rfl⟩

/-- The parts of a definition and its extensions stand in the document. -/
theorem exists_defines {α : Type} (parts : TypeBody → List α) {doc : Document} {d : TypeDefinition}
    (defined : .type d ∈ doc) {x : α}
    (member : x ∈ ((d :: doc.extensionsOf d).map TypeDefinition.body).flatMap parts) :
    ∃ e, doc.Defines e ∧ x ∈ parts e.body := by
  rw [List.flatMap_map, List.mem_flatMap] at member
  obtain ⟨e, there, own⟩ := member
  refine ⟨e, ?_, own⟩
  rcases List.mem_cons.1 there with rfl | extending
  · exact .inl defined
  · obtain ⟨x, stands, found⟩ := List.mem_filterMap.1 extending
    cases x with
    | typeExtension y =>
        simp only [Option.ite_none_right_eq_some, Option.some.injEq] at found
        rw [← found.2]
        exact .inr stands
    | _ => cases found

/-- What a well written document defines is well written. -/
theorem wellWritten_of_defines {doc : Document} (written : ∀ d ∈ doc, d.WellWritten)
    {d : TypeDefinition} (defines : doc.Defines d) : d.WellWritten := by
  rcases defines with stands | stands
  · exact written _ stands
  · exact written _ stands

/-- The types of the schema of a document, each made of its definition. -/
theorem schema_eq_ok {doc : Document} {text : String} {s : Schema} (made : doc.schema text = .ok s) :
    (doc.typeDefinitions.filter fun d => !Standard.isStandard d.name).mapM (doc.namedType text) =
      .ok s.types := by
  unfold schema at made
  rw [List.partition_eq_filter_filter] at made
  obtain ⟨_, -, made⟩ := Outcome.bind_eq_ok.1 made
  obtain ⟨directives, -, made⟩ := Outcome.bind_eq_ok.1 made
  obtain ⟨types, taken, made⟩ := Outcome.bind_eq_ok.1 made
  rw [Outcome.pure_eq_ok] at made
  rw [← made]
  exact taken

/-- Every type that a document without violations mentions is known to its schema. -/
theorem find?_of_mentioned {doc : Document} {text : String} {s : Schema}
    (clean : doc.violations = []) (made : doc.schema text = .ok s) {name : String}
    (mentioned : .typeName true name ∈ doc.visits) : (s.find? name).isSome = true := by
  cases standard : Standard.isStandard name with
  | true => exact s.find?_of_isStandard standard
  | false =>
      refine s.find?_of_mem ?_
      rcases known_of_clean clean mentioned with defined | known
      · obtain ⟨d, there, rfl⟩ := List.mem_map.1 defined
        have declared : d ∈ doc.typeDefinitions.filter fun d => !Standard.isStandard d.name :=
          List.mem_filter.2 ⟨there, by simp [standard]⟩
        obtain ⟨t, member, makes⟩ := Outcome.exists_mem_of_mapM (schema_eq_ok made) declared
        exact List.mem_map.2 ⟨t, member, (namedType_eq_ok makes).name⟩
      · rw [standard] at known
        cases known

/-- A schema that is made of a document without violations is sound. -/
theorem sound_of_schema {doc : Document} {text : String} {s : Schema}
    (written : ∀ d ∈ doc, d.WellWritten) (clean : doc.violations = [])
    (made : doc.schema text = .ok s) : s.Sound := by
  refine Schema.sound_of_types fun t member fields has => ?_
  obtain ⟨d, declared, makes⟩ := Outcome.exists_of_mem_mapM (schema_eq_ok made) member
  have defined : .type d ∈ doc := mem_typeDefinitions.1 (List.mem_filter.1 declared).1
  have taken := (namedType_eq_ok makes).fields fields has
  have names : fields.map OutputField.name = (doc.allFields d).map FieldDefinition.name :=
    Outcome.map_of_mapM (fun _ _ makes => (outputField_eq_ok makes).1) taken
  refine ⟨by rw [names]; exact nodup_fields_of_clean clean defined, fun f there => ?_⟩
  obtain ⟨fd, own, makes⟩ := Outcome.exists_of_mem_mapM taken there
  obtain ⟨named, typed, passed⟩ := outputField_eq_ok makes
  obtain ⟨e, defines, given⟩ := exists_defines fieldsOf defined own
  have well : fd.WellWritten := (wellWritten_of_defines written defines).fields fd given
  constructor
  · rw [named]
    exact well.named
  · rw [Schema.named?, typed]
    exact find?_of_mentioned clean made (typeName_mem_visits defines given)
  · intro a member
    obtain ⟨b, of, sameName, sameType⟩ := passed a member
    rw [sameName, sameType]
    exact ⟨(well.arguments b of).named, (well.arguments b of).formed⟩

end Document

/-- Every schema that a text defines is sound. -/
theorem Schema.sound_ofText {text : String} {s : Schema} (made : Schema.ofText text = .ok s) :
    s.Sound := by
  unfold Schema.ofText at made
  obtain ⟨doc, parsed, made⟩ := Outcome.bind_eq_ok.1 made
  rw [Outcome.mapError_eq_ok] at parsed
  split at made
  · rename_i clean
    exact Document.sound_of_schema (Document.wellWritten_of_parse parsed) clean made
  · exact absurd made Outcome.throw_ne_ok

end QueryTools
