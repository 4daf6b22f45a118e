import QueryTools.Proofs.Schema.Sound

/-!
# Schemas that a description can hold

What a text defines can be told and understood: names are names and stand once, types are written as types
are, and defaults as constants (`Schema.tellable_ofText`).
-/

namespace QueryTools

/-- An argument or an input field that can be told. -/
structure InputValue.Tellable (v : InputValue) : Prop where
  named : Lexer.isName v.name = true
  formed : v.type.wellFormed = true
  described : ∀ d, v.description = some d → d.isNull = false
  written : ∀ l, v.default = some l → l.Written Parser.nestingLimit

/-- Arguments or input fields that can be told: no two have the same name. -/
structure InputValue.TellableAll (vs : List InputValue) : Prop where
  distinct : (vs.map InputValue.name).Nodup
  each : ∀ v ∈ vs, v.Tellable

/-- A field that can be told. -/
structure OutputField.Tellable (f : OutputField) : Prop where
  named : Lexer.isName f.name = true
  formed : f.type.wellFormed = true
  described : ∀ d, f.description = some d → d.isNull = false
  arguments : InputValue.TellableAll f.arguments

/-- A type that can be told. -/
structure NamedType.Tellable (t : NamedType) : Prop where
  named : Lexer.isName t.name = true
  fields : ∀ fields, t.outputFields? = some fields →
    (fields.map OutputField.name).Nodup ∧ ∀ f ∈ fields, f.Tellable
  inputs : ∀ fields oneOf, t.form = .input fields oneOf → InputValue.TellableAll fields
  values : ∀ values, t.form = .enum values none → (values.map EnumValue.name).Nodup ∧
    ∀ v ∈ values, Lexer.isName v.name = true ∧ ["true", "false", "null"].contains v.name = false

/-- A directive that can be told. -/
structure DirectiveType.Tellable (d : DirectiveType) : Prop where
  named : Lexer.isName d.name = true
  arguments : InputValue.TellableAll d.arguments
  places : ∀ place ∈ d.locations, directiveLocations.contains place = true

/-- A schema whose declarations can be told. -/
structure Schema.Tellable (s : Schema) : Prop where
  types : ∀ t ∈ s.types, t.Tellable
  directives : ∀ d ∈ s.directives, d.Tellable

namespace Document

variable {doc : Document} {text : String} {s : Schema}

/-- A description that is a text is not null. -/
theorem not_isNull_of_text {description : Option String} {d : Json}
    (same : description.map Json.str = some d) : d.isNull = false := by
  obtain ⟨text, -, rfl⟩ := Option.map_eq_some_iff.1 same
  rfl

/-- A well written argument can be told of. -/
theorem tellable_inputValue {d : InputDefinition} (written : d.WellWritten) {v : InputValue}
    (made : inputValue d = .ok v) : v.Tellable := by
  obtain ⟨deprecation, -, made⟩ := Outcome.bind_eq_ok.1 made
  cases made
  exact ⟨written.named, written.formed, fun _ => not_isNull_of_text, written.written⟩

/-- Well written arguments with different names can be told of. -/
theorem tellableAll_inputValues {ds : List InputDefinition}
    (distinct : (ds.map InputDefinition.name).Nodup) (written : ∀ d ∈ ds, d.WellWritten)
    {vs : List InputValue} (made : ds.mapM inputValue = .ok vs) : InputValue.TellableAll vs := by
  have names : vs.map InputValue.name = ds.map InputDefinition.name :=
    Outcome.map_of_mapM (fun _ _ makes => (inputValue_eq_ok makes).1) made
  refine ⟨names ▸ distinct, fun v member => ?_⟩
  obtain ⟨d, own, makes⟩ := Outcome.exists_of_mem_mapM made member
  exact tellable_inputValue (written d own) makes

/-- A well written field can be told of. -/
theorem tellable_outputField {d : FieldDefinition} (written : d.WellWritten)
    (distinct : (d.arguments.map InputDefinition.name).Nodup) {f : OutputField}
    (made : outputField d = .ok f) : f.Tellable := by
  obtain ⟨arguments, taken, made⟩ := Outcome.bind_eq_ok.1 made
  obtain ⟨deprecation, -, made⟩ := Outcome.bind_eq_ok.1 made
  cases made
  exact ⟨written.named, written.formed, fun _ => not_isNull_of_text,
    tellableAll_inputValues distinct written.arguments taken⟩

/-- An enum value is made with the name that it is defined with. -/
theorem enumValue_eq_ok {d : EnumValueDefinition} {v : EnumValue} (made : enumValue d = .ok v) :
    v.name = d.name := by
  obtain ⟨deprecation, -, made⟩ := Outcome.bind_eq_ok.1 made
  cases made
  rfl

/-- A type is made of well written parts with different names. -/
theorem tellable_namedType (written : ∀ d ∈ doc, d.WellWritten) (clean : doc.violations = [])
    {d : TypeDefinition} (defined : .type d ∈ doc) {t : NamedType} (made : doc.MadeBy d t) :
    t.Tellable := by
  have own := wellWritten_of_defines written (.inl defined)
  refine ⟨made.name ▸ own.named, fun fields has => ?_, fun fields oneOf form => ?_, fun values form => ?_⟩
  · have taken := made.fields fields has
    have names : fields.map OutputField.name = (doc.allFields d).map FieldDefinition.name :=
      Outcome.map_of_mapM (fun _ _ makes => (outputField_eq_ok makes).1) taken
    refine ⟨names ▸ nodup_fields_of_clean clean defined, fun f member => ?_⟩
    obtain ⟨fd, there, makes⟩ := Outcome.exists_of_mem_mapM taken member
    obtain ⟨e, defines, given⟩ := exists_defines fieldsOf defined there
    have well := (wellWritten_of_defines written defines).fields fd given
    exact tellable_outputField well (nodup_arguments_of_clean clean defines given) makes
  · refine tellableAll_inputValues (nodup_inputs_of_clean clean defined) (fun v there => ?_)
      (made.inputs fields oneOf form)
    obtain ⟨e, defines, given⟩ := exists_defines inputsOf defined there
    exact (wellWritten_of_defines written defines).inputs v given
  · have taken := made.values values form
    have names : values.map EnumValue.name = (doc.allValues d).map EnumValueDefinition.name :=
      Outcome.map_of_mapM (fun _ _ makes => enumValue_eq_ok makes) taken
    refine ⟨names ▸ nodup_values_of_clean clean defined, fun v member => ?_⟩
    obtain ⟨vd, there, makes⟩ := Outcome.exists_of_mem_mapM taken member
    obtain ⟨e, defines, given⟩ := exists_defines valuesOf defined there
    have well := (wellWritten_of_defines written defines).values vd given
    rw [enumValue_eq_ok makes]
    exact ⟨well.named, well.free⟩

/-- A directive of a document without violations can be told of. -/
theorem tellable_directiveType (written : ∀ d ∈ doc, d.WellWritten) (clean : doc.violations = [])
    {d : DirectiveDefinition} (defined : .directive d ∈ doc) {t : DirectiveType}
    (made : doc.directiveType d = .ok t) : t.Tellable := by
  have well : d.WellWritten := written _ defined
  rw [directiveType, Outcome.mapError_eq_ok] at made
  obtain ⟨arguments, taken, made⟩ := Outcome.bind_eq_ok.1 made
  obtain ⟨deprecation, -, made⟩ := Outcome.bind_eq_ok.1 made
  cases made
  exact ⟨well.named,
    tellableAll_inputValues (nodup_arguments_of_directive clean defined) well.arguments taken, well.places⟩

/-- The directives of the schema of a document: those that it defines, and those that every schema has. -/
theorem exists_directives (made : doc.schema text = .ok s) :
    ∃ own, doc.directiveDefinitions.mapM doc.directiveType = .ok own ∧
      ∀ d ∈ s.directives, d ∈ own ∨ d ∈ Standard.directives := by
  unfold schema at made
  rw [List.partition_eq_filter_filter] at made
  obtain ⟨_, -, made⟩ := Outcome.bind_eq_ok.1 made
  obtain ⟨own, taken, made⟩ := Outcome.bind_eq_ok.1 made
  obtain ⟨types, -, made⟩ := Outcome.bind_eq_ok.1 made
  rw [Outcome.pure_eq_ok] at made
  rw [← made]
  refine ⟨own, taken, fun d member => ?_⟩
  exact (List.mem_append.1 member).imp_right fun there => (List.mem_filter.1 there).1

/-- The directives that a document defines are its definitions of directives. -/
theorem mem_directiveDefinitions {d : DirectiveDefinition} :
    d ∈ doc.directiveDefinitions ↔ .directive d ∈ doc := by
  unfold directiveDefinitions
  rw [List.mem_filterMap]
  constructor
  · rintro ⟨x, member, found⟩
    cases x with
    | directive e =>
        cases found
        exact member
    | _ => cases found
  · intro member
    exact ⟨_, member, rfl⟩

end Document

namespace Standard

/-- Whether an argument of a directive that every schema has can be told. -/
def tellable (v : InputValue) : Bool :=
  Lexer.isName v.name && v.type.wellFormed && v.description.isNone && match v.default with
    | none | some (.string _ false) => true
    | _ => false

/-- What is checked of an argument makes it tellable. -/
theorem tellable_of_check {v : InputValue} (check : tellable v = true) : v.Tellable := by
  simp only [tellable, Bool.and_eq_true, Option.isNone_iff_eq_none] at check
  obtain ⟨⟨⟨named, formed⟩, bare⟩, default⟩ := check
  refine ⟨named, formed, fun d same => ?_, fun l same => ?_⟩
  · rw [bare] at same
    cases same
  · rw [same] at default
    split at default
    · rename_i never
      cases never
    · rename_i text is
      cases is
      exact .string _ text
    · cases default

/-- The directives that every schema has pass that check. -/
theorem tellable_directives : directives.all (fun d =>
    Lexer.isName d.name && d.locations.all directiveLocations.contains && d.arguments.all tellable &&
      decide (d.arguments.map InputValue.name).Nodup) = true := by
  decide +kernel

/-- The directives that every schema has can be told of. -/
theorem tellable_of_mem_directives {d : DirectiveType} (member : d ∈ directives) : d.Tellable := by
  have all := List.all_eq_true.1 tellable_directives d member
  simp only [Bool.and_eq_true, List.all_eq_true, decide_eq_true_eq] at all
  obtain ⟨⟨⟨named, places⟩, arguments⟩, distinct⟩ := all
  exact ⟨named, ⟨distinct, fun v own => tellable_of_check (arguments v own)⟩, places⟩

end Standard

namespace Schema

/-- What a text defines can be told. -/
theorem tellable_ofText {text : String} {s : Schema} (made : Schema.ofText text = .ok s) :
    s.Tellable := by
  unfold Schema.ofText at made
  obtain ⟨doc, parsed, made⟩ := Outcome.bind_eq_ok.1 made
  rw [Outcome.mapError_eq_ok] at parsed
  have written := Document.wellWritten_of_parse parsed
  split at made
  · rename_i clean
    constructor
    · intro t member
      obtain ⟨d, declared, makes⟩ := Outcome.exists_of_mem_mapM (Document.schema_eq_ok made) member
      have defined := Document.mem_typeDefinitions.1 (List.mem_filter.1 declared).1
      exact Document.tellable_namedType written clean defined (Document.namedType_eq_ok makes)
    · intro d member
      obtain ⟨own, taken, cases_⟩ := Document.exists_directives made
      rcases cases_ d member with there | standard
      · obtain ⟨e, defines, makes⟩ := Outcome.exists_of_mem_mapM taken there
        exact Document.tellable_directiveType written clean (Document.mem_directiveDefinitions.1 defines)
          makes
      · exact Standard.tellable_of_mem_directives standard
  · exact absurd made Outcome.throw_ne_ok

end Schema

end QueryTools
