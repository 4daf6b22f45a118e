import QueryTools.Proofs.Input.Defaults
import QueryTools.Proofs.Tool.Requiring

/-!
# Defaults that are shown can be given

The JSON Schema of a tool shows the default of an argument, and of a field of an input object, where one
counts.  What is shown may be given outright: a call that lacks the argument or the field and is taken is
taken with the default too, and the default is sent on as it is (`Tool.shown_defaults_taken`).
-/

namespace QueryTools

namespace Schema

/-- What a type leads to is built from the language's own scalars, enums and input objects if the type is,
as far as the budget goes. -/
theorem coversNamed_of_typeAt? {s : Schema} {budget : Nat} {type u : TypeRef} {q : List Step}
    (covered : s.coversNamed budget type.name = true) (typed : s.typeAt? type q = some u) :
    s.coversNamed (budget - Step.entered q) u.name = true := by
  induction q generalizing budget type with
  | nil =>
      cases typed
      exact covered
  | cons step q ih =>
      cases step with
      | item =>
          obtain ⟨item, is, inner⟩ := Option.bind_eq_some_iff.1 typed
          have same := TypeRef.name_of_item? is
          exact ih (by rwa [same]) inner
      | field name =>
          obtain ⟨f, found, inner⟩ := Option.bind_eq_some_iff.1 typed
          obtain ⟨fields, is, found⟩ := Option.bind_eq_some_iff.1 found
          obtain ⟨oneOf, form⟩ := exists_form_of_inputFields? is
          cases budget with
          | zero =>
              rw [Nat.zero_sub]
              rfl
          | succ budget =>
              simp only [coversNamed, form, List.all_eq_true] at covered
              have left : budget + 1 - Step.entered (.field name :: q) = budget - Step.entered q := by
                rw [Step.entered]
                omega
              rw [left]
              exact ih (covered f (List.mem_of_find?_eq_some found)) inner

end Schema

namespace Tool

variable {t : Tool}

/-- An object is taken where the tool's shape admits it, as its restriction. -/
theorem validate_obj_eq_ok_iff (model : ArgumentFields t.name t.fields) {members given : Keyed Json} :
    t.validate (.obj members) = .ok given ↔
      t.shape.admits (.obj members) = true ∧ t.shape.restrict (.obj members) = .obj given := by
  unfold validate
  rw [model.checkArguments_eq_ok_iff]
  have admits : t.shape.admits (.obj members) = Shape.admitsFields t.fields members := rfl
  have restricts : t.shape.restrict (.obj members) = .obj (Shape.restrictFields t.fields members) := rfl
  rw [admits, restricts, Json.obj.injEq]
  constructor
  · rintro ⟨read, is, taken, left⟩
    cases (readArguments_obj members).symm.trans is
    exact ⟨taken, left⟩
  · rintro ⟨taken, left⟩
    exact ⟨members, readArguments_obj members, taken, left⟩

/-- The default of a field of an object in a tool's shape is shown, and may be given. -/
theorem shown_default_taken (model : ArgumentFields t.name t.fields) {s : Schema} (distinct : s.Distinct)
    {q : List Step} {budget : Nat} {fields : List InputValue} {note : Note}
    (stands : t.shape.at? q = some (.object (Shape.fieldsOf s budget (fields.map s.parameter)) note))
    {i : InputValue} (member : i ∈ fields) (covered : s.coversNamed budget i.type.name = true) {d : Json}
    (declared : s.declaredDefault i = some d) (lacks : d.lacksNullItems = true) :
    (t.inputSchema.schemaAt? (q ++ [.field i.name])).bind (Json.get? "default") = some d ∧
    ∀ v w given, Json.Adds i.name d q v w → t.validate v = .ok given →
      ∃ given', t.validate w = .ok given' ∧ Json.Adds i.name d q (.obj given) (.obj given') := by
  let f := Shape.fieldOf s budget (s.parameter i)
  have own : f ∈ Shape.fieldsOf s budget (fields.map s.parameter) :=
    List.mem_map_of_mem (List.mem_map_of_mem member)
  have whole : t.shape.Distinct := model.distinct
  have different := (Shape.distinct_of_at? whole stands).1
  have optional : f.required = false := by
    show (s.parameter i).isRequired = false
    rw [Parameter.isRequired, show (s.parameter i).default = some d from declared, Option.isNone_some,
      Bool.and_false]
  obtain ⟨literal, -, fits⟩ := Option.bind_eq_some_iff.1 declared
  have kept := Shape.keeps_of_coerce distinct covered literal fits lacks
  have noted : f.shape = (Shape.ofType s budget i.type).withNote
      (Shape.noteOf i.description (s.declaredDefault i)) := rfl
  have unchanged : f.shape.restrict d = d := by
    rw [noted, Shape.restrict_withNote]
    rcases kept with ⟨rfl, -⟩ | kept
    · exact Shape.restrict_null _
    · exact kept.unchanged
  have takes : Shape.takesField f f.shape.admits (some d) = true := by
    rw [Shape.takesField, optional, Bool.or_eq_true]
    rcases kept with ⟨rfl, -⟩ | kept
    · exact .inl rfl
    · rw [noted, Shape.admits_withNote]
      exact .inr kept.admitted
  constructor
  · have there : t.shape.at? (q ++ [.field i.name]) = some f.shape := by
      rw [Shape.at?_append, stands, Option.bind_some, Shape.at?]
      have found : Shape.field? i.name (Shape.fieldsOf s budget (fields.map s.parameter)) = some f :=
        Shape.field?_of_mem different own
      rw [found]
      rfl
    rw [inputSchema, Shape.schemaAt?_schema whole, there, Option.map_some, Option.bind_some,
      Shape.get?_default_schema, noted, Shape.note_withNote]
    exact declared
  · intro v w given adds accepted
    obtain ⟨ms, ns, rfl, rfl⟩ := exists_obj_of_adds stands adds
    obtain ⟨admitted, left⟩ := (validate_obj_eq_ok_iff model).1 accepted
    obtain ⟨rest, without, added⟩ := Shape.admits_of_adds whole stands own adds
    rw [admitted] at without
    obtain ⟨others, -⟩ := Bool.and_eq_true_iff.1 without.symm
    rw [others, takes] at added
    have restricted := Shape.adds_restrict whole stands own adds
    rw [unchanged, left] at restricted
    obtain ⟨given', is⟩ : ∃ given', t.shape.restrict (.obj ns) = .obj given' := ⟨_, rfl⟩
    rw [is] at restricted
    exact ⟨given', (validate_obj_eq_ok_iff model).2 ⟨added, is⟩, restricted⟩

/-- **Defaults that are shown can be given.**  Of a tool with arguments of its own, and an argument whose
type is built from the language's own scalars, enums, lists and input objects, the JSON Schema shows the
default that counts for the argument, and for each field of an input object that the type leads to within
the budget.  If no list in the default holds null, a call that is taken without the argument or the field is
taken with the default in its place, and the default is sent on unchanged. -/
theorem shown_defaults_taken {y : Synthesizer} {s : Schema} {kinds : List OperationKind}
    {os : List Operation} {o : Operation} {t : Tool} (loaded : s.Loaded)
    (listed : s.operations kinds = .ok os) (member : o ∈ os) (convention : y.convention = .arguments)
    (made : y.synthesize s o = .ok t) :
    ∃ root f, s.HasRoot o.kind root f ∧ o = s.operation o.kind f ∧
      ∀ a ∈ f.arguments, s.coversNamed Shape.defaultDepth a.type.name = true →
        (∀ d, s.declaredDefault a = some d → d.lacksNullItems = true →
          (t.inputSchema.schemaAt? [.field a.name]).bind (Json.get? "default") = some d ∧
          ∀ v w given, Json.Adds a.name d [] v w → t.validate v = .ok given →
            ∃ given', t.validate w = .ok given' ∧ Json.Adds a.name d [] (.obj given) (.obj given')) ∧
        ∀ q u fields, s.typeAt? a.type q = some u → s.inputFields? u = some fields →
          Step.entered q < Shape.defaultDepth →
          ∀ i ∈ fields, ∀ d, s.declaredDefault i = some d → d.lacksNullItems = true →
            (t.inputSchema.schemaAt? (.field a.name :: q ++ [.field i.name])).bind (Json.get? "default") =
              some d ∧
            ∀ v w given, Json.Adds i.name d (.field a.name :: q) v w → t.validate v = .ok given →
              ∃ given', t.validate w = .ok given' ∧
                Json.Adds i.name d (.field a.name :: q) (.obj given) (.obj given') := by
  have makes := Synthesizer.makes_of_synthesize made
  have model := ArgumentFields.made loaded listed member made
  have names := loaded.nodup_parameters listed member
  have home : y.convention.home = [] := by rw [convention, Convention.home]
  obtain ⟨root, f, has, same⟩ := Schema.hasRoot_of_operations listed member
  have parameters := Schema.parameters_of_eq same
  refine ⟨root, f, has, same, fun a there covered => ⟨fun d declared lacks => ?_,
    fun q u fields typed is spare i inside d declared lacks => ?_⟩⟩
  · have stands := at?_home makes.fields
    rw [home, parameters] at stands
    exact shown_default_taken model loaded.distinct stands there covered declared lacks
  · have passes : s.parameter a ∈ o.parameters := by
      rw [parameters]
      exact List.mem_map_of_mem there
    obtain ⟨budget, note, left, stands⟩ :=
      exists_object_of_inputFields? makes.fields names passes typed spare is
    rw [home] at stands
    have below := Schema.coversNamed_of_typeAt? covered typed
    obtain ⟨oneOf, form⟩ := Schema.exists_form_of_inputFields? is
    rw [left] at below
    simp only [Schema.coversNamed, form, List.all_eq_true] at below
    exact shown_default_taken model loaded.distinct stands inside (below i inside) declared lacks

/-- A schema with defaults that are written as single values and stand for lists. -/
def listsText : String :=
  "type Query { f(ids: [ID] = 7, x: Float = 1, e: E = A, i: In = {n: [2]}): Int } "
    ++ "enum E { A B } input In { n: [[Int]] = 5 z: Float = 2 }"

/-- A number stands for a list of one identifier, and for a list of a list in an input object; either is
shown so, and taken. -/
theorem shown_defaults_taken_lists :
    ∃ s os o t d e, OfText listsText s os o t ∧ d.display = "['7']" ∧ e.display = "[[5]]" ∧
      (t.inputSchema.schemaAt? [.field "ids"]).bind (Json.get? "default") = some d ∧
      (∃ given given', t.validate (.obj [("x", .int 3)]) = .ok given ∧
        t.validate (.obj [("ids", d), ("x", .int 3)]) = .ok given' ∧
        Json.Adds "ids" d [] (.obj given) (.obj given')) ∧
      (t.inputSchema.schemaAt? [.field "i", .field "n"]).bind (Json.get? "default") = some e ∧
      ∃ given given', t.validate (.obj [("i", .obj [("z", .int 3)])]) = .ok given ∧
        t.validate (.obj [("i", .obj [("n", e), ("z", .int 3)])]) = .ok given' ∧
        Json.Adds "n" e [.field "i"] (.obj given) (.obj given') := by
  have run : anyOfText listsText (fun s o t =>
      (t.validate (.obj [("x", .int 3)])).toOption.isSome &&
      (t.validate (.obj [("i", .obj [("z", .int 3)])])).toOption.isSome &&
      (o.parameters.any fun p => p.name == "ids" && s.coversNamed Shape.defaultDepth p.type.name &&
        p.default.any fun d => d.display == "['7']" && d.lacksNullItems) &&
      (o.parameters.any fun p => p.name == "i" && s.coversNamed Shape.defaultDepth p.type.name &&
        (s.inputFields? p.type).any fun fields => fields.any fun i => i.name == "n" &&
          (s.declaredDefault i).any fun e => e.display == "[[5]]" && e.lacksNullItems)) = true := by
    decide +kernel
  obtain ⟨s, os, o, t, of, held⟩ := exists_ofText run
  obtain ⟨root, f, -, same, each⟩ := shown_defaults_taken (y := { convention := .arguments })
    (.inl ⟨listsText, of.parsed⟩) of.listed of.member rfl of.made
  have parameters := Schema.parameters_of_eq same
  simp only [parameters, List.any_map, Bool.and_eq_true, List.any_eq_true, Function.comp_apply,
    beq_iff_eq, Option.any_eq_true, Option.isSome_iff_exists, Outcome.toOption_eq_some_iff] at held
  obtain ⟨⟨⟨⟨given, accepted⟩, given', accepted'⟩, a, there, ⟨isA, covered⟩, d, declared, shown, lacks⟩,
    b, there', ⟨isB, covered'⟩, fields, has, i, inside, isI, e, declared', shown', lacks'⟩ := held
  obtain ⟨told, takes⟩ := (each a there covered).1 d declared lacks
  have spare : Step.entered [] < Shape.defaultDepth := by decide
  obtain ⟨told', takes'⟩ :=
    (each b there' covered').2 [] b.type fields rfl has spare i inside e declared' lacks'
  rw [show a.name = "ids" from isA] at told takes
  rw [show b.name = "i" from isB, isI] at told' takes'
  have outer : Json.Adds "ids" d [] (.obj [("x", .int 3)]) (.obj [("ids", d), ("x", .int 3)]) :=
    .here (by decide : "ids" ∉ Keyed.names []) (by decide : "ids" ∉ Keyed.names [("x", Json.int 3)])
  have inner : Json.Adds "n" e [.field "i"] (.obj [("i", .obj [("z", .int 3)])])
      (.obj [("i", .obj [("n", e), ("z", .int 3)])]) :=
    .field [] (by decide : "i" ∉ Keyed.names [])
      (.here (by decide : "n" ∉ Keyed.names []) (by decide : "n" ∉ Keyed.names [("z", Json.int 3)]))
  obtain ⟨larger, more⟩ := takes _ _ given outer accepted
  obtain ⟨larger', more'⟩ := takes' _ _ given' inner accepted'
  exact ⟨s, os, o, t, d, e, of, shown, shown', told, ⟨given, larger, accepted, more⟩, told',
    given', larger', accepted', more'⟩

end Tool

end QueryTools
