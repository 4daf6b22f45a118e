import QueryTools.Proofs.Shape.Adding
import QueryTools.Proofs.Tool.Restriction

/-!
# What has to be given

Whether an argument has to be given is decided in several places: in the JSON Schema of a tool, in the
check of a call, and in the type of the variable that the document of the tool declares.  All of them
decide alike (`Tool.demanded_alike`): an argument has to be given where null is excluded and no default
counts, and so it is with the fields of input objects as deep as these are entered.
-/

namespace QueryTools

/-- An argument or a field of an input object has to be given: null is excluded, and a default is not
declared or does not fit. -/
structure Schema.Demands (s : Schema) (v : InputValue) : Prop where
  nonNull : v.type.isNonNull = true
  undefaulted : ∀ literal, v.default = some literal → s.coerce v.type literal = none

/-- A schema demands a value just where the parameter is required. -/
theorem Schema.demands_iff {s : Schema} {v : InputValue} :
    s.Demands v ↔ (s.parameter v).isRequired = true := by
  have counts : (s.parameter v).isRequired = (v.type.isNonNull && (s.declaredDefault v).isNone) := rfl
  rw [counts, Bool.and_eq_true, Option.isNone_iff_eq_none, declaredDefault, Option.bind_eq_none_iff]
  exact ⟨fun demands => ⟨demands.nonNull, demands.undefaulted⟩, fun ⟨nonNull, undefaulted⟩ => ⟨nonNull, undefaulted⟩⟩

/-- The parameters of an operation are the arguments of the field that it is made of. -/
theorem Schema.parameters_of_eq {s : Schema} {kind : OperationKind} {f : OutputField} {o : Operation}
    (same : o = s.operation kind f) : o.parameters = f.arguments.map s.parameter := by
  rw [same]
  rfl

/-- Where the arguments of the operation stand in what a call brings. -/
def Convention.home : Convention → List Step
  | .query => [.field "variables"]
  | .arguments => []

namespace Tool

/-- The JSON Schema of a tool lists a name among those that an object at a position has to have. -/
def Lists (t : Tool) (p : List Step) (name : String) : Prop :=
  ∃ schema names, t.inputSchema.schemaAt? p = some schema ∧
    schema.get? "required" = some (.arr names) ∧ .str name ∈ names

/-- A call that a tool takes is refused without the member of a name in an object at a position. -/
def Needs (t : Tool) (p : List Step) (name : String) : Prop :=
  ∀ x v w given, Json.Adds name x p v w → t.validate w = .ok given →
    ∃ issues, t.validate v = .error (.badArguments t.name issues)

variable {t : Tool}

/-- A call with an object is taken where the tool's shape admits the object. -/
theorem exists_validate_iff_admits {members : Keyed Json} :
    (∃ given, t.validate (.obj members) = .ok given) ↔ t.shape.admits (.obj members) = true := by
  rw [exists_validate_obj, Shape.exists_checkAt_iff_admits]

/-- Only to an object can something be added where a tool has an object. -/
theorem exists_obj_of_adds {p : List Step} {inner : Shape} (stands : t.shape.at? p = some inner)
    {name : String} {x v w : Json} (adds : Json.Adds name x p v w) :
    ∃ ms ns, v = .obj ms ∧ w = .obj ns := by
  cases adds with
  | here first last => exact ⟨_, _, rfl, rfl⟩
  | field after first deeper => exact ⟨_, _, rfl, rfl⟩
  | item before after deeper => cases stands

variable {p : List Step} {fields : List (Member Shape)} {note : Note} {f : Member Shape}

/-- The names that the schema of an object lists are those of the fields that are required. -/
theorem lists_iff (distinct : t.shape.Distinct) (stands : t.shape.at? p = some (.object fields note))
    (member : f ∈ fields) : t.Lists p f.name ↔ f.required = true := by
  have different : (fields.map Member.name).Nodup := (Shape.distinct_of_at? distinct stands).1
  have named : f.name ∈ Shape.requiredNames fields ↔ f.required = true := by
    rw [Shape.mem_requiredNames]
    constructor
    · rintro ⟨g, there, required, same⟩
      rwa [← List.inj_on_of_nodup_map different there member same]
    · exact fun required => ⟨f, member, required, rfl⟩
  have told : t.inputSchema.schemaAt? p = some (Shape.object fields note).schema := by
    rw [inputSchema, Shape.schemaAt?_schema distinct, stands, Option.map_some]
  have keyword : (Shape.object fields note).schema.get? "required" =
      Keyed.get? "required" (Shape.requiredMember fields) := by
    rw [Shape.get?_schema (by decide) (by decide)]
    rfl
  rw [← named]
  unfold Lists
  rw [told]
  simp only [Option.some.injEq, exists_eq_left', exists_and_left, keyword, Shape.requiredMember]
  cases Shape.requiredNames fields with
  | nil => simp
  | cons name rest => simp [Keyed.get?, Json.ofStrings]

/-- What the check of an object needs is what is required. -/
theorem needs_iff (distinct : t.shape.Distinct) (stands : t.shape.at? p = some (.object fields note))
    (member : f ∈ fields) : t.Needs p f.name ↔ f.required = true := by
  constructor
  · intro needs
    obtain ⟨x, v, w, adds, admitted⟩ := Shape.exists_adds distinct stands member
    obtain ⟨ms, ns, rfl, rfl⟩ := exists_obj_of_adds stands adds
    obtain ⟨given, taken⟩ := exists_validate_iff_admits.2 admitted
    obtain ⟨rest, without, added⟩ := Shape.admits_of_adds distinct stands member adds
    obtain ⟨others, -⟩ := Bool.and_eq_true_iff.1 (added.symm.trans admitted)
    by_contra optional
    have kept : t.shape.admits (.obj ms) = true := by
      rw [without, others, Bool.eq_false_iff.2 optional]
      rfl
    obtain ⟨given', accepted⟩ := exists_validate_iff_admits.2 kept
    obtain ⟨issues, refused⟩ := needs x _ _ given adds taken
    rw [accepted] at refused
    cases refused
  · intro required x v w given adds taken
    obtain ⟨ms, ns, rfl, rfl⟩ := exists_obj_of_adds stands adds
    obtain ⟨rest, without, -⟩ := Shape.admits_of_adds distinct stands member adds
    rw [required, Bool.not_true, Bool.and_false] at without
    cases outcome : t.validate (.obj ms) with
    | ok accepted =>
        have admitted := exists_validate_iff_admits.1 ⟨accepted, outcome⟩
        rw [without] at admitted
        cases admitted
    | error failure =>
        obtain ⟨issues, rfl⟩ := validate_obj_eq_error outcome
        exact ⟨issues, rfl⟩

/-! ## The objects of a tool -/

/-- Where the arguments of the operation stand there is an object of the fields of the parameters. -/
theorem at?_home {y : Synthesizer} {s : Schema} {o : Operation} (fields : t.fields = y.fields s o) :
    t.shape.at? y.convention.home =
      some (.object (Shape.fieldsOf s Shape.defaultDepth o.parameters) {}) := by
  unfold shape Convention.home
  rw [fields, Synthesizer.fields]
  cases y.convention <;> rfl

/-- Below an argument stand the objects of the input objects that its type leads to, made with what is left
of the budget. -/
theorem exists_object_of_inputFields? {y : Synthesizer} {s : Schema} {o : Operation}
    (fields : t.fields = y.fields s o) (names : (o.parameters.map Parameter.name).Nodup)
    {a : Parameter} (member : a ∈ o.parameters) {q : List Step} {u : TypeRef}
    (typed : s.typeAt? a.type q = some u) (spare : Step.entered q < Shape.defaultDepth)
    {inner : List InputValue} (is : s.inputFields? u = some inner) :
    ∃ budget note, Shape.defaultDepth - Step.entered q = budget + 1 ∧
      t.shape.at? (y.convention.home ++ .field a.name :: q) =
        some (.object (Shape.fieldsOf s budget (inner.map s.parameter)) note) := by
  have different : ((Shape.fieldsOf s Shape.defaultDepth o.parameters).map Member.name).Nodup := by
    rw [Shape.fieldsOf, List.map_map]
    exact names
  have own : Shape.fieldOf s Shape.defaultDepth a ∈ Shape.fieldsOf s Shape.defaultDepth o.parameters :=
    List.mem_map_of_mem member
  obtain ⟨note, there⟩ := Shape.at?_ofType (Step.affordable_of_entered_lt spare) typed
  obtain ⟨note, there⟩ := Shape.at?_withNote there (Shape.noteOf a.description a.default)
  obtain ⟨left, more⟩ := Nat.exists_eq_add_one_of_ne_zero (Nat.sub_ne_zero_of_lt spare)
  rw [Shape.withNote_withNote, more, Shape.ofType_of_inputFields? is] at there
  refine ⟨left, note, more, ?_⟩
  have found : Shape.field? a.name (Shape.fieldsOf s Shape.defaultDepth o.parameters) =
      some (Shape.fieldOf s Shape.defaultDepth a) := Shape.field?_of_mem different own
  rw [Shape.at?_append, at?_home fields, Option.bind_some, Shape.at?, found, Option.bind_some]
  exact there

end Tool

namespace Synthesizer

variable (y : Synthesizer) (s : Schema) (o : Operation)

/-- A call with the text of a query has to have it. -/
theorem exists_query_field (queried : y.convention = .query) :
    ∃ f ∈ y.fields s o, f.name = "query" ∧ f.required = true := by
  unfold fields
  rw [queried]
  exact ⟨_, List.mem_cons_self, rfl, rfl⟩

/-- A call with the text of a query has to have variables where some parameter has to be given. -/
theorem exists_variables_field (queried : y.convention = .query) :
    ∃ f ∈ y.fields s o, f.name = "variables" ∧
      (f.required = true ↔ ∃ p ∈ o.parameters, p.isRequired = true) := by
  unfold fields
  rw [queried]
  refine ⟨_, List.mem_cons_of_mem _ List.mem_cons_self, rfl, ?_⟩
  let parameters := Shape.fieldsOf s Shape.defaultDepth o.parameters
  have nonempty : (!(Shape.requiredNames parameters).isEmpty) = true ↔
      ∃ f ∈ parameters, f.required = true := by
    simp [Shape.requiredNames]
  have each : (∃ f ∈ parameters, f.required = true) ↔ ∃ p ∈ o.parameters, p.isRequired = true := by
    simp [parameters, Shape.fieldsOf]
  exact nonempty.trans each

end Synthesizer

/-! ## Documents -/

/-- An operation declares a variable of a name with a type that excludes null. -/
def OperationDefinition.Demands (d : OperationDefinition) (name : String) : Prop :=
  ∃ v ∈ d.variableDefinitions, v.name = name ∧ v.type.isNonNull = true

namespace Operation

/-- The variable of a parameter excludes null where the parameter has to be given. -/
theorem isNonNull_variableType {p : Parameter} (formed : p.type.wellFormed = true) :
    (variableType p).isNonNull = p.isRequired := by
  unfold variableType Parameter.isRequired
  cases p.default with
  | none => simp
  | some v =>
      simp only [Option.isSome_some, if_true, Option.isNone_some, Bool.and_false]
      cases type : p.type with
      | nonNull inner =>
          rw [type, TypeRef.wellFormed, Bool.and_eq_true] at formed
          simpa [TypeRef.nullable] using formed.1
      | _ => rfl

/-- The definition that runs an operation declares variables that exclude null for the parameters that have
to be given. -/
theorem demands_definition_iff {o : Operation} (spellable : o.Spellable)
    (names : (o.parameters.map Parameter.name).Nodup) (s : Schema) (depth : Nat) {p : Parameter}
    (member : p ∈ o.parameters) : (o.definition s depth).Demands p.name ↔ p.isRequired = true := by
  have nonNull : ∀ q ∈ o.parameters, (variableType q).isNonNull = q.isRequired := fun q there =>
    isNonNull_variableType (spellable.parameters q there).2
  constructor
  · rintro ⟨v, declared, same, excludes⟩
    obtain ⟨q, there, rfl⟩ := List.mem_map.1 declared
    have is : q = p := List.inj_on_of_nodup_map names there member same
    subst is
    exact (nonNull q there).symm.trans excludes
  · intro required
    exact ⟨declaration p, List.mem_map_of_mem member, rfl, (nonNull p member).trans required⟩

end Operation

/-! ## All decide alike -/

namespace Tool

/-- **What has to be given is decided alike everywhere.**  An argument of an operation excludes null and has
no default that counts, if and only if the JSON Schema of the operation's tool lists it, if and only if the
tool refuses calls that lack it and are taken with it, if and only if the document of the tool declares its
variable with a type that excludes null.  Of a call with the text of a query the text has to be given, and
the variables just where some argument has to be.  For the fields of an input object that the type of an
argument leads to within the budget it is the same, the document apart. -/
theorem demanded_alike {y : Synthesizer} {s : Schema} {kinds : List OperationKind} {os : List Operation}
    {o : Operation} {t : Tool} (loaded : s.Loaded) (listed : s.operations kinds = .ok os)
    (member : o ∈ os) (made : y.synthesize s o = .ok t) :
    ∃ root f, s.HasRoot o.kind root f ∧ o = s.operation o.kind f ∧
      t.document = (o.definition s y.depth).line ∧
      ((o.definition s y.depth).Shallow → ∃ d, Document.parse t.document = .ok [.operation d] ∧
        d.variableDefinitions = (o.definition s y.depth).variableDefinitions) ∧
      (∀ a ∈ f.arguments, (t.Lists y.convention.home a.name ↔ s.Demands a) ∧
        (t.Needs y.convention.home a.name ↔ s.Demands a) ∧
        ((o.definition s y.depth).Demands a.name ↔ s.Demands a)) ∧
      (y.convention = .query → t.Lists [] "query" ∧ t.Needs [] "query" ∧
        (t.Lists [] "variables" ↔ ∃ a ∈ f.arguments, s.Demands a) ∧
        (t.Needs [] "variables" ↔ ∃ a ∈ f.arguments, s.Demands a)) ∧
      ∀ a ∈ f.arguments, ∀ q u fields, s.typeAt? a.type q = some u → s.inputFields? u = some fields →
        Step.entered q < Shape.defaultDepth → ∀ i ∈ fields,
          (t.Lists (y.convention.home ++ .field a.name :: q) i.name ↔ s.Demands i) ∧
          (t.Needs (y.convention.home ++ .field a.name :: q) i.name ↔ s.Demands i) := by
  have makes := Synthesizer.makes_of_synthesize made
  have names := loaded.nodup_parameters listed member
  have distinct : t.shape.Distinct := by
    rw [shape, makes.fields]
    exact y.distinct_fields loaded.distinct names {}
  obtain ⟨spellable, plain⟩ := Operation.spellable_of_mem loaded.sound listed member y.depth
  obtain ⟨root, f, has, same⟩ := Schema.hasRoot_of_operations listed member
  have parameters := Schema.parameters_of_eq same
  have passes : ∀ a ∈ f.arguments, s.parameter a ∈ o.parameters := fun a there => by
    rw [parameters]
    exact List.mem_map_of_mem there
  refine ⟨root, f, has, same, makes.document, fun shallow => ?_, fun a there => ?_, fun queried => ?_,
    fun a there q u fields typed is spare i inside => ?_⟩
  · obtain ⟨d, parsed, arguments, read, -⟩ := Operation.parse_document spellable plain shallow
    exact ⟨d, by rw [makes.document, parsed], by rw [read]; rfl⟩
  · have own : Shape.fieldOf s Shape.defaultDepth (s.parameter a) ∈
        Shape.fieldsOf s Shape.defaultDepth o.parameters := List.mem_map_of_mem (passes a there)
    have stands := at?_home makes.fields
    have required := Schema.demands_iff (s := s) (v := a)
    exact ⟨(lists_iff distinct stands own).trans required.symm,
      (needs_iff distinct stands own).trans required.symm,
      (Operation.demands_definition_iff spellable names s y.depth (passes a there)).trans required.symm⟩
  · have stands : t.shape.at? [] = some (.object (y.fields s o) {}) := by
      rw [Shape.at?, shape, makes.fields]
    obtain ⟨text, own, isText, required⟩ := y.exists_query_field s o queried
    obtain ⟨given, own', isGiven, required'⟩ := y.exists_variables_field s o queried
    have some : given.required = true ↔ ∃ a ∈ f.arguments, s.Demands a := by
      simp [required', parameters, Schema.demands_iff]
    rw [← isText, ← isGiven]
    exact ⟨(lists_iff distinct stands own).2 required, (needs_iff distinct stands own).2 required,
      (lists_iff distinct stands own').trans some, (needs_iff distinct stands own').trans some⟩
  · obtain ⟨budget, note, -, stands⟩ :=
      exists_object_of_inputFields? makes.fields names (passes a there) typed spare is
    have own : Shape.fieldOf s budget (s.parameter i) ∈
        Shape.fieldsOf s budget (fields.map s.parameter) :=
      List.mem_map_of_mem (List.mem_map_of_mem inside)
    exact ⟨(lists_iff distinct stands own).trans Schema.demands_iff.symm,
      (needs_iff distinct stands own).trans Schema.demands_iff.symm⟩

/-- A schema with defaults that fit, that are null, and that do not fit. -/
def defaultsText : String :=
  "type Query { f(a: Int! = 1, b: Int! = true, c: Int = null, i: [In!]): Int } "
    ++ "input In { p: ID! = 7 q: E! = B } enum E { A }"

/-- A default that does not fit is none, of an argument and of a field in a list; one that fits makes the
variable nullable. -/
theorem demanded_alike_defaults :
    ∃ s os o t, OfText defaultsText s os o t ∧
      t.document = "query f($a: Int, $b: Int!, $c: Int, $i: [In!]) { f(a: $a, b: $b, c: $c, i: $i) }" ∧
      t.Lists [] "b" ∧ t.Needs [] "b" ∧ ¬ t.Lists [] "a" ∧ ¬ t.Needs [] "a" ∧
      t.Lists [.field "i", .item] "q" ∧ ¬ t.Lists [.field "i", .item] "p" := by
  have run : anyOfText defaultsText (fun s o t =>
      t.document == "query f($a: Int, $b: Int!, $c: Int, $i: [In!]) { f(a: $a, b: $b, c: $c, i: $i) }" &&
      (o.parameters.any fun p => p.name == "b" && p.isRequired) &&
      (o.parameters.any fun p => p.name == "a" && !p.isRequired) &&
      (o.parameters.any fun p => p.name == "i" &&
        ((s.typeAt? p.type [.item]).bind s.inputFields?).any fun fields =>
          (fields.any fun i => i.name == "q" && (s.parameter i).isRequired) &&
          fields.any fun i => i.name == "p" && !(s.parameter i).isRequired)) = true := by decide +kernel
  obtain ⟨s, os, o, t, of, held⟩ := exists_ofText run
  obtain ⟨root, f, -, same, -, -, arguments, -, inner⟩ :=
    demanded_alike (.inl ⟨defaultsText, of.parsed⟩) of.listed of.member of.made
  have parameters := Schema.parameters_of_eq same
  simp only [parameters, List.any_map, Bool.and_eq_true, List.any_eq_true, Function.comp_apply,
    beq_iff_eq, Option.any_eq_true, Option.bind_eq_some_iff, Bool.not_eq_true'] at held
  obtain ⟨⟨⟨written, b, isArgument, isB, required⟩, a, isArgument', isA, optional⟩, i, isArgument'', isI,
    fields, ⟨u, typed, has⟩, ⟨q, isField, isQ, required'⟩, p, isField', isP, optional'⟩ := held
  have spare : Step.entered [.item] < Shape.defaultDepth := by decide
  obtain ⟨lists, needs, -⟩ := arguments b isArgument
  obtain ⟨lists', needs', -⟩ := arguments a isArgument'
  have within := inner i isArgument'' [.item] u fields typed has spare
  obtain ⟨listsWithin, -⟩ := within q isField
  obtain ⟨listsWithin', -⟩ := within p isField'
  have undemanded : ∀ v : InputValue, (s.parameter v).isRequired = false → ¬ s.Demands v :=
    fun v optional demands => by simp [Schema.demands_iff.1 demands] at optional
  rw [show b.name = "b" from isB] at lists needs
  rw [show a.name = "a" from isA] at lists' needs'
  rw [show i.name = "i" from isI, show q.name = "q" from isQ] at listsWithin
  rw [show i.name = "i" from isI, show p.name = "p" from isP] at listsWithin'
  exact ⟨s, os, o, t, of, written, lists.2 (Schema.demands_iff.2 required),
    needs.2 (Schema.demands_iff.2 required), fun listed => undemanded a optional (lists'.1 listed),
    fun needed => undemanded a optional (needs'.1 needed),
    listsWithin.2 (Schema.demands_iff.2 required'),
    fun listed => undemanded p optional' (listsWithin'.1 listed)⟩

end Tool

end QueryTools
