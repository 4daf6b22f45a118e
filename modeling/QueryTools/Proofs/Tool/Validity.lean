import QueryTools.Schema.Source
import QueryTools.Proofs.Schema.Usable
import QueryTools.Proofs.Tool.RoundTrip
import QueryTools.Proofs.Tool.Selecting

/-!
# Documents made for operations are valid

For every operation of a schema that was read from a text or from an answer to the introspection query,
the document that runs it is read back as one operation that is valid on the schema, unless it is
nested more deeply than the reader goes.  For a schema of an answer there always is such a document; for
one of a text there is, unless a default gives a value where none can be given.

Main statements:

* `Operation.makeDocument_valid` -- when there is a document, and what it is read as;
* `Operation.shallow_of_depth_le` -- no document is refused for its selections at a depth below 200.
-/

namespace QueryTools

/-! ## Operations of a schema -/

/-- A schema was read from a text or from an answer to the introspection query. -/
def Schema.Loaded (s : Schema) : Prop :=
  (∃ text, Schema.parse text = .ok s) ∨ ∃ result, Schema.ofIntrospection result = .ok s

/-- A type at which operations start has a field. -/
structure Schema.HasRoot (s : Schema) (kind : OperationKind) (root : NamedType) (f : OutputField) :
    Prop where
  found : (s.root? kind).bind s.find? = some root
  member : ∃ fields, root.outputFields? = some fields ∧ f ∈ fields

namespace Schema

/-- A schema that was loaded is sound. -/
theorem Loaded.sound {s : Schema} (loaded : s.Loaded) : s.Sound := by
  rcases loaded with ⟨text, made⟩ | ⟨result, made⟩
  · exact sound_ofText (Outcome.mapError_eq_ok.1 made)
  · exact sound_ofIntrospection made

/-- The fields at the roots of a sound schema are sound. -/
theorem HasRoot.sound {s : Schema} (sound : s.Sound) {kind : OperationKind} {root : NamedType}
    {f : OutputField} (has : s.HasRoot kind root f) : f.Sound s := by
  obtain ⟨name, -, found⟩ := Option.bind_eq_some_iff.1 has.found
  obtain ⟨fields, own, member⟩ := has.member
  exact (sound name root found fields own).2 f member

/-- A field that is listed at a root is one of that root. -/
theorem hasRoot_of_mem {s : Schema} {kind : OperationKind} {fields : List OutputField}
    (made : s.rootFields kind = .ok fields) {f : OutputField} (member : f ∈ fields) :
    ∃ root, s.HasRoot kind root f := by
  unfold rootFields at made
  split at made
  · cases made
    cases member
  · rename_i root found
    refine ⟨root, found, ?_⟩
    split at made
    · rename_i interfaces own form
      split at made
      · cases made
      · cases made
        exact ⟨fields, by rw [NamedType.outputFields?, form], member⟩
    · rename_i interfaces own form
      split at made
      · cases made
      · cases made
        exact ⟨fields, by rw [NamedType.outputFields?, form], member⟩
    · cases made
      cases member
    · cases made
    · cases made

/-- The fields that are listed of a kind where some kinds are asked for. -/
structure FieldsAsked (s : Schema) (kinds : List OperationKind) (kind : OperationKind)
    (fields : List OutputField) : Prop where
  asked : kind ∈ kinds → s.rootFields kind = .ok fields
  unasked : kind ∉ kinds → fields = []

/-- The operations of a schema are those of its queries and then those of its mutations. -/
theorem operations_eq_ok {s : Schema} {kinds : List OperationKind} {os : List Operation}
    (made : s.operations kinds = .ok os) :
    ∃ queries mutations, s.FieldsAsked kinds .query queries ∧
      s.FieldsAsked kinds .mutation mutations ∧
      os = queries.map (s.operation .query) ++ mutations.map (s.operation .mutation) := by
  let fieldsOf (kind : OperationKind) := if kinds.contains kind then s.rootFields kind else pure []
  have asks : ∀ {kind : OperationKind} {fields : List OutputField}, fieldsOf kind = .ok fields →
      s.FieldsAsked kinds kind fields := by
    intro kind fields taken
    by_cases offered : kinds.contains kind = true
    · simp only [fieldsOf, offered, if_true] at taken
      exact ⟨fun _ => taken, fun never => absurd (List.contains_iff_mem.1 offered) never⟩
    · simp only [fieldsOf, offered] at taken
      cases taken
      exact ⟨fun there => absurd (List.contains_iff_mem.2 there) offered, fun _ => rfl⟩
  have split : s.operations kinds = (do
      let queries ← fieldsOf .query
      let mutations ← fieldsOf .mutation
      return queries.map (s.operation .query) ++ mutations.map (s.operation .mutation)) := by
    unfold operations
    simp only [fieldsOf]
    split <;> split <;> rfl
  rw [split] at made
  obtain ⟨queries, queried, made⟩ := Outcome.bind_eq_ok.1 made
  obtain ⟨mutations, changed, made⟩ := Outcome.bind_eq_ok.1 made
  rw [Outcome.pure_eq_ok] at made
  exact ⟨queries, mutations, asks queried, asks changed, made.symm⟩

/-- An operation is of a kind that was asked for, and made of a field of the root of that kind. -/
theorem field_of_operations {s : Schema} {kinds : List OperationKind} {os : List Operation}
    (made : s.operations kinds = .ok os) {o : Operation} (member : o ∈ os) :
    o.kind ∈ kinds ∧ ∃ fields f, s.rootFields o.kind = .ok fields ∧ f ∈ fields ∧
      o = s.operation o.kind f := by
  have ofKind : ∀ {kind : OperationKind} {fields : List OutputField} {f : OutputField},
      s.FieldsAsked kinds kind fields → f ∈ fields → kind ∈ kinds := by
    intro kind fields f asks own
    by_cases offered : kind ∈ kinds
    · exact offered
    · rw [asks.unasked offered] at own
      cases own
  obtain ⟨queries, mutations, queried, changed, rfl⟩ := operations_eq_ok made
  rcases List.mem_append.1 member with there | there
  · obtain ⟨f, own, rfl⟩ := List.mem_map.1 there
    have offered := ofKind queried own
    exact ⟨offered, queries, f, queried.asked offered, own, rfl⟩
  · obtain ⟨f, own, rfl⟩ := List.mem_map.1 there
    have offered := ofKind changed own
    exact ⟨offered, mutations, f, changed.asked offered, own, rfl⟩

/-- Each operation is made of a field at a root. -/
theorem hasRoot_of_operations {s : Schema} {kinds : List OperationKind} {os : List Operation}
    (made : s.operations kinds = .ok os) {o : Operation} (member : o ∈ os) :
    ∃ root f, s.HasRoot o.kind root f ∧ o = s.operation o.kind f := by
  obtain ⟨-, fields, f, taken, there, same⟩ := field_of_operations made member
  obtain ⟨root, has⟩ := hasRoot_of_mem taken there
  exact ⟨root, f, has, same⟩

/-- An operation of a sound field can be spelled. -/
theorem spellable_operation {s : Schema} {f : OutputField} (sound : f.Sound s) (kind : OperationKind) :
    (s.operation kind f).Spellable := by
  refine ⟨sound.named, fun p member => ?_⟩
  obtain ⟨a, there, rfl⟩ := List.mem_map.1 member
  exact sound.arguments a there

end Schema

/-! ## What is selected of a result -/

/-- A type that can be put out is composite just if it is no leaf. -/
theorem NamedType.isLeaf_eq_false_iff {t : NamedType} (output : t.isOutput = true) :
    t.isLeaf = false ↔ t.isComposite = true := by
  unfold isOutput at output
  unfold isLeaf isComposite
  cases form : t.form <;> simp [form] at output ⊢

namespace Operation

/-- What is selected of fields enters no more objects than it may. -/
theorem nestingOf_selectFields_le (s : Schema) (levels : Nat) (path : List String)
    (fields : List OutputField) : Selection.nestingOf (selectFields s levels path fields) ≤ levels := by
  induction levels using Nat.strongRecOn generalizing path fields with
  | ind levels ih =>
      rw [selectFields_eq]
      split
      · exact Nat.zero_le _
      · rw [Selection.nestingOf_le_iff]
        intro x member
        obtain ⟨f, -, -, chooses⟩ := mem_chosen member
        obtain ⟨u, -, ⟨-, rfl⟩ | ⟨own, n, -, rfl, rfl⟩⟩ := choice_eq_some chooses
        · exact Nat.zero_le _
        · exact Nat.succ_le_succ (ih n (Nat.lt_succ_self n) (u.name :: path) own)

/-- What is selected of a result. -/
structure Selected (s : Schema) (u : NamedType) (depth : Nat) (entries : List Selection) : Prop where
  valid : s.SelectsAll u entries
  plain : ∀ x ∈ entries, x.Plain
  nesting : Selection.nestingOf entries ≤ depth - 1

/-- The name of its type can be selected of anything. -/
theorem selected_typeNameOnly (s : Schema) (u : NamedType) (depth : Nat) :
    Selected s u depth typeNameOnly := by
  refine ⟨selectsAll_typeNameOnly s u, fun x member => ?_, Nat.zero_le _⟩
  rw [List.mem_singleton.1 member]
  exact .leaf (by decide)

/-- Something is selected of a type just if it is no leaf. -/
theorem isSome_selectOutput {s : Schema} {type : TypeRef} {u : NamedType}
    (inner : s.named? type = some u) (depth : Nat) :
    (selectOutput s depth type).isSome = true ↔ u.isLeaf = false := by
  unfold selectOutput
  rw [inner]
  cases leaf : u.isLeaf with
  | true => simp [leaf]
  | false => cases has : u.outputFields? <;> simp [leaf, has]

/-- What is selected in a sound schema can be selected of its type. -/
theorem selected_of_selectOutput {s : Schema} (sound : s.Sound) {type : TypeRef} {u : NamedType}
    (inner : s.named? type = some u) {depth : Nat} {entries : List Selection}
    (selects : selectOutput s depth type = some entries) : Selected s u depth entries := by
  unfold selectOutput at selects
  simp only [inner] at selects
  split at selects
  · cases selects
  · split at selects
    · rename_i fields has
      cases selects
      have fit := sound _ u inner
      exact ⟨selectsAll_selectFields sound _ _ fit has, plain_selectFields sound _ _ fit has,
        nestingOf_selectFields_le s _ _ fields⟩
    · cases selects
      exact selected_typeNameOnly s u depth

end Operation

/-! ## The document of an operation -/

/-- A definition runs an operation whose result is of a type, and is valid on the schema: it has the
operation's kind and name, declares a variable for each parameter in order, and selects the one root
field, which passes each argument the variable of its name.  Whether entries are selected of a result that
is of no type for results is left open. -/
structure Schema.Validates (s : Schema) (o : Operation) (u : NamedType) (d : OperationDefinition) :
    Prop where
  kind : d.kind = o.kind
  name : d.name = some o.name
  directives : d.directives = []
  declared : d.variableDefinitions = o.parameters.map fun p =>
    { name := p.name, type := if p.default.isSome then p.type.nullable else p.type
      default := none, directives := [] }
  root : ∃ arguments selections, d.selections = [.field none o.name arguments [] selections] ∧
    (arguments.map fun a => (a.name, a.value)) =
      (o.parameters.map fun p => (p.name, Literal.variable p.name)) ∧
    (u.isOutput = true → (selections.isSome = true ↔ u.isComposite = true)) ∧
    ∀ entries, selections = some entries → s.SelectsAll u entries

namespace Operation

/-- At a depth below 200, only the types of parameters can be nested too deeply. -/
theorem shallow_of_depth_le {s : Schema} (sound : s.Sound) {kind : OperationKind} {f : OutputField}
    {root : NamedType} (has : s.HasRoot kind root f) {depth : Nat}
    (shallow : depth < Parser.nestingLimit)
    (flat : ∀ a ∈ f.arguments, a.type.levels ≤ Parser.nestingLimit) :
    ((s.operation kind f).definition s depth).Shallow := by
  obtain ⟨u, inner⟩ := Option.isSome_iff_exists.1 (has.sound sound).known
  rw [shallow_definition_iff]
  constructor
  · intro p member
    obtain ⟨a, there, rfl⟩ := List.mem_map.1 member
    exact flat a there
  · intro entries selects
    have bounded := (selected_of_selectOutput sound inner selects).nesting
    unfold Parser.nestingLimit at shallow ⊢
    omega

/-- Every operation of a sound schema can be written, and its selections are plain. -/
theorem spellable_of_mem {s : Schema} (sound : s.Sound) {kinds : List OperationKind}
    {os : List Operation} (made : s.operations kinds = .ok os) {o : Operation} (member : o ∈ os)
    (depth : Nat) :
    o.Spellable ∧ ∀ entries, o.output.bind (selectOutput s depth) = some entries →
      ∀ x ∈ entries, x.Plain := by
  obtain ⟨root, f, has, same⟩ := Schema.hasRoot_of_operations made member
  have fit := has.sound sound
  obtain ⟨u, inner⟩ := Option.isSome_iff_exists.1 fit.known
  rw [same]
  exact ⟨Schema.spellable_operation fit o.kind,
    fun entries selects => (selected_of_selectOutput sound inner selects).plain⟩

/-- What is read of a document is valid in the schema it was made for. -/
theorem validates_of_isRead {s : Schema} (sound : s.Sound) {kind : OperationKind} {f : OutputField}
    {u : NamedType} (inner : s.named? f.type = some u) {depth : Nat} {d : OperationDefinition}
    (read : (s.operation kind f).IsRead (selectOutput s depth f.type) d) :
    s.Validates (s.operation kind f) u d := by
  obtain ⟨arguments, rfl, passed⟩ := read
  refine ⟨rfl, rfl, rfl, rfl, arguments, _, rfl, passed, fun output => ?_, fun entries selects => ?_⟩
  · exact (isSome_selectOutput inner depth).trans (NamedType.isLeaf_eq_false_iff output)
  · exact (selected_of_selectOutput sound inner selects).valid

/-- The result of an operation is of a type for results where the schema was made of an answer. -/
theorem isOutput_of_hasRoot {s : Schema} {kind : OperationKind} {root : NamedType} {f : OutputField}
    (has : s.HasRoot kind root f) {u : NamedType} (inner : s.named? f.type = some u) {result : Json}
    (answered : Schema.ofIntrospection result = .ok s) : u.isOutput = true := by
  obtain ⟨name, -, found⟩ := Option.bind_eq_some_iff.1 has.found
  obtain ⟨fields, own, there⟩ := has.member
  exact Schema.isOutput_ofIntrospection answered found own there inner

/-- **Documents of operations are valid.**  The document that runs an operation of a schema is read
back as one operation that is valid on the schema, where the lists of its parameters' types and its
selection sets keep to the limit of the reader; otherwise it is refused as nested too deeply.  There is
such a document, and the result is of a type for results, wherever the schema was made of an answer; where
it was read from a text, a default that gives a value of a type without values may keep the document from
being made. -/
theorem makeDocument_valid {s : Schema} (loaded : s.Loaded) {kinds : List OperationKind}
    {os : List Operation} (made : s.operations kinds = .ok os) {o : Operation} (member : o ∈ os)
    (depth : Int) :
    ((∃ result, Schema.ofIntrospection result = .ok s) →
      ∃ text, o.makeDocument s depth.toNat = .ok text) ∧
    (∀ fault, o.makeDocument s depth.toNat = .error fault →
      ∃ name t v found, s.find? name = some t ∧ v ∈ t.inputValues ∧ s.misusedDefault? v = some found) ∧
    ∃ root f u, s.HasRoot o.kind root f ∧ o = s.operation o.kind f ∧ s.named? f.type = some u ∧
      ((∃ result, Schema.ofIntrospection result = .ok s) → u.isOutput = true) ∧
      ∀ text, o.makeDocument s depth.toNat = .ok text →
        ((o.definition s depth.toNat).Shallow → ∃ d,
          Document.parse text = .ok [.operation d] ∧ s.Validates o u d) ∧
        (¬ (o.definition s depth.toNat).Shallow → ∃ position,
          Document.parse text = .error ⟨position, .tooDeep⟩) := by
  have sound := loaded.sound
  refine ⟨?_, fun fault failed => ?_, ?_⟩
  · rintro ⟨result, answered⟩
    exact ⟨_, (Schema.usable_ofIntrospection answered).makeDocument_eq_ok depth.toNat o⟩
  · obtain ⟨name, t, v, kind, type, found, asked, misused, -⟩ := exists_of_makeDocument_eq_error failed
    exact ⟨name, t, v, (kind, type), found, asked, misused⟩
  · obtain ⟨spellable, plain⟩ := spellable_of_mem sound made member depth.toNat
    obtain ⟨root, f, has, same⟩ := Schema.hasRoot_of_operations made member
    generalize o.kind = kind at has same
    subst same
    obtain ⟨u, inner⟩ := Option.isSome_iff_exists.1 (has.sound sound).known
    refine ⟨root, f, u, has, rfl, inner, ?_, fun text written => ?_⟩
    · rintro ⟨result, answered⟩
      exact isOutput_of_hasRoot has inner answered
    · rw [eq_document_of_makeDocument written]
      constructor
      · intro shallow
        obtain ⟨d, parsed, read⟩ := parse_document spellable plain shallow
        exact ⟨d, parsed, validates_of_isRead sound inner read⟩
      · intro deep
        exact parse_document_tooDeep spellable plain deep

/-! ### The provisos at work -/

/-- Whether a schema is read whose operations can be listed, one of them with a property. -/
def anyOf {ε : Type} (read : Except ε Schema) (holds : Schema → Operation → Bool) : Bool :=
  match read with
  | .ok s =>
    match s.operations [.query, .mutation] with
    | .ok os => os.any (holds s)
    | .error _ => false
  | .error _ => false

/-- What some operation of a schema is checked to have, there is one that has it. -/
theorem exists_of_anyOf {ε : Type} {read : Except ε Schema} {holds : Schema → Operation → Bool}
    (any : anyOf read holds = true) :
    ∃ s os o, read = .ok s ∧ s.operations [.query, .mutation] = .ok os ∧ o ∈ os ∧
      holds s o = true := by
  unfold anyOf at any
  split at any
  · rename_i s
    split at any
    · rename_i os listed
      obtain ⟨o, member, held⟩ := List.any_eq_true.1 any
      exact ⟨s, os, o, rfl, listed, member, held⟩
    · cases any
  · cases any

/-- A schema with an argument that has a default, and a field that needs an argument. -/
def petsText : String :=
  "type Query { user(id: ID! = 1): User } type User { id: ID pet: Pet pets(of: Int!): [Pet] } "
    ++ "interface Pet { name: String owner: User }"

/-- The one query of the schema of pets, as it is written and read. -/
theorem makeDocument_valid_pets :
    ∃ s os o u d, Schema.parse petsText = .ok s ∧ s.operations [.query, .mutation] = .ok os ∧ o ∈ os ∧
      o.makeDocument s 3 = .ok "query user($id: ID) { user(id: $id) { id pet { name } } }" ∧
      (o.definition s 3).Shallow ∧ o.output.bind s.named? = some u ∧ u.isOutput = true ∧
      Document.parse "query user($id: ID) { user(id: $id) { id pet { name } } }" =
        .ok [.operation d] ∧ s.Validates o u d := by
  have run : anyOf (Schema.parse petsText) (fun s o =>
      (o.makeDocument s 3).toOption ==
          some "query user($id: ID) { user(id: $id) { id pet { name } } }"
        && decide (o.definition s 3).Shallow
        && (o.output.bind s.named?).any NamedType.isOutput) = true := by decide +kernel
  obtain ⟨s, os, o, parsed, listed, member, is⟩ := exists_of_anyOf run
  simp only [Bool.and_eq_true, beq_iff_eq, decide_eq_true_eq, Option.any_eq_true] at is
  obtain ⟨⟨written, shallow⟩, w, result, output⟩ := is
  have written := Outcome.toOption_eq_some_iff.1 written
  obtain ⟨-, -, root, f, u, -, same, inner, -, valid⟩ :=
    makeDocument_valid (.inl ⟨petsText, parsed⟩) listed member 3
  obtain ⟨d, read, validates⟩ := (valid _ written).1 shallow
  have only : u = w := by
    rw [same] at result
    exact Option.some.inj (inner.symm.trans result)
  subst only
  exact ⟨s, os, o, u, d, parsed, listed, member, written, shallow, result, output, read, validates⟩

/-- A type inside so many lists, as a server answers. -/
def nestedType : Nat → Json
  | 0 => .obj [("kind", .str "SCALAR"), ("name", .str "Int")]
  | n + 1 => .obj [("kind", .str "LIST"), ("ofType", nestedType n)]

/-- A server's answer about a query with one argument, of a type inside so many lists. -/
def nestedAnswer (n : Nat) : Json :=
  let argument := .obj [("name", .str "a"), ("type", nestedType n)]
  let field := .obj [("name", .str "f"), ("args", .arr [argument]), ("type", nestedType 0)]
  let root := .obj [("kind", .str "OBJECT"), ("name", .str "Query"), ("interfaces", .arr []),
    ("fields", .arr [field])]
  let schema := .obj [("queryType", .obj [("name", .str "Query")]),
    ("types", .arr [root, nestedType 0])]
  .obj [("data", .obj [("__schema", schema)])]

/-- Without the provisos documents would not always be valid: an input object may be the type of a
result, and is selected of; and an argument may be of a type nested too deeply to be read. -/
theorem exists_invalid_document :
    (∃ s os o u, Schema.parse "type Query { f: In } input In { x: Int }" = .ok s ∧
      s.operations [.query, .mutation] = .ok os ∧ o ∈ os ∧ o.output.bind s.named? = some u ∧
      u.isComposite = false ∧ o.makeDocument s 3 = .ok "query f { f { __typename } }") ∧
    ∃ s os o text e, Schema.ofIntrospection (nestedAnswer 201) = .ok s ∧
      s.operations [.query, .mutation] = .ok os ∧ o ∈ os ∧ o.makeDocument s 3 = .ok text ∧
      Document.parse text = .error e := by
  constructor
  · have run : anyOf (Schema.parse "type Query { f: In } input In { x: Int }") (fun s o =>
        (o.makeDocument s 3).toOption == some "query f { f { __typename } }"
          && (o.output.bind s.named?).any fun u => !u.isComposite) = true := by decide +kernel
    obtain ⟨s, os, o, parsed, listed, member, is⟩ := exists_of_anyOf run
    simp only [Bool.and_eq_true, beq_iff_eq, Option.any_eq_true, Bool.not_eq_true'] at is
    obtain ⟨written, u, inner, simple⟩ := is
    exact ⟨s, os, o, u, parsed, listed, member, inner, simple, Outcome.toOption_eq_some_iff.1 written⟩
  · have run : anyOf (Schema.ofIntrospection (nestedAnswer 201)) (fun s o =>
        !decide (o.definition s 3).Shallow) = true := by decide +kernel
    obtain ⟨s, os, o, made, listed, member, deep⟩ := exists_of_anyOf run
    simp only [Bool.not_eq_true', decide_eq_false_iff_not] at deep
    obtain ⟨spellable, plain⟩ := spellable_of_mem (Schema.sound_ofIntrospection made) listed member 3
    obtain ⟨position, refused⟩ := parse_document_tooDeep spellable plain deep
    have written := (Schema.usable_ofIntrospection made).makeDocument_eq_ok 3 o
    exact ⟨s, os, o, _, _, made, listed, member, written, refused⟩

end Operation

end QueryTools
