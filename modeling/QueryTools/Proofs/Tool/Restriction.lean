import QueryTools.Server
import QueryTools.Proofs.Shape.Restriction
import QueryTools.Proofs.Tool.Arguments

/-!
# Checked arguments are a restriction

What a tool makes of the arguments of a call is the restriction of these to the fields of the tool, for
the tools of loaded schemas and the server's own (`ArgumentFields.restricts`).  It rests on fields
having different names, which they have because the inputs of a schema have (`Synthesizer.distinct_fields`).
-/

namespace QueryTools

/-! ## Shapes of types have different names -/

namespace Shape

variable {s : Schema}

theorem distinct_withNote {shape : Shape} {note : Note} :
    (shape.withNote note).Distinct ↔ shape.Distinct := by
  cases shape <;> simp only [withNote, Distinct]

/-- Wrapping a distinct shape leaves it distinct. -/
theorem distinct_ofWrapped {inner : String → Shape} (type : TypeRef)
    (named : (inner type.name).Distinct) : (ofWrapped inner type).Distinct := by
  induction type with
  | named name => exact named
  | list item ih => exact ih named
  | nonNull type ih => exact ih named

theorem distinct_ofScalar (name : String) : (ofScalar name).Distinct := by
  unfold ofScalar
  split <;> trivial

/-- The shape of a type is distinct if those of named types are. -/
theorem distinct_ofType {depth : Nat} (named : ∀ name, (ofNamed s depth name).Distinct)
    (type : TypeRef) : (ofType s depth type).Distinct := by
  unfold ofType
  split
  · trivial
  · exact distinct_ofWrapped type (named type.name)

/-- The fields of parameters with different names have different names, in objects at every level. -/
theorem distinct_fieldsOf {depth : Nat} (named : ∀ name, (ofNamed s depth name).Distinct)
    {parameters : List Parameter} (names : (parameters.map Parameter.name).Nodup) (note : Note) :
    (object (fieldsOf s depth parameters) note).Distinct := by
  constructor
  · have same : (fieldsOf s depth parameters).map Member.name = parameters.map Parameter.name := by
      rw [fieldsOf, List.map_map]
      rfl
    rw [same]
    exact names
  · refine allDistinct_iff.2 fun f member => ?_
    obtain ⟨p, -, rfl⟩ := List.mem_map.1 member
    exact distinct_withNote.2 (distinct_ofType named p.type)

/-- The shape of a type names different fields in objects at every level, if the types of the schema
do. -/
theorem distinct_ofNamed (distinct : s.Distinct) (depth : Nat) (name : String) :
    (ofNamed s depth name).Distinct := by
  induction depth generalizing name with
  | zero => trivial
  | succ depth ih =>
      cases found : s.find? name with
      | none =>
          rw [ofNamed, found]
          trivial
      | some t =>
          cases form : t.form with
          | scalar specified =>
              simp only [ofNamed, found, form]
              exact distinct_ofScalar t.name
          | enum values fault =>
              simp only [ofNamed, found, form]
              trivial
          | input fields oneOf =>
              have names : ((fields.map s.parameter).map Parameter.name).Nodup := by
                rw [List.map_map]
                exact (distinct name t found).inputs fields oneOf form
              rw [ofNamed_input (by rw [found, Option.map_some, form])]
              exact distinct_fieldsOf ih names {}
          | _ =>
              simp only [ofNamed, found, form]
              trivial

end Shape

/-- The fields of a tool have different names under either convention. -/
theorem Synthesizer.distinct_fields (y : Synthesizer) {s : Schema} {o : Operation}
    (distinct : s.Distinct) (names : (o.parameters.map Parameter.name).Nodup) (note : Note) :
    (Shape.object (y.fields s o) note).Distinct := by
  have parameters := Shape.distinct_fieldsOf (Shape.distinct_ofNamed distinct Shape.defaultDepth) names
  unfold Synthesizer.fields
  cases y.convention with
  | query => exact ⟨by simp, trivial, parameters {}, trivial⟩
  | arguments => exact parameters note

/-! ## Checking arguments -/

/-- The name of a tool and the fields that the arguments of its calls are checked against: of the server's
own tools, and of those made for the operations of a loaded schema. -/
inductive ArgumentFields : String → List (Member Shape) → Prop where
  | own {t : OwnTool} (member : t ∈ OwnTool.all) : ArgumentFields t.name t.fields
  | made {y : Synthesizer} {s : Schema} {kinds : List OperationKind} {os : List Operation}
      {o : Operation} {t : Tool} (loaded : s.Loaded) (listed : s.operations kinds = .ok os)
      (member : o ∈ os) (made : y.synthesize s o = .ok t) : ArgumentFields t.name t.fields

/-- Members are checked as the object that they make. -/
theorem checkArguments_obj (tool : String) (fields : List (Member Shape)) (members : Keyed Json) :
    checkArguments tool fields (.obj members) =
      match (Shape.object fields {}).checkAt tool [] (.obj members) with
      | .ok accepted => .ok (accepted.given.obj?.getD [])
      | .error issues => .error (.badArguments tool issues) := by
  unfold checkArguments
  rw [Tool.readArguments_obj, Shape.checkAt]
  dsimp only [bind, Except.bind]
  cases Shape.checkFields tool [] fields members <;> rfl

namespace ArgumentFields

variable {tool : String} {fields : List (Member Shape)}

/-- The fields of arguments make a distinct shape. -/
theorem distinct (model : ArgumentFields tool fields) : (Shape.object fields {}).Distinct := by
  cases model with
  | own member =>
      simp only [OwnTool.all, List.mem_cons, List.not_mem_nil, or_false] at member
      rcases member with rfl | rfl
      · exact ⟨by simp [OwnTool.introspect], trivial, trivial⟩
      · exact ⟨by simp [OwnTool.query], trivial, trivial, trivial⟩
  | @made y s kinds os o t loaded listed member made =>
      rw [(Synthesizer.makes_of_synthesize made).fields]
      exact y.distinct_fields loaded.distinct (loaded.nodup_parameters listed member) {}

/-- Arguments are taken where they have what the fields ask for, and what is made of them is their
restriction. -/
theorem checkArguments_eq_ok_iff (model : ArgumentFields tool fields) {raw : Json} {given : Members} :
    checkArguments tool fields raw = .ok given ↔
      ∃ members, readArguments raw = .ok members ∧ Shape.admitsFields fields members = true ∧
        Shape.restrictFields fields members = given := by
  rw [QueryTools.checkArguments_eq_ok_iff]
  refine exists_congr fun members => ?_
  have gives := Shape.gives_restrictFields model.distinct tool [] members
  constructor
  · rintro ⟨checked, read, ok, rfl⟩
    refine ⟨read, gives.exists_eq_ok_iff.1 ⟨checked, ok⟩, ?_⟩
    rw [gives.given_eq ok, Keyed.ofPairs_of_nodup]
    exact Shape.nodup_names_restrictFields model.distinct.1 members
  · rintro ⟨read, taken, rfl⟩
    obtain ⟨checked, ok⟩ := gives.exists_eq_ok_iff.2 taken
    refine ⟨checked, read, ok, ?_⟩
    rw [gives.given_eq ok, Keyed.ofPairs_of_nodup]
    exact Shape.nodup_names_restrictFields model.distinct.1 members

/-- Objects of one arrangement or another are checked alike. -/
theorem checkArguments_eq_of_rearranged (model : ArgumentFields tool fields) {members : Keyed Json}
    {v : Json} (becomes : (Shape.object fields {}).Rearranged (.obj members) v) :
    checkArguments tool fields v = checkArguments tool fields (.obj members) := by
  obtain ⟨others, rfl⟩ := becomes.exists_obj
  have same := Shape.checkAt_eq_of_rearranged becomes model.distinct tool []
  rw [checkArguments_obj, checkArguments_obj, same]

/-- **Checking arguments restricts them to the declared fields.**  What is made of arguments that are taken
is their restriction: the fields that were given, in the order of their declaration and no others, at every
level.  It is taken again, and stays what it is.  An object that differs from the arguments in the order of
members, or in members that are not declared, is taken too and gives the same. -/
theorem restricts (model : ArgumentFields tool fields) {raw : Json} {given : Members}
    (accepted : checkArguments tool fields raw = .ok given) :
    ∃ members, readArguments raw = .ok members ∧ given = Shape.restrictFields fields members ∧
      Keyed.names given = (fields.map Member.name).filter (fun name => Keyed.has name members) ∧
      checkArguments tool fields (.obj given) = .ok given ∧
      ∀ v, (Shape.object fields {}).Rearranged (.obj members) v →
        checkArguments tool fields v = .ok given := by
  have distinct := model.distinct
  have names := distinct.1
  have inner : ∀ f ∈ fields, f.shape.Distinct := Shape.allDistinct_iff.1 distinct.2
  obtain ⟨members, read, taken, rfl⟩ := model.checkArguments_eq_ok_iff.1 accepted
  refine ⟨members, read, rfl, Shape.names_restrictFields fields members, ?_, ?_⟩
  · refine model.checkArguments_eq_ok_iff.2 ⟨_, Tool.readArguments_obj _, ?_, ?_⟩
    · exact Shape.admitsFields_restrictFields names
        (fun f member => f.shape.admits_restrict (inner f member)) taken
    · exact Shape.restrictFields_restrictFields names
        (fun f member => f.shape.restrict_restrict (inner f member)) members
  · intro v becomes
    rw [model.checkArguments_eq_of_rearranged becomes]
    exact model.checkArguments_eq_ok_iff.2 ⟨members, Tool.readArguments_obj members, taken, rfl⟩

/-- A schema with names that begin with underscores or look like places, and with defaults. -/
def underscoredText : String :=
  "type Query { f(__x: Float, field_0: Int = 4, field_1: [In!]): Int } "
    ++ "input In { field_0: Int = 1 _a: String __b: In }"

/-- An object in a list loses what is not declared and keeps a null; no default is put in. -/
theorem restricts_underscored :
    let item : Json := .obj [("z", .int 1), ("_a", .null), ("field_0", .int 7)]
    let members : Keyed Json := [("field_1", .arr [item]), ("extra", .bool true), ("__x", .int 3)]
    ∃ s os o t given, Tool.OfText underscoredText s os o t ∧ t.validate (.obj members) = .ok given ∧
      (Json.obj given).display =
        "\x7b'__x': 3.0, 'field_1': [\x7b'field_0': 7, '_a': None\x7d]\x7d" ∧
      t.validate (.obj given) = .ok given ∧
      t.validate (.obj (members.reverse ++ [("field_2", .null)])) = .ok given := by
  intro item members
  have run : Tool.anyOfText underscoredText (fun _ _ t =>
      !(t.fields.map Member.name).contains "field_2" &&
      (t.validate (.obj members)).toOption.any fun given => (Json.obj given).display ==
        "\x7b'__x': 3.0, 'field_1': [\x7b'field_0': 7, '_a': None\x7d]\x7d") = true := by
    decide +kernel
  obtain ⟨s, os, o, t, of, held⟩ := Tool.exists_ofText run
  obtain ⟨fresh, takes⟩ := Bool.and_eq_true_iff.1 held
  obtain ⟨given, is, shown⟩ := (Option.any_eq_true _ _).1 takes
  have accepted := Outcome.toOption_eq_some_iff.1 is
  have undeclared : "field_2" ∉ t.fields.map Member.name := by simpa using fresh
  have becomes : (Shape.object t.fields {}).Rearranged (.obj members)
      (.obj (members.reverse ++ [("field_2", .null)])) :=
    .trans (.permuted members.reverse_perm.symm (by decide)) (.added _ .null undeclared)
  have model := ArgumentFields.made (.inl ⟨underscoredText, of.parsed⟩) of.listed of.member of.made
  obtain ⟨_, read, -, -, again, others⟩ := restricts model accepted
  cases (Tool.readArguments_obj members).symm.trans read
  exact ⟨s, os, o, t, given, of, accepted, beq_iff_eq.1 shown, again, others _ becomes⟩

end ArgumentFields

end QueryTools
