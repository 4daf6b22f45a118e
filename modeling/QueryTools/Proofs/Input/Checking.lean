import QueryTools.Proofs.Input.Sending

/-!
# Shapes of types take what the types admit

The shape of a type takes the values that the type admits, as far as the budget goes, with the latitude
`Latitude.taken`, and gives what is sent on for them.  Null needs care: a field may be given null where
its parameter may, but no shape takes null by itself, so that lists take no null either.

Main statements:

* `Shape.takes_ofType` -- what the shape of a type takes and gives, by induction on the budget and, for
  each, on the reference;
* `Shape.gives_covered` -- the same of the fields that parameters make.
-/

namespace QueryTools

/-! ## The shapes of types -/

namespace Shape

variable {s : Schema}

/-- What a shape takes and sends may be told in other words. -/
theorem Takes.congr {shape : Shape} {takes takes' : Json → Bool} {send send' : Json → Json}
    (given : shape.Takes takes send) (same : ∀ v, takes v = takes' v) (also : ∀ v, send v = send' v) :
    shape.Takes takes' send' := by
  intro model path v
  rw [← same, ← also]
  exact given model path v

/-- The shape of a reference takes what the reference admits, null and lists with null apart. -/
theorem takes_ofWrapped {inner : String → Shape} {admits : String → Json → Bool}
    {send : String → Json → Json} {type : TypeRef}
    (named : (inner type.name).Takes (fun v => !v.isNull && admits type.name v) (send type.name)) :
    (ofWrapped inner type).Takes (fun v => !v.isNull && type.admits false admits v)
      (type.send send) := by
  induction type with
  | named name =>
      refine named.congr (fun v => ?_) fun v => rfl
      cases is : v.isNull <;> simp [TypeRef.admits, TypeRef.name, is]
  | list item ih =>
      refine (takes_list (ih named) {}).congr (fun v => ?_) fun v => rfl
      cases v <;> simp [TypeRef.admits, Json.isNull, Json.arr?]
  | nonNull type ih =>
      refine (ih named).congr (fun v => ?_) fun v => rfl
      cases is : v.isNull <;> simp [TypeRef.admits, is]

/-- The shape of a scalar takes the values that are legal and not null, and sends fractions for numbers with a
point. -/
theorem takes_ofScalar {name : String} (own : name ∈ Standard.scalarNames) :
    (ofScalar name).Takes (fun v => !v.isNull && Latitude.taken.admitsScalar name v)
      (fun v => if name = "Float" then asFraction v else v) := by
  simp only [Standard.scalarNames, List.mem_cons, List.not_mem_nil, or_false] at own
  rcases own with rfl | rfl | rfl | rfl | rfl
  · exact (takes_string [] {}).congr (fun v => by cases v <;> rfl) fun v => rfl
  · exact (takes_int {}).congr (fun v => by cases v <;> rfl) fun v => rfl
  · refine (takes_float {}).congr (fun v => ?_) fun v => rfl
    cases v <;> rfl
  · exact (takes_boolean {}).congr (fun v => by cases v <;> rfl) fun v => rfl
  · exact (takes_string [] {}).congr (fun v => by cases v <;> rfl) fun v => rfl

/-- The shape of an enum takes the values that are legal and not null. -/
theorem takes_ofEnum (values : List EnumValue) :
    (string (values.map EnumValue.name) {}).Takes
      (fun v => !v.isNull && Latitude.taken.admitsChoice values v) id := by
  refine (takes_string _ {}).congr (fun v => ?_) fun v => rfl
  cases v with
  | str text =>
      have known : (values.map EnumValue.name).contains text =
          values.any fun x => x.name == text := by
        rw [List.contains_eq_any_beq, List.any_map]
        congr 1
        funext x
        exact Bool.beq_comm
      have empty : (values.map EnumValue.name).isEmpty = values.isEmpty := by
        cases values <;> rfl
      show ((values.map EnumValue.name).isEmpty || (values.map EnumValue.name).contains text) =
        (values.any (fun x => x.name == text) || (true && values.isEmpty))
      rw [known, empty, Bool.true_and, Bool.or_comm]
  | _ => rfl

/-- What an input object's shape is, by the parameters that its fields make. -/
theorem ofNamed_input {depth : Nat} {name : String} {fields : List InputValue} {oneOf : Bool}
    (form : (s.find? name).map NamedType.form = some (.input fields oneOf)) :
    ofNamed s (depth + 1) name = .object (fieldsOf s depth (fields.map s.parameter)) {} := by
  obtain ⟨t, found, is⟩ := Option.map_eq_some_iff.1 form
  simp only [ofNamed, found, is, fieldsOf, List.map_map]
  rfl

/-- The field that a parameter makes. -/
def fieldOf (s : Schema) (depth : Nat) (p : Parameter) : Member Shape where
  name := p.name
  required := p.isRequired
  shape := (ofType s depth p.type).annotate p.description p.default

/-- Whether the shape of a type takes a value. -/
def takesType (s : Schema) (depth : Nat) (type : TypeRef) (v : Json) : Bool :=
  depth == 0 || (!v.isNull && s.admits .taken depth type v)

/-- A field takes null where its parameter may be given null, and other values where its type admits
them. -/
theorem takesField_fieldOf (depth : Nat) (p : Parameter) (v : Json) :
    takesField (fieldOf s depth p) (takesType s depth p.type) (some v) =
      Latitude.taken.admitsValue (s.admits .taken depth) p v := by
  have exempt : (depth == 0 || s.admits .taken depth p.type v) = s.admits .taken depth p.type v := by
    unfold Schema.admits
    rw [← Bool.or_assoc, Bool.or_self]
  show (!p.isRequired && v.isNull || (depth == 0 || (!v.isNull && s.admits .taken depth p.type v))) =
    (true && v.isNull && p.default.isSome || s.admits .taken depth p.type v)
  cases is : v.isNull with
  | false => simp [exempt]
  | true =>
      rw [Json.eq_null_of_isNull is, Schema.admits_null]
      cases stands : p.default <;> cases nonNull : p.type.isNonNull <;>
        simp [stands, nonNull, Parameter.isRequired]

/-- The members of an object that fields take are those that may be given to the parameters. -/
theorem all_takesField (depth : Nat) (ps : List Parameter) (members : Keyed Json) :
    (ps.all fun p =>
      takesField (fieldOf s depth p) (takesType s depth p.type) (Keyed.get? p.name members)) =
      s.admitsAll .taken depth ps members := by
  have undeclared : Latitude.taken.undeclared = true := rfl
  unfold Schema.admitsAll Latitude.admitsMembers
  rw [undeclared, Bool.true_or, Bool.true_and]
  congr 1
  funext p
  cases Keyed.get? p.name members with
  | none => rfl
  | some v => exact takesField_fieldOf depth p v

/-- The fields of parameters take members that may be given to the parameters, and give what is sent on
for them. -/
theorem gives_fieldsOf {depth : Nat} {ps : List Parameter}
    (parts : ∀ p ∈ ps, (ofType s depth p.type).Takes (takesType s depth p.type) (s.send depth p.type))
    (model : String) (path : List PathStep) (members : Keyed Json) :
    Checked.Gives (List.filterMap givenPair) (checkFields model path (fieldsOf s depth ps) members)
      (s.admitsAll .taken depth ps members) (s.sendAll depth ps members) := by
  rw [← all_takesField]
  exact gives_checkFields (fieldOf s depth) (fun p => takesType s depth p.type)
    (fun p => s.send depth p.type) (fun p member => (parts p member).annotate _ _)
    (fun p _ => s.send_null depth p.type) model path members

/-- The shape of an input object takes the members that may be given to its fields. -/
theorem takes_ofInput {depth : Nat} {name : String} {fields : List InputValue} {oneOf : Bool}
    (form : (s.find? name).map NamedType.form = some (.input fields oneOf))
    (distinct : (fields.map InputValue.name).Nodup)
    (parts : ∀ f ∈ fields, (ofType s depth f.type).Takes (takesType s depth f.type) (s.send depth f.type)) :
    (ofNamed s (depth + 1) name).Takes
      (fun v => !v.isNull && s.admitsNamed .taken (depth + 1) name v)
      (s.sendNamed (depth + 1) name) := by
  have names : ((fields.map s.parameter).map Parameter.name).Nodup := by
    rw [List.map_map]
    exact distinct
  intro model path v
  simp only [ofNamed_input form, Schema.admitsNamed_succ, Schema.sendNamed, form]
  cases v with
  | obj members =>
      have each : ∀ p ∈ fields.map s.parameter,
          (ofType s depth p.type).Takes (takesType s depth p.type) (s.send depth p.type) :=
        List.forall_mem_map.2 parts
      have all := gives_fieldsOf each model path members
      have object := gives_object all {}
      rw [s.ofPairs_sendAll depth names] at object
      have exempt : Latitude.taken.manyOfOne = true := rfl
      rw [exempt, Bool.or_true]
      simp only [Bool.true_or, Bool.and_true]
      exact object
  | _ => exact .refused _ _

/-- The shape of a named type takes what is legal and not null, if those of the types inside do. -/
theorem takes_ofNamed {depth : Nat} {name : String}
    (distinct : s.Distinct) (covered : s.coversNamed (depth + 1) name = true)
    (parts : ∀ type : TypeRef, s.coversNamed depth type.name = true →
      (ofType s depth type).Takes (takesType s depth type) (s.send depth type)) :
    (ofNamed s (depth + 1) name).Takes
      (fun v => !v.isNull && s.admitsNamed .taken (depth + 1) name v)
      (s.sendNamed (depth + 1) name) := by
  cases found : s.find? name with
  | none => simp [Schema.coversNamed, found] at covered
  | some t =>
      have same := Schema.name_of_find? found
      cases form : t.form with
      | scalar specified =>
          simp only [Schema.coversNamed, found, Option.map_some, form, List.contains_iff_mem] at covered
          simp only [ofNamed, Schema.admitsNamed_succ, Schema.sendNamed, found, Option.map_some, form, same]
          exact takes_ofScalar covered
      | enum values fault =>
          simp only [ofNamed, Schema.admitsNamed_succ, Schema.sendNamed, found, Option.map_some, form]
          exact takes_ofEnum values
      | input fields oneOf =>
          simp only [Schema.coversNamed, found, Option.map_some, form, List.all_eq_true] at covered
          refine takes_ofInput (by rw [found, Option.map_some, form])
            ((distinct name t found).inputs fields oneOf form) fun f member => ?_
          exact parts f.type (covered f member)
      | _ => simp [Schema.coversNamed, found, form] at covered

/-- The shape of a type takes what the type admits, null and lists with null apart, and gives what is
sent on for it. -/
theorem takes_ofType (distinct : s.Distinct) (depth : Nat) (type : TypeRef)
    (covered : s.coversNamed depth type.name = true) :
    (ofType s depth type).Takes (takesType s depth type) (s.send depth type) := by
  induction depth generalizing type with
  | zero => exact (takes_any {}).congr (fun v => rfl) fun v => (s.send_zero type v).symm
  | succ depth ih =>
      have named := takes_ofNamed distinct covered ih
      exact takes_ofWrapped named

/-- The fields of parameters take just the members that may be given to the parameters. -/
theorem gives_covered (distinct : s.Distinct) {depth : Nat} {ps : List Parameter}
    (covered : s.covers depth ps = true) (model : String) (path : List PathStep)
    (members : Keyed Json) :
    Checked.Gives (List.filterMap givenPair) (checkFields model path (fieldsOf s depth ps) members)
      (s.admitsAll .taken depth ps members) (s.sendAll depth ps members) :=
  gives_fieldsOf (fun p member => takes_ofType distinct depth p.type
    (List.all_eq_true.1 covered p member)) model path members

end Shape

end QueryTools
