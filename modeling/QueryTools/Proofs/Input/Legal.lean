import QueryTools.Operation

/-!
# What values a type admits

The language says what values an argument of a type can be given.  `Schema.admits` says it with a
`Latitude`, the kinds of values that are let pass beyond the plain ones, so that what the language
admits, what a tool takes and what it sends on are one definition each applied to its own latitude.
As many input objects are entered as a budget allows; below the last any value is admitted.

Main statements:

* `Schema.admitsAll_meet` -- what two latitudes both admit is what they admit as far as both go;
* `Schema.admits_null` -- null is admitted where the type is nullable, whatever the latitude is.
-/

namespace QueryTools

/-- What is let pass beyond the plain values of a type. -/
structure Latitude where
  /-- Null among the items of a list whose items can be null. -/
  nullItems : Bool := false
  /-- Null where null is excluded but there is a default. -/
  nullDefaults : Bool := false
  /-- Whole numbers of more than 32 bits. -/
  anyWhole : Bool := false
  /-- Fractions that are not finite. -/
  anyFraction : Bool := false
  /-- Any name where an enum has no values. -/
  openEnums : Bool := false
  /-- Any number of fields where exactly one has to be given. -/
  manyOfOne : Bool := false
  /-- Members that are not declared. -/
  undeclared : Bool := false
  deriving DecidableEq, Repr

namespace Latitude

/-- What the language admits. -/
def language : Latitude := { nullItems := true }

/-- What a tool sends on. -/
def sent : Latitude :=
  { nullDefaults := true, anyWhole := true, anyFraction := true, openEnums := true, manyOfOne := true }

/-- What a tool takes; members that are not declared are not sent on. -/
def taken : Latitude := { sent with undeclared := true }

/-- What is let pass by two latitudes both. -/
def meet (l m : Latitude) : Latitude where
  nullItems := l.nullItems && m.nullItems
  nullDefaults := l.nullDefaults && m.nullDefaults
  anyWhole := l.anyWhole && m.anyWhole
  anyFraction := l.anyFraction && m.anyFraction
  openEnums := l.openEnums && m.openEnums
  manyOfOne := l.manyOfOne && m.manyOfOne
  undeclared := l.undeclared && m.undeclared

/-- Whether a scalar that every schema has admits a value, which is not converted. -/
def admitsScalar (l : Latitude) (name : String) (v : Json) : Bool :=
  match name, v with
  | "Int", .int n => l.anyWhole || Schema.fitsInt n
  | "Float", .int n => (Double.ofInt n).isFinite
  | "Float", .float x => l.anyFraction || x.isFinite
  | "String", .str _ | "ID", .str _ | "Boolean", .bool _ => true
  | _, _ => false

/-- Whether an enum admits a value, the name of one of its own. -/
def admitsChoice (l : Latitude) (values : List EnumValue) (v : Json) : Bool :=
  v.str?.any fun name => values.any (fun x => x.name == name) || (l.openEnums && values.isEmpty)

/-- Whether a value may be given to a parameter. -/
def admitsValue (l : Latitude) (admits : TypeRef → Json → Bool) (p : Parameter) (v : Json) : Bool :=
  (l.nullDefaults && v.isNull && p.default.isSome) || admits p.type v

/-- Whether members may be given to parameters: only those are named, and each is given what it
admits or is not required. -/
def admitsMembers (l : Latitude) (admits : TypeRef → Json → Bool) (ps : List Parameter)
    (members : Keyed Json) : Bool :=
  (l.undeclared || members.all fun m => ps.any fun p => p.name == m.1) &&
    ps.all fun p =>
      match Keyed.get? p.name members with
      | none => !p.isRequired
      | some v => l.admitsValue admits p v

end Latitude

/-- Whether a reference admits a value, given what named types admit beside null. -/
def TypeRef.admits (nullItems : Bool) (inner : String → Json → Bool) : TypeRef → Json → Bool
  | .named name, v => v.isNull || inner name v
  | .list item, v =>
    v.isNull || v.arr?.any fun vs => vs.all fun x => (nullItems || !x.isNull) && item.admits nullItems inner x
  | .nonNull type, v => !v.isNull && type.admits nullItems inner v

namespace Schema

/-- Whether a named type admits a value that is not null, where `depth` input objects may still be
entered.  Types that are not the language's own or cannot be given admit none. -/
def admitsNamed (s : Schema) (l : Latitude) : Nat → String → Json → Bool
  | 0, _, _ => true
  | depth + 1, name, v =>
    match (s.find? name).map NamedType.form with
    | some (.scalar _) => l.admitsScalar name v
    | some (.enum values _) => l.admitsChoice values v
    | some (.input fields oneOf) =>
      let admits (type : TypeRef) (v : Json) : Bool :=
        depth == 0 || type.admits l.nullItems (admitsNamed s l depth) v
      v.obj?.any fun members =>
        l.admitsMembers admits (fields.map s.parameter) members
          && (!oneOf || l.manyOfOne || oneGiven members)
    | _ => false

/-- Whether a type admits a value. -/
def admits (s : Schema) (l : Latitude) (depth : Nat) (type : TypeRef) (v : Json) : Bool :=
  depth == 0 || type.admits l.nullItems (s.admitsNamed l depth) v

/-- Whether members may be given to the parameters of an operation. -/
def admitsAll (s : Schema) (l : Latitude) (depth : Nat) (ps : List Parameter) (members : Keyed Json) :
    Bool :=
  l.admitsMembers (s.admits l depth) ps members

/-- Whether a named type is built from the language's own scalars, enums and input objects, as far as
the budget goes. -/
def coversNamed (s : Schema) : Nat → String → Bool
  | 0, _ => true
  | depth + 1, name =>
    match (s.find? name).map NamedType.form with
    | some (.scalar _) => Standard.scalarNames.contains name
    | some (.enum ..) => true
    | some (.input fields _) => fields.all fun f => coversNamed s depth f.type.name
    | _ => false

/-- Whether the types of parameters are so built. -/
def covers (s : Schema) (depth : Nat) (ps : List Parameter) : Bool :=
  ps.all fun p => s.coversNamed depth p.type.name

end Schema

/-! ## Null -/

theorem Json.eq_null_of_isNull {v : Json} (null : v.isNull = true) : v = .null := by
  cases v with
  | null => rfl
  | _ => cases null

/-- Null is admitted where the type does not exclude it. -/
theorem TypeRef.admits_null (nullItems : Bool) (inner : String → Json → Bool) (type : TypeRef) :
    type.admits nullItems inner .null = !type.isNonNull := by
  cases type <;> rfl

namespace Schema

/-- Null is legal where a type does not exclude it, and where nothing is looked at. -/
theorem admits_null (s : Schema) (l : Latitude) (depth : Nat) (type : TypeRef) :
    s.admits l depth type .null = (depth == 0 || !type.isNonNull) := by
  rw [admits, TypeRef.admits_null]

/-- What a named type admits, by its form. -/
theorem admitsNamed_succ (s : Schema) (l : Latitude) (depth : Nat) (name : String) (v : Json) :
    s.admitsNamed l (depth + 1) name v =
      match (s.find? name).map NamedType.form with
      | some (.scalar _) => l.admitsScalar name v
      | some (.enum values _) => l.admitsChoice values v
      | some (.input fields oneOf) =>
        v.obj?.any fun members =>
          s.admitsAll l depth (fields.map s.parameter) members
            && (!oneOf || l.manyOfOne || oneGiven members)
      | _ => false := rfl

end Schema

/-! ## What two latitudes both admit -/

/-- Two checks of all are one. -/
theorem all_and {α : Type} (p q : α → Bool) (xs : List α) :
    (xs.all fun x => p x && q x) = (xs.all p && xs.all q) := by
  induction xs with
  | nil => rfl
  | cons x rest ih =>
      rw [List.all_cons, List.all_cons, List.all_cons, ih]
      cases p x <;> cases q x <;> simp

theorem any_and {α : Type} (p q : α → Bool) (x? : Option α) :
    (x?.any fun x => p x && q x) = (x?.any p && x?.any q) := by
  cases x? <;> rfl

namespace Latitude

variable {f g : TypeRef → Json → Bool}

/-- A scalar is legal at two latitudes just if it is at each. -/
theorem admitsScalar_meet (l m : Latitude) (name : String) (v : Json) :
    (l.meet m).admitsScalar name v = (l.admitsScalar name v && m.admitsScalar name v) := by
  unfold admitsScalar meet
  split <;> simp [Bool.or_and_distrib_right]

/-- An enum value is legal at two latitudes just if it is at each. -/
theorem admitsChoice_meet (l m : Latitude) (values : List EnumValue) (v : Json) :
    (l.meet m).admitsChoice values v = (l.admitsChoice values v && m.admitsChoice values v) := by
  unfold admitsChoice meet
  rw [← any_and]
  congr 1
  funext name
  dsimp only
  rw [← Bool.or_and_distrib_left]
  cases values.isEmpty <;> simp

/-- Null is let pass for a default by either latitude, or it is admitted under both or neither: no value
is let pass under one for a reason and under the other for another. -/
theorem admitsValue_meet (l m : Latitude) (null : ∀ type, f type .null = g type .null) (p : Parameter)
    (v : Json) :
    (l.meet m).admitsValue (fun type v => f type v && g type v) p v =
      (l.admitsValue f p v && m.admitsValue g p v) := by
  unfold admitsValue meet
  cases is : v.isNull with
  | false => simp only [Bool.and_false, Bool.false_and, Bool.false_or]
  | true =>
      rw [Json.eq_null_of_isNull is]
      dsimp only
      rw [null p.type]
      cases g p.type .null <;> cases p.default.isSome <;> simp

/-- The members of an object are legal at both just if they are at each, where this holds of their types. -/
theorem admitsMembers_meet (l m : Latitude) (null : ∀ type, f type .null = g type .null)
    (ps : List Parameter) (members : Keyed Json) :
    (l.meet m).admitsMembers (fun type v => f type v && g type v) ps members =
      (l.admitsMembers f ps members && m.admitsMembers g ps members) := by
  have each : ∀ p : Parameter,
      (match Keyed.get? p.name members with
        | none => !p.isRequired
        | some v => (l.meet m).admitsValue (fun type v => f type v && g type v) p v) =
      ((match Keyed.get? p.name members with
        | none => !p.isRequired
        | some v => l.admitsValue f p v) &&
      (match Keyed.get? p.name members with
        | none => !p.isRequired
        | some v => m.admitsValue g p v)) := by
    intro p
    cases Keyed.get? p.name members with
    | none => exact (Bool.and_self _).symm
    | some v => exact admitsValue_meet l m null p v
  unfold admitsMembers
  simp only [each]
  rw [all_and]
  have names : (l.meet m).undeclared = (l.undeclared && m.undeclared) := rfl
  rw [names, Bool.or_and_distrib_right]
  ac_rfl

end Latitude

/-- Values of a type are legal at both just if they are at each, where this holds of the type inside. -/
theorem TypeRef.admits_meet (a b : Bool) (f g : String → Json → Bool) (type : TypeRef) (v : Json) :
    type.admits (a && b) (fun name v => f name v && g name v) v =
      (type.admits a f v && type.admits b g v) := by
  induction type generalizing v with
  | named name => exact Bool.or_and_distrib_left _ _ _
  | list item ih =>
      simp only [TypeRef.admits, ih]
      rw [← Bool.or_and_distrib_left, ← any_and]
      congr 2
      funext vs
      rw [← all_and]
      congr 1
      funext x
      rw [Bool.or_and_distrib_right]
      ac_rfl
  | nonNull type ih =>
      simp only [TypeRef.admits, ih]
      cases v.isNull <;> simp

namespace Schema

variable (s : Schema) (l m : Latitude)

/-- Values of a type of the schema are, where this holds of the named types. -/
theorem admits_meet_of_named {depth : Nat}
    (named : ∀ name v, s.admitsNamed (l.meet m) depth name v =
      (s.admitsNamed l depth name v && s.admitsNamed m depth name v)) (type : TypeRef) (v : Json) :
    s.admits (l.meet m) depth type v = (s.admits l depth type v && s.admits m depth type v) := by
  have inner : s.admitsNamed (l.meet m) depth =
      fun name v => s.admitsNamed l depth name v && s.admitsNamed m depth name v := by
    funext name v
    exact named name v
  unfold admits
  rw [inner, ← Bool.or_and_distrib_left]
  congr 1
  exact TypeRef.admits_meet l.nullItems m.nullItems _ _ type v

/-- Arguments are, where this holds of the named types. -/
theorem admitsAll_meet_of_named {depth : Nat}
    (named : ∀ name v, s.admitsNamed (l.meet m) depth name v =
      (s.admitsNamed l depth name v && s.admitsNamed m depth name v)) (ps : List Parameter)
    (members : Keyed Json) :
    s.admitsAll (l.meet m) depth ps members =
      (s.admitsAll l depth ps members && s.admitsAll m depth ps members) := by
  have both : s.admits (l.meet m) depth =
      fun type v => s.admits l depth type v && s.admits m depth type v := by
    funext type v
    exact s.admits_meet_of_named l m named type v
  unfold admitsAll
  rw [both]
  refine Latitude.admitsMembers_meet l m (fun type => ?_) ps members
  rw [admits_null, admits_null]

/-- Values of a named type are legal at two latitudes just if they are at each. -/
theorem admitsNamed_meet (depth : Nat) (name : String) (v : Json) :
    s.admitsNamed (l.meet m) depth name v =
      (s.admitsNamed l depth name v && s.admitsNamed m depth name v) := by
  induction depth generalizing name v with
  | zero => rfl
  | succ depth ih =>
      simp only [admitsNamed_succ]
      cases (s.find? name).map NamedType.form with
      | none => rfl
      | some form =>
          cases form with
          | scalar specified => exact l.admitsScalar_meet m name v
          | enum values fault => exact l.admitsChoice_meet m values v
          | input fields oneOf =>
              dsimp only
              rw [← any_and]
              congr 1
              funext members
              rw [s.admitsAll_meet_of_named l m ih]
              have exempt : (l.meet m).manyOfOne = (l.manyOfOne && m.manyOfOne) := rfl
              rw [exempt]
              rw [Bool.or_and_distrib_left, Bool.or_and_distrib_right]
              ac_rfl
          | _ => rfl

/-- What two latitudes both admit is what they admit as far as both go. -/
theorem admitsAll_meet (depth : Nat) (ps : List Parameter) (members : Keyed Json) :
    s.admitsAll (l.meet m) depth ps members =
      (s.admitsAll l depth ps members && s.admitsAll m depth ps members) :=
  s.admitsAll_meet_of_named l m (s.admitsNamed_meet l m depth) ps members

end Schema

end QueryTools
