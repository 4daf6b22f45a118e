import QueryTools.Proofs.Schema.Distinct
import QueryTools.Proofs.Shape.Position
import QueryTools.Proofs.Shape.Restriction
import QueryTools.Proofs.Tool.Obstacles

/-!
# Constants are taken as what they stand for

The value that a constant stands for where a type is expected is taken by the shape of the type, and kept
as it is, if the type is built from the language's own scalars, enums, lists and input objects and no list
in the value holds null.  A single value comes as a list already, a whole number as a fraction or as the
text of an identifier, and what an input object lacks may be left out.

Main statement: `Shape.keeps_of_coerce`, by recursion on the constant.
-/

namespace QueryTools

namespace Json

mutual

/-- Whether no list in a value holds null. -/
def lacksNullItems : Json → Bool
  | .arr items => itemsLackNull items
  | .obj members => membersLackNullItems members
  | _ => true

/-- Whether no item is null or has a list in it that holds null. -/
def itemsLackNull : List Json → Bool
  | [] => true
  | v :: rest => !v.isNull && v.lacksNullItems && itemsLackNull rest

/-- Whether no member has a list in it that holds null. -/
def membersLackNullItems : List (String × Json) → Bool
  | [] => true
  | (_, v) :: rest => v.lacksNullItems && membersLackNullItems rest

end

/-- Items lack null just if none of them is null or holds null in a list. -/
theorem itemsLackNull_iff {items : List Json} :
    itemsLackNull items = true ↔ ∀ v ∈ items, v.isNull = false ∧ v.lacksNullItems = true := by
  induction items with
  | nil => simp [itemsLackNull]
  | cons v rest ih => simp [itemsLackNull, ih, and_assoc]

/-- Members lack null items just if each of them does. -/
theorem membersLackNullItems_iff {members : List (String × Json)} :
    membersLackNullItems members = true ↔ ∀ p ∈ members, p.2.lacksNullItems = true := by
  induction members with
  | nil => simp [membersLackNullItems]
  | cons p rest ih => simp [membersLackNullItems, ih]

/-- A value inside lists has no more lists that hold null than the value in them. -/
theorem lacksNullItems_of_wrap {v : Json} {type : TypeRef} (lacks : (type.wrap v).lacksNullItems = true) :
    v.lacksNullItems = true := by
  induction type with
  | named name => exact lacks
  | list item ih =>
      rw [TypeRef.wrap, lacksNullItems, itemsLackNull_iff] at lacks
      exact ih (lacks _ List.mem_cons_self).2
  | nonNull type ih => exact ih lacks

end Json

/-- Where a reference is to no list, nothing is put into lists. -/
theorem TypeRef.wrap_of_item? {type : TypeRef} (single : type.item? = none) (v : Json) :
    type.wrap v = v := by
  induction type with
  | named name => rfl
  | list item ih => cases single
  | nonNull type ih => exact ih single

namespace Schema

/-- What input objects are assembled from: what was given for their fields, and nothing for fields that do
not exclude null. -/
theorem assemble_eq_some {fields : List InputValue} {given : Keyed (Option Json)}
    {values : List (String × Json)} (made : assemble fields given = some values) :
    values = (fields.filterMap fun f => (Keyed.get? f.name given).join.map fun v => (f.name, v)) ∧
      ∀ f ∈ fields, (Keyed.get? f.name given).join = none → f.type.isNonNull = false := by
  unfold assemble at made
  split at made
  · cases made
  rename_i declared
  clear declared
  induction fields generalizing values with
  | nil =>
      cases made
      exact ⟨rfl, nofun⟩
  | cons f rest ih =>
      rw [List.foldr_cons] at made
      obtain ⟨later, assembled, made⟩ := Option.bind_eq_some_iff.1 made
      obtain ⟨rfl, missing⟩ := ih assembled
      rw [List.filterMap_cons, List.forall_mem_cons]
      cases stands : Keyed.get? f.name given with
      | none =>
          simp only [stands] at made
          split at made
          · cases made
          · rename_i nullable
            cases made
            exact ⟨rfl, fun _ => Bool.eq_false_iff.2 nullable, missing⟩
      | some v? =>
          simp only [stands] at made
          obtain ⟨v, rfl, made⟩ := Option.bind_eq_some_iff.1 made
          cases made
          exact ⟨rfl, nofun, missing⟩

end Schema

namespace Shape

/-- A shape takes a value and keeps it as it is. -/
structure Keeps (shape : Shape) (v : Json) : Prop where
  admitted : shape.admits v = true
  unchanged : shape.restrict v = v

theorem keeps_any (note : Note) (v : Json) : (any note).Keeps v := ⟨rfl, rfl⟩

/-- The shape of lists keeps a list if that of items keeps each item. -/
theorem keeps_list {items : Shape} {vs : List Json} (each : ∀ v ∈ vs, items.Keeps v) (note : Note) :
    (list items note).Keeps (.arr vs) := by
  constructor
  · rw [admits, Json.arr?, Option.any_some, List.all_eq_true]
    exact fun v member => (each v member).admitted
  · rw [restrict]
    have same : vs.map (fun v => items.restrict v) = vs.map id :=
      List.map_congr_left fun v member => (each v member).unchanged
    rw [same, List.map_id]

variable {s : Schema}

/-! ## Scalars and enums -/

/-- The shape of a scalar keeps what a literal of it is read as. -/
theorem keeps_ofScalar {name : String} (own : name ∈ Standard.scalarNames) {v d : Json}
    (fits : Schema.coerceScalar name v = some d) : (ofScalar name).Keeps d := by
  simp only [Standard.scalarNames, List.mem_cons, List.not_mem_nil, or_false] at own
  rcases own with rfl | rfl | rfl | rfl | rfl
  · obtain ⟨text, -, rfl⟩ := Option.map_eq_some_iff.1 fits
    exact ⟨rfl, rfl⟩
  · obtain ⟨n, -, fits⟩ := Option.bind_eq_some_iff.1 fits
    split at fits
    · cases fits
      exact ⟨rfl, rfl⟩
    · cases fits
  · simp only [Schema.coerceScalar, Option.ite_none_right_eq_some, Option.some.injEq] at fits
    rw [← fits.2]
    exact ⟨rfl, rfl⟩
  · obtain ⟨b, -, rfl⟩ := Option.map_eq_some_iff.1 fits
    exact ⟨rfl, rfl⟩
  · simp only [Schema.coerceScalar] at fits
    split at fits
    · cases fits
      exact ⟨rfl, rfl⟩
    · obtain ⟨n, -, rfl⟩ := Option.map_eq_some_iff.1 fits
      exact ⟨rfl, rfl⟩

/-- The value of a constant that is neither null nor an object is kept by the shape of its type. -/
theorem keeps_of_coerceLeaf {budget : Nat} {name : String}
    (covered : s.coversNamed (budget + 1) name = true) {v : Literal} {d : Json}
    (fits : s.coerceLeaf name v = some d) : (ofNamed s (budget + 1) name).Keeps d := by
  unfold Schema.coerceLeaf at fits
  cases found : s.find? name with
  | none => simp [found] at fits
  | some t =>
      have same := Schema.name_of_find? found
      simp only [found] at fits
      cases form : t.form with
      | scalar specified =>
          simp only [form] at fits
          simp only [Schema.coversNamed, found, Option.map_some, form, List.contains_iff_mem] at covered
          simp only [ofNamed, found, form, same]
          exact keeps_ofScalar covered fits
      | enum values fault =>
          simp only [form] at fits
          simp only [ofNamed, found, form]
          split at fits
          · rename_i choice
            simp only [Option.ite_none_right_eq_some, Option.some.injEq] at fits
            obtain ⟨known, rfl⟩ := fits
            refine ⟨?_, rfl⟩
            have listed : (values.map EnumValue.name).contains choice = true := by
              simpa [List.any_eq_true] using known
            rw [admits, Json.str?, Option.any_some, listed, Bool.or_true]
          · cases fits
      | _ => simp [form] at fits

/-! ## Lists -/

/-- A value that the shape of a named type keeps is kept by that of a reference inside as many lists. -/
theorem keeps_wrap {budget : Nat} {type : TypeRef} {v : Json}
    (named : (ofNamed s (budget + 1) type.name).Keeps v) :
    (ofType s (budget + 1) type).Keeps (type.wrap v) := by
  induction type with
  | named name => exact named
  | list item ih =>
      refine keeps_list (fun w member => ?_) {}
      rw [List.mem_singleton.1 member]
      exact ih named
  | nonNull type ih =>
      rw [ofType_nonNull]
      exact ih named

/-- A list of values that the shape of the item type keeps is kept by that of the list. -/
theorem keeps_items {budget : Nat} {type item : TypeRef} (is : type.item? = some item) {vs : List Json}
    (each : ∀ v ∈ vs, (ofType s (budget + 1) item).Keeps v) :
    (ofType s (budget + 1) type).Keeps (.arr vs) := by
  induction type with
  | named name => cases is
  | list other ih =>
      cases is
      exact keeps_list each {}
  | nonNull type ih =>
      rw [ofType_nonNull]
      exact ih is

/-! ## Input objects -/

theorem admits_withNote (shape : Shape) (note : Note) (v : Json) :
    (shape.withNote note).admits v = shape.admits v := by
  cases shape <;> simp only [withNote, admits]

theorem restrict_withNote (shape : Shape) (note : Note) (v : Json) :
    (shape.withNote note).restrict v = shape.restrict v := by
  cases shape <;> rfl

/-- The values of some fields, each under its name, are kept by the fields if the shapes of their types keep
them, and no field that is left out or null excludes null. -/
theorem keeps_fields {budget : Nat} {fields : List InputValue}
    (distinct : (fields.map InputValue.name).Nodup) {given : InputValue → Option Json}
    (missing : ∀ f ∈ fields, given f = none → f.type.isNonNull = false)
    (fits : ∀ f ∈ fields, ∀ v, given f = some v →
      (v = .null ∧ f.type.isNonNull = false) ∨ (ofType s budget f.type).Keeps v) :
    (object (fieldsOf s budget (fields.map s.parameter)) {}).Keeps
      (.obj (fields.filterMap fun f => (given f).map fun v => (f.name, v))) := by
  have seen : ∀ f ∈ fields,
      Keyed.get? f.name (fields.filterMap fun f => (given f).map fun v => (f.name, v)) = given f :=
    fun f member => Keyed.get?_filterMap distinct given member
  constructor
  · rw [admits, Json.obj?, Option.any_some, admitsFields_eq, fieldsOf, List.map_map, List.all_map,
      List.all_eq_true]
    intro f member
    have optional : f.type.isNonNull = false → (s.parameter f).isRequired = false := fun nullable => by
      rw [Parameter.isRequired, show (s.parameter f).type.isNonNull = false from nullable, Bool.false_and]
    show takesField (fieldOf s budget (s.parameter f)) (fieldOf s budget (s.parameter f)).shape.admits
      (Keyed.get? f.name _) = true
    rw [seen f member]
    cases is : given f with
    | none =>
        rw [takesField]
        exact Bool.not_eq_true' _ ▸ optional (missing f member is)
    | some v =>
        rw [takesField, Bool.or_eq_true]
        rcases fits f member v is with ⟨rfl, nullable⟩ | kept
        · left
          rw [show (fieldOf s budget (s.parameter f)).required = false from optional nullable]
          rfl
        · right
          exact (admits_withNote _ _ v).trans kept.admitted
  · rw [restrict, restrictFields_eq, fieldsOf, List.map_map, List.filterMap_map]
    congr 1
    refine List.filterMap_congr fun f member => ?_
    show (Keyed.get? f.name _).map (fun v => (f.name, (fieldOf s budget (s.parameter f)).shape.restrict v)) = _
    rw [seen f member]
    cases is : given f with
    | none => rfl
    | some v =>
        have same : (fieldOf s budget (s.parameter f)).shape.restrict v = v := by
          rw [fieldOf, annotate, restrict_withNote]
          rcases fits f member v is with ⟨rfl, -⟩ | kept
          · exact restrict_null _
          · exact kept.unchanged
        rw [Option.map_some, Option.map_some, same]

/-! ## Constants -/

/-- An object that stands for a constant is kept if what it was assembled from is. -/
theorem keeps_assembled (distinct : s.Distinct) {budget : Nat} {type : TypeRef} {t : NamedType}
    {fields : List InputValue} {oneOf : Bool} (found : s.find? type.name = some t)
    (form : t.form = .input fields oneOf) {given : Keyed (Option Json)} {values : List (String × Json)}
    (made : Schema.assemble fields given = some values)
    (fits : ∀ f ∈ fields, ∀ v, (f.name, some v) ∈ given → v.lacksNullItems = true →
      (v = .null ∧ f.type.isNonNull = false) ∨ (ofType s budget f.type).Keeps v)
    (lacks : (Json.obj values).lacksNullItems = true) :
    (ofType s (budget + 1) type).Keeps (type.wrap (.obj values)) := by
  have names := (distinct type.name t found).inputs fields oneOf form
  obtain ⟨rfl, missing⟩ := Schema.assemble_eq_some made
  rw [Json.lacksNullItems, Json.membersLackNullItems_iff] at lacks
  have shaped : ofNamed s (budget + 1) type.name =
      .object (fieldsOf s budget (fields.map s.parameter)) {} :=
    ofNamed_input (by rw [found, Option.map_some, form])
  refine keeps_wrap (shaped ▸ keeps_fields names missing fun f member v is => ?_)
  have stands : Keyed.get? f.name given = some (some v) := Option.join_eq_some_iff.1 is
  have clear := lacks (f.name, v) (List.mem_filterMap.2 ⟨f, member, by rw [is, Option.map_some]⟩)
  exact fits f member v (Keyed.mem_of_get? stands) clear

mutual

/-- **The value that a constant stands for** is kept by the shape of the type, or is null and may be. -/
theorem keeps_of_coerce (distinct : s.Distinct) {budget : Nat} {type : TypeRef}
    (covered : s.coversNamed budget type.name = true) :
    ∀ (l : Literal) {d : Json}, s.coerce type l = some d → d.lacksNullItems = true →
      (d = .null ∧ type.isNonNull = false) ∨ (ofType s budget type).Keeps d
  | l, d, fits, lacks => by
      cases budget with
      | zero => exact .inr (keeps_any {} d)
      | succ budget =>
          have leaf : ∀ l, (s.coerceLeaf type.name l).map (fun v => type.wrap v) = some d →
              (ofType s (budget + 1) type).Keeps d := fun l stands => by
            obtain ⟨v, single, wrapped⟩ := Option.map_eq_some_iff.1 stands
            rw [← wrapped]
            exact keeps_wrap (keeps_of_coerceLeaf covered single)
          cases l with
          | null =>
              left
              rw [Schema.coerce] at fits
              split at fits
              · cases fits
              · rename_i nullable
                cases fits
                exact ⟨rfl, Bool.eq_false_iff.2 nullable⟩
          | list items =>
              right
              rw [Schema.coerce] at fits
              cases inner : type.item? with
              | none =>
                  simp only [inner] at fits
                  refine leaf (.list items) ?_
                  simp only [fits, Option.map_some, TypeRef.wrap_of_item? inner]
              | some item =>
                  simp only [inner] at fits
                  obtain ⟨ds, each, is⟩ := Option.map_eq_some_iff.1 fits
                  rw [← is] at lacks ⊢
                  rw [Json.lacksNullItems] at lacks
                  have same := TypeRef.name_of_item? inner
                  have inside : s.coversNamed (budget + 1) item.name = true := by rwa [same]
                  exact keeps_items inner (keeps_of_coerceItems distinct inside items each lacks)
          | object given =>
              right
              rw [Schema.coerce] at fits
              split at fits
              · rename_i name description fields oneOf found
                obtain ⟨values, made, fits⟩ := Option.bind_eq_some_iff.1 fits
                split at fits
                · cases fits
                · cases fits
                  simp only [Schema.coversNamed, found, Option.map_some, List.all_eq_true] at covered
                  have names := (distinct _ _ found).inputs fields oneOf rfl
                  refine keeps_assembled distinct found rfl made (fun f member v there clear => ?_)
                    (Json.lacksNullItems_of_wrap lacks)
                  exact keeps_of_coerceFields distinct names covered given member
                    (Keyed.mem_ofPairs there) clear
              · exact leaf (.object given) fits
          | _ => exact .inr (leaf _ fits)

/-- The values of the items of a list are kept by the shape of the item type, if none is null. -/
theorem keeps_of_coerceItems (distinct : s.Distinct) {budget : Nat} {item : TypeRef}
    (covered : s.coversNamed (budget + 1) item.name = true) :
    ∀ (items : List Literal) {ds : List Json}, s.coerceItems item items = some ds →
      Json.itemsLackNull ds = true → ∀ d ∈ ds, (ofType s (budget + 1) item).Keeps d
  | [], ds, fits, _ => by
      cases fits
      exact nofun
  | l :: rest, ds, fits, lacks => by
      rw [Schema.coerceItems] at fits
      obtain ⟨d, first, fits⟩ := Option.bind_eq_some_iff.1 fits
      obtain ⟨later, others, fits⟩ := Option.bind_eq_some_iff.1 fits
      cases fits
      rw [Json.itemsLackNull, Bool.and_eq_true, Bool.and_eq_true] at lacks
      obtain ⟨⟨present, clear⟩, remaining⟩ := lacks
      rw [List.forall_mem_cons]
      constructor
      · rcases keeps_of_coerce distinct covered l first clear with ⟨rfl, -⟩ | kept
        · cases present
        · exact kept
      · exact keeps_of_coerceItems distinct covered rest others remaining

/-- The values given for fields are kept by the shapes of their types, or are null and may be. -/
theorem keeps_of_coerceFields (distinct : s.Distinct) {budget : Nat} {fields : List InputValue}
    (names : (fields.map InputValue.name).Nodup)
    (covered : ∀ f ∈ fields, s.coversNamed budget f.type.name = true) :
    ∀ (given : List (String × Literal)) {f : InputValue}, f ∈ fields → ∀ {v : Json},
      (f.name, some v) ∈ s.coerceFields fields given → v.lacksNullItems = true →
        (v = .null ∧ f.type.isNonNull = false) ∨ (ofType s budget f.type).Keeps v
  | [], _, _, _, there, _ => by cases there
  | (name, l) :: rest, f, member, v, there, clear => by
      rw [Schema.coerceFields] at there
      rcases List.mem_cons.1 there with here | later
      · obtain ⟨same, fits⟩ := Prod.mk.inj here
        obtain ⟨g, found, fits⟩ := Option.bind_eq_some_iff.1 fits.symm
        have own := List.mem_of_find?_eq_some found
        have named : g.name = name := by simpa using List.find?_some found
        have one : g = f := List.inj_on_of_nodup_map names own member (named.trans same.symm)
        subst one
        exact keeps_of_coerce distinct (covered g own) l fits clear
      · exact keeps_of_coerceFields distinct names covered rest member later clear

end

end Shape

end QueryTools
