import Mathlib.Data.List.Nodup
import QueryTools.Proofs.Shape.Conformance
import QueryTools.Proofs.Shape.Taking

/-!
# What a shape keeps of a value

A shape takes values with more members than it names, in any order.  What it gives for one is the value
restricted to the declared fields (`Shape.restrict`): at every level the fields that were given, in the
order of their declaration, and nothing else.

Main statements:

* `Shape.takes_restrict` -- a check gives the restriction of what it takes;
* `Shape.restrict_restrict`, `Shape.admits_restrict` -- a restriction is taken again, and kept;
* `Shape.checkAt_eq_of_rearranged` -- no check sees the order of members or those not declared.
-/

namespace QueryTools

namespace Keyed

variable {α : Type}

/-- Where names are distinct their order does not matter to looking one up. -/
theorem get?_eq_of_perm {xs ys : Keyed α} (same : xs.Perm ys) (distinct : (names xs).Nodup)
    (name : String) : get? name xs = get? name ys := by
  have distinct' : (names ys).Nodup := (same.map Prod.fst).nodup_iff.1 distinct
  cases found : get? name xs with
  | none =>
      have fresh := get?_eq_none_iff.1 found
      exact (get?_eq_none_iff.2 fun member => fresh ((same.map Prod.fst).mem_iff.2 member)).symm
  | some value =>
      have member : (name, value) ∈ ys := same.mem_iff.1 (mem_of_get? found)
      exact (get?_of_mem distinct' member).symm

/-- A pair at the end is not seen under other names. -/
theorem get?_concat_of_ne {name other : String} (differs : other ≠ name) (value : α) (xs : Keyed α) :
    get? other (xs ++ [(name, value)]) = get? other xs := by
  induction xs with
  | nil => simp [get?, differs.symm]
  | cons p rest ih => simp only [List.cons_append, get?, ih]

/-- What stands under a name in the middle of a list, unless the name stands before it. -/
theorem get?_middle (name : String) (before : Keyed α) (p : String × α) (after : Keyed α) :
    get? name (before ++ p :: after) =
      (get? name before).or (if p.1 = name then some p.2 else get? name after) := by
  induction before with
  | nil => rfl
  | cons q rest ih =>
      simp only [List.cons_append, get?, ih]
      split <;> rfl

end Keyed

namespace Shape

open Checked (Gives)

/-! ## Restricting a value -/

mutual

/-- A value restricted to the declared fields at every level.  Whole numbers become fractions where
fractions are expected; all else that is no list or object of the shape stays as it is. -/
def restrict : Shape → Json → Json
  | .float _, v => asFraction v
  | .list items _, v =>
    match v with
    | .arr vs => .arr (vs.map fun x => restrict items x)
    | v => v
  | .object fields _, v =>
    match v with
    | .obj members => .obj (restrictFields fields members)
    | v => v
  | _, v => v

/-- The members of an object that belong to fields, in the order of the fields, each restricted. -/
def restrictFields : List (Member Shape) → List (String × Json) → List (String × Json)
  | [], _ => []
  | ⟨name, _, shape⟩ :: rest, members =>
    match Keyed.get? name members with
    | none => restrictFields rest members
    | some v => (name, restrict shape v) :: restrictFields rest members

end

mutual

/-- Whether a value has the shape. -/
def admits : Shape → Json → Bool
  | .any _, _ => true
  | .string choices _, v => v.str?.any fun text => choices.isEmpty || choices.contains text
  | .int _, v => v.int?.isSome
  | .float _, v => isFraction v
  | .boolean _, v => v.bool?.isSome
  | .list items _, v => v.arr?.any fun vs => vs.all fun x => admits items x
  | .object fields _, v => v.obj?.any fun members => admitsFields fields members

/-- Whether members have what the fields of an object ask for. -/
def admitsFields : List (Member Shape) → List (String × Json) → Bool
  | [], _ => true
  | ⟨name, required, shape⟩ :: rest, members =>
    (match Keyed.get? name members with
      | none => !required
      | some v => (!required && v.isNull) || admits shape v) && admitsFields rest members

end

/-- Each field that is there is restricted to its shape, and no other is kept. -/
theorem restrictFields_eq (fields : List (Member Shape)) (members : Keyed Json) :
    restrictFields fields members =
      fields.filterMap fun f => (Keyed.get? f.name members).map fun v => (f.name, f.shape.restrict v) := by
  induction fields with
  | nil => rfl
  | cons f rest ih =>
      rw [restrictFields, ih, List.filterMap_cons]
      cases Keyed.get? f.name members <;> rfl

/-- Fields are admitted just if each of them is. -/
theorem admitsFields_eq (fields : List (Member Shape)) (members : Keyed Json) :
    admitsFields fields members =
      fields.all fun f => takesField f f.shape.admits (Keyed.get? f.name members) := by
  induction fields with
  | nil => rfl
  | cons f rest ih =>
      rw [admitsFields, ih, List.all_cons]
      cases Keyed.get? f.name members <;> rfl

theorem restrict_null (shape : Shape) : shape.restrict .null = .null := by
  cases shape <;> simp only [restrict, asFraction]

/-- The names that are left are those of the fields that were given, in the order of the fields. -/
theorem names_restrictFields (fields : List (Member Shape)) (members : Keyed Json) :
    Keyed.names (restrictFields fields members) =
      (fields.map Member.name).filter fun name => Keyed.has name members := by
  induction fields with
  | nil => rfl
  | cons f rest ih =>
      rw [restrictFields, List.map_cons, List.filter_cons, ← ih, Keyed.has]
      cases Keyed.get? f.name members <;> rfl

/-- Restricting keeps names different. -/
theorem nodup_names_restrictFields {fields : List (Member Shape)}
    (distinct : (fields.map Member.name).Nodup) (members : Keyed Json) :
    (Keyed.names (restrictFields fields members)).Nodup := by
  rw [names_restrictFields]
  exact distinct.filter _

/-- What is left of the member of a field. -/
theorem get?_restrictFields {fields : List (Member Shape)} {f : Member Shape}
    (distinct : (fields.map Member.name).Nodup) (member : f ∈ fields) (members : Keyed Json) :
    Keyed.get? f.name (restrictFields fields members) =
      (Keyed.get? f.name members).map f.shape.restrict := by
  have found := Keyed.get?_filterMap distinct
    (fun f => (Keyed.get? f.name members).map f.shape.restrict) member
  simpa only [restrictFields_eq, Option.map_map, Function.comp_def] using found

/-! ## A check gives the restriction -/

/-- The fields of an object give what is left of its members, if each gives what is left of its own. -/
theorem gives_restrictFields_of {fields : List (Member Shape)}
    (each : ∀ f ∈ fields, f.shape.Takes f.shape.admits f.shape.restrict) (model : String)
    (path : List PathStep) (members : Keyed Json) :
    Gives (List.filterMap givenPair) (checkFields model path fields members)
      (admitsFields fields members) (restrictFields fields members) := by
  have all := gives_checkFields id (fun f : Member Shape => f.shape.admits)
    (fun f => f.shape.restrict) each (fun f _ => f.shape.restrict_null) model path members
  simpa only [id, List.map_id, ← admitsFields_eq, ← restrictFields_eq] using all

/-- **A check gives the restriction of what it takes.** -/
theorem takes_restrict (shape : Shape) (distinct : shape.Distinct) :
    shape.Takes shape.admits shape.restrict := by
  induction shape using Shape.induction with
  | string choices note =>
      intro model path v
      simpa only [admits, restrict, id] using takes_string choices note model path v
  | int note =>
      intro model path v
      simpa only [admits, restrict, id] using takes_int note model path v
  | float note =>
      intro model path v
      simpa only [admits, restrict] using takes_float note model path v
  | boolean note =>
      intro model path v
      simpa only [admits, restrict, id] using takes_boolean note model path v
  | any note =>
      intro model path v
      simpa only [admits, restrict, id] using takes_any note model path v
  | list items note ih =>
      intro model path v
      have all := takes_list (ih distinct) note model path v
      cases v <;> simpa only [admits, restrict, sendItems] using all
  | object fields note ih =>
      intro model path v
      cases v with
      | obj members =>
          have all := gives_restrictFields_of
            (fun f member => ih f member (allDistinct_iff.1 distinct.2 f member)) model path members
          have given := gives_object all note
          rw [Keyed.ofPairs_of_nodup (nodup_names_restrictFields distinct.1 members)] at given
          simpa only [admits, restrict, Json.obj?, Option.any_some] using given
      | _ => exact .refused _ _

/-- The fields of an object give what is left of its members. -/
theorem gives_restrictFields {fields : List (Member Shape)} {note : Note}
    (distinct : (object fields note).Distinct) (model : String) (path : List PathStep)
    (members : Keyed Json) :
    Gives (List.filterMap givenPair) (checkFields model path fields members)
      (admitsFields fields members) (restrictFields fields members) :=
  gives_restrictFields_of
    (fun f member => f.shape.takes_restrict (allDistinct_iff.1 distinct.2 f member)) model path members

/-! ## A restriction is taken again -/

/-- A number stays one as a fraction. -/
theorem isFraction_asFraction {v : Json} (taken : isFraction v = true) :
    isFraction (asFraction v) = true := by
  cases v with
  | int n => rfl
  | _ => exact taken

theorem asFraction_asFraction (v : Json) : asFraction (asFraction v) = asFraction v := by
  cases v <;> rfl

/-- Where a field takes what there is, it takes what is left of it. -/
theorem takesField_restrict {f : Member Shape}
    (deeper : ∀ v, f.shape.admits v = true → f.shape.admits (f.shape.restrict v) = true)
    {v? : Option Json} (taken : takesField f f.shape.admits v? = true) :
    takesField f f.shape.admits (v?.map f.shape.restrict) = true := by
  cases v? with
  | none => exact taken
  | some v =>
      simp only [takesField, Option.map_some, Bool.or_eq_true, Bool.and_eq_true] at taken ⊢
      rcases taken with ⟨optional, null⟩ | taken
      · have is : v = .null := by
          cases v <;> simp_all [Json.isNull]
        rw [is, restrict_null]
        exact .inl ⟨optional, rfl⟩
      · exact .inr (deeper v taken)

/-- What is left of members that fields take is taken by them. -/
theorem admitsFields_restrictFields {fields : List (Member Shape)}
    (distinct : (fields.map Member.name).Nodup)
    (deeper : ∀ f ∈ fields, ∀ v, f.shape.admits v = true → f.shape.admits (f.shape.restrict v) = true)
    {members : Keyed Json} (taken : admitsFields fields members = true) :
    admitsFields fields (restrictFields fields members) = true := by
  rw [admitsFields_eq, List.all_eq_true] at taken ⊢
  intro f member
  rw [get?_restrictFields distinct member]
  exact takesField_restrict (deeper f member) (taken f member)

/-- **The restriction of a value that has the shape has it.** -/
theorem admits_restrict (shape : Shape) (distinct : shape.Distinct) (v : Json)
    (taken : shape.admits v = true) : shape.admits (shape.restrict v) = true := by
  induction shape using Shape.induction generalizing v with
  | float note => exact isFraction_asFraction taken
  | list items note ih =>
      cases v with
      | arr vs =>
          simp only [admits, restrict, Json.arr?, Option.any_some, List.all_eq_true,
            List.forall_mem_map] at taken ⊢
          exact fun x member => ih distinct x (taken x member)
      | _ => exact taken
  | object fields note ih =>
      cases v with
      | obj members =>
          exact admitsFields_restrictFields distinct.1
            (fun f member v => ih f member (allDistinct_iff.1 distinct.2 f member) v) taken
      | _ => exact taken
  | _ => exact taken

/-- Restricting members again changes nothing if that is so for the value of each field. -/
theorem restrictFields_restrictFields {fields : List (Member Shape)}
    (distinct : (fields.map Member.name).Nodup)
    (deeper : ∀ f ∈ fields, ∀ v, f.shape.restrict (f.shape.restrict v) = f.shape.restrict v)
    (members : Keyed Json) :
    restrictFields fields (restrictFields fields members) = restrictFields fields members := by
  rw [restrictFields_eq fields (restrictFields fields members)]
  conv_rhs => rw [restrictFields_eq]
  refine List.filterMap_congr fun f member => ?_
  rw [get?_restrictFields distinct member]
  cases Keyed.get? f.name members with
  | none => rfl
  | some v => simp only [Option.map_some, deeper f member v]

/-- **Restricting again changes nothing.** -/
theorem restrict_restrict (shape : Shape) (distinct : shape.Distinct) (v : Json) :
    shape.restrict (shape.restrict v) = shape.restrict v := by
  induction shape using Shape.induction generalizing v with
  | float note => exact asFraction_asFraction v
  | list items note ih =>
      cases v with
      | arr vs =>
          simp only [restrict, List.map_map, Json.arr.injEq]
          exact List.map_congr_left fun x _ => ih distinct x
      | _ => rfl
  | object fields note ih =>
      cases v with
      | obj members =>
          simp only [restrict, Json.obj.injEq]
          exact restrictFields_restrictFields distinct.1
            (fun f member v => ih f member (allDistinct_iff.1 distinct.2 f member) v) members
      | _ => rfl
  | _ => rfl

/-! ## The order of members, and those not declared -/

/-- A value becomes another where, in objects that stand where a shape has objects, members change
places and members that are not declared are added. -/
inductive Rearranged : Shape → Json → Json → Prop where
  | permuted {fields : List (Member Shape)} {note : Note} {ms ns : Keyed Json} (same : ms.Perm ns)
      (once : (Keyed.names ms).Nodup) : Rearranged (.object fields note) (.obj ms) (.obj ns)
  | added {fields : List (Member Shape)} {note : Note} (ms : Keyed Json) {name : String} (v : Json)
      (undeclared : name ∉ fields.map Member.name) :
      Rearranged (.object fields note) (.obj ms) (.obj (ms ++ [(name, v)]))
  | within {fields : List (Member Shape)} {note : Note} {f : Member Shape} (member : f ∈ fields)
      (before : Keyed Json) {v w : Json} (after : Keyed Json) (deeper : Rearranged f.shape v w) :
      Rearranged (.object fields note) (.obj (before ++ (f.name, v) :: after))
        (.obj (before ++ (f.name, w) :: after))
  | item {items : Shape} {note : Note} (before : List Json) {v w : Json} (after : List Json)
      (deeper : Rearranged items v w) :
      Rearranged (.list items note) (.arr (before ++ v :: after)) (.arr (before ++ w :: after))
  | refl (shape : Shape) (v : Json) : Rearranged shape v v
  | trans {shape : Shape} {u v w : Json} (first : Rearranged shape u v)
      (second : Rearranged shape v w) : Rearranged shape u w

/-- A check of fields depends on what stands under their names. -/
theorem checkFields_congr {fields : List (Member Shape)} {ms ns : Keyed Json} {model : String}
    {path : List PathStep}
    (each : ∀ f ∈ fields, checkField model path f (Keyed.get? f.name ms) =
      checkField model path f (Keyed.get? f.name ns)) :
    checkFields model path fields ms = checkFields model path fields ns := by
  induction fields with
  | nil => rfl
  | cons f rest ih =>
      rw [checkFields_cons, checkFields_cons, each f List.mem_cons_self,
        ih fun g member => each g (List.mem_cons_of_mem f member)]

/-- What a check of an object says turns on its checks of the fields. -/
theorem checkAt_object_congr {fields : List (Member Shape)} {ms ns : Keyed Json} {model : String}
    {path : List PathStep} (note : Note)
    (each : ∀ f ∈ fields, checkField model path f (Keyed.get? f.name ms) =
      checkField model path f (Keyed.get? f.name ns)) :
    (object fields note).checkAt model path (.obj ms) =
      (object fields note).checkAt model path (.obj ns) := by
  simp only [checkAt, checkFields_congr each]

/-- Null becomes nothing else, and nothing else becomes null. -/
theorem Rearranged.isNull_eq {shape : Shape} {v w : Json} (becomes : shape.Rearranged v w) :
    v.isNull = w.isNull := by
  induction becomes with
  | trans _ _ first second => exact first.trans second
  | _ => rfl

/-- An object stays one. -/
theorem Rearranged.exists_obj {shape : Shape} {ms : Keyed Json} {w : Json}
    (becomes : shape.Rearranged (.obj ms) w) : ∃ ns, w = .obj ns := by
  have kept : ∀ {shape : Shape} {v w : Json}, shape.Rearranged v w → (∃ ms, v = .obj ms) →
      ∃ ns, w = .obj ns := by
    intro shape v w becomes
    induction becomes with
    | permuted same once => exact fun _ => ⟨_, rfl⟩
    | added ms v undeclared => exact fun _ => ⟨_, rfl⟩
    | within member before after deeper => exact fun _ => ⟨_, rfl⟩
    | item before after deeper =>
        rintro ⟨ms, never⟩
        cases never
    | refl shape v => exact id
    | trans _ _ first second => exact fun object => second (first object)
  exact kept becomes ⟨ms, rfl⟩

/-- A check of items at whose places stand items checked alike. -/
theorem items_middle {check : List PathStep → Json → Checked Accepted} {v w : Json}
    (same : ∀ path, check path v = check path w) (path : List PathStep) (index : Nat)
    (before after : List Json) :
    Checked.items check path index (before ++ v :: after) =
      Checked.items check path index (before ++ w :: after) := by
  induction before generalizing index with
  | nil => simp only [List.nil_append, Checked.items, same]
  | cons x rest ih => simp only [List.cons_append, Checked.items, ih]

/-- **No check sees the order of members or those not declared.**  It takes the same values, as the
same, and reports the same of others. -/
theorem checkAt_eq_of_rearranged {shape : Shape} {v w : Json} (becomes : shape.Rearranged v w)
    (distinct : shape.Distinct) (model : String) (path : List PathStep) :
    shape.checkAt model path v = shape.checkAt model path w := by
  induction becomes generalizing model path with
  | @permuted fields note ms ns same once =>
      refine checkAt_object_congr note fun f _ => ?_
      rw [Keyed.get?_eq_of_perm same once]
  | @added fields note ms name v undeclared =>
      refine checkAt_object_congr note fun f member => ?_
      have differs : f.name ≠ name := fun is => undeclared (is ▸ List.mem_map_of_mem member)
      rw [Keyed.get?_concat_of_ne differs]
  | @within fields note f member before v w after deeper ih =>
      refine checkAt_object_congr note fun g declared => ?_
      rw [Keyed.get?_middle, Keyed.get?_middle]
      cases Keyed.get? g.name before with
      | some _ => rfl
      | none =>
          by_cases same : f.name = g.name
          · -- The names of fields are distinct, so the field that is looked up is the one that changed.
            have is : f = g := List.inj_on_of_nodup_map distinct.1 member declared same
            subst is
            have inner := ih (allDistinct_iff.1 distinct.2 f member)
            simp only [if_true, Option.none_or, checkField, deeper.isNull_eq, inner]
          · simp only [same, if_false]
  | @item items note before v w after deeper ih =>
      simp only [checkAt, items_middle (fun path => ih distinct model path)]
  | refl shape v => rfl
  | trans _ _ first second => exact (first distinct model path).trans (second distinct model path)

end Shape

end QueryTools
