import QueryTools.Proofs.Shape.Position
import QueryTools.Proofs.Shape.Restriction
import QueryTools.Schema.Source
import QueryTools.Proofs.Outcome

/-!
# A smaller budget only forgets

The shape of a type that is made with a smaller budget is the one made with a larger budget, with what
lies below the last object that the smaller budget enters forgotten (`Shape.forget`): there any value is
admitted, under the notes of what stood there.  So a smaller budget takes every value that a larger one
takes, and wherever a shape can be made with the larger one it can be made with the smaller.

Main statements:

* `Shape.forget_ofType` -- the law, by induction on the budget and, for each, on the reference;
* `Shape.exists_checkAt_iff_admits`, `Shape.admits_forget` -- whatever a shape takes is taken by what is
  left of it when something is forgotten;
* `Shape.smaller_budget_forgets` -- the law, the positions at which any value is admitted, and what is taken.
-/

namespace QueryTools

namespace Shape

/-! ## Forgetting -/

mutual

/-- The shape with everything forgotten that lies below so many levels of objects, notes apart. -/
def forget : Nat → Shape → Shape
  | 0, shape => .any shape.note
  | levels + 1, .list items note => .list (forget (levels + 1) items) note
  | levels + 1, .object fields note => .object (forgetFields levels fields) note
  | _ + 1, shape => shape

/-- The same of the shape of each field. -/
def forgetFields : Nat → List (Member Shape) → List (Member Shape)
  | _, [] => []
  | levels, ⟨name, required, shape⟩ :: rest =>
    ⟨name, required, forget levels shape⟩ :: forgetFields levels rest

end

/-- Each field forgets as its shape does. -/
theorem forgetFields_eq (levels : Nat) (fields : List (Member Shape)) :
    forgetFields levels fields = fields.map fun f => { f with shape := f.shape.forget levels } := by
  induction fields with
  | nil => rfl
  | cons f rest ih => rw [forgetFields, ih, List.map_cons]

theorem forget_zero (shape : Shape) : shape.forget 0 = .any shape.note := by
  cases shape <;> rw [forget]

/-- Notes are not forgotten. -/
theorem forget_withNote (levels : Nat) (shape : Shape) (note : Note) :
    (shape.withNote note).forget levels = (shape.forget levels).withNote note := by
  cases levels with
  | zero =>
      rw [forget_zero, forget_zero, note_withNote]
      rfl
  | succ levels => cases shape <;> simp only [withNote, forget]

/-- A scalar has nothing to forget. -/
theorem forget_ofScalar (levels : Nat) (name : String) :
    (ofScalar name).forget (levels + 1) = ofScalar name := by
  unfold ofScalar
  split <;> rfl

/-! ## The law -/

variable {s : Schema}

/-- The fields of parameters forget what the shapes of their types forget. -/
theorem forgetFields_fieldsOf {budget budget' : Nat}
    (types : ∀ type, (ofType s budget' type).forget budget = ofType s budget type)
    (ps : List Parameter) :
    forgetFields budget (fieldsOf s budget' ps) = fieldsOf s budget ps := by
  rw [forgetFields_eq, fieldsOf, fieldsOf, List.map_map]
  refine List.map_congr_left fun p _ => ?_
  have kept : ((ofType s budget' p.type).annotate p.description p.default).forget budget =
      (ofType s budget p.type).annotate p.description p.default := by
    rw [annotate, forget_withNote, types]
    rfl
  simp only [Function.comp_apply, kept]

/-- A named type forgets what the types inside it do. -/
theorem forget_ofNamed {budget budget' : Nat}
    (types : ∀ type, (ofType s budget' type).forget budget = ofType s budget type) (name : String) :
    (ofNamed s (budget' + 1) name).forget (budget + 1) = ofNamed s (budget + 1) name := by
  rw [ofNamed_succ, ofNamed_succ]
  split
  · exact forget_ofScalar budget _
  · rfl
  · rw [forget, forgetFields_fieldsOf types]
  · rfl

/-- **The shape of a type with a smaller budget** is the one with a larger budget, with what lies below the
objects that the smaller budget enters forgotten. -/
theorem forget_ofType {budget budget' : Nat} (less : budget ≤ budget') (type : TypeRef) :
    (ofType s budget' type).forget budget = ofType s budget type := by
  induction budget generalizing budget' type with
  | zero => rw [forget_zero, note_ofType, ofType_zero]
  | succ budget ih =>
      obtain ⟨more, rfl⟩ := Nat.exists_eq_add_of_le' less
      have inner := fun type => ih (Nat.le_add_left budget more) type
      induction type with
      | named name => exact forget_ofNamed inner name
      | list item same => rw [← Nat.add_assoc, ofType_list, ofType_list, forget, ← same]; rfl
      | nonNull type same => rw [ofType_nonNull, ofType_nonNull, same]

/-! ## What is taken -/

/-- A check takes just the values that have the shape. -/
theorem exists_checkAt_iff_admits (shape : Shape) (model : String) (path : List PathStep) (v : Json) :
    (∃ accepted, shape.checkAt model path v = .ok accepted) ↔ shape.admits v = true := by
  induction shape using Shape.induction generalizing model path v with
  | string choices note => exact (takes_string choices note model path v).exists_eq_ok_iff
  | int note => exact (takes_int note model path v).exists_eq_ok_iff
  | float note => exact (takes_float note model path v).exists_eq_ok_iff
  | boolean note => exact (takes_boolean note model path v).exists_eq_ok_iff
  | any note => exact (takes_any note model path v).exists_eq_ok_iff
  | list items note ih =>
      cases v with
      | arr vs =>
          have each : ∀ x ∈ vs, ∀ path, (∃ a, items.checkAt model path x = .ok a) ↔
              items.admits x = true := fun x _ path => ih model path x
          rw [exists_checkAt_list each, admits, Json.arr?, Option.any_some, List.all_eq_true]
      | _ => simp [checkAt, admits, Checked.refuse, Json.arr?]
  | object fields note ih =>
      cases v with
      | obj members =>
          rw [exists_checkAt_object, exists_checkFields_eq_ok]
          simp only [admits, Json.obj?, Option.any_some, admitsFields_eq, List.all_eq_true]
          refine forall₂_congr fun f member => ?_
          cases given : Keyed.get? f.name members with
          | none => simp [takesField]
          | some v => simp [takesField, ih f member]
      | _ => simp [checkAt, admits, Checked.refuse, Json.obj?]

/-- Where a field takes what there is, a field that takes more does. -/
theorem takesField_mono {f g : Member Shape} (same : g.required = f.required)
    {takes takes' : Json → Bool} {v? : Option Json} (taken : takesField f takes v? = true)
    (more : ∀ v, takes v = true → takes' v = true) : takesField g takes' v? = true := by
  cases v? with
  | none => rwa [takesField, same]
  | some v =>
      rw [takesField, Bool.or_eq_true] at taken ⊢
      rw [same]
      exact taken.imp_right (more v)

/-- **Forgetting refuses nothing**: what a shape admits is admitted when something is forgotten. -/
theorem admits_forget (shape : Shape) (levels : Nat) (v : Json) (taken : shape.admits v = true) :
    (shape.forget levels).admits v = true := by
  induction shape using Shape.induction generalizing levels v with
  | list items note ih =>
      cases levels with
      | zero => rw [forget_zero, admits]
      | succ levels =>
          cases v with
          | arr vs =>
              simp only [forget, admits, Json.arr?, Option.any_some, List.all_eq_true] at taken ⊢
              exact fun x member => ih (levels + 1) x (taken x member)
          | _ => cases taken
  | object fields note ih =>
      cases levels with
      | zero => rw [forget_zero, admits]
      | succ levels =>
          cases v with
          | obj members =>
              simp only [forget, admits, Json.obj?, Option.any_some, admitsFields_eq,
                forgetFields_eq, List.all_eq_true, List.forall_mem_map] at taken ⊢
              intro f member
              exact takesField_mono rfl (taken f member) (ih f member levels)
          | _ => cases taken
  | _ =>
      cases levels with
      | zero => rw [forget_zero, admits]
      | succ levels => exact taken

/-! ## What keeps shapes from being made -/

/-- What is not found with a larger budget is not found with a smaller one. -/
theorem findOfNamed?_eq_none_of_le {α : Type} {inForm : TypeForm → Option α}
    {inField : InputValue → Option α} {budget budget' : Nat} (less : budget ≤ budget') {name : String}
    (clear : findOfNamed? s inForm inField budget' name = none) :
    findOfNamed? s inForm inField budget name = none := by
  induction budget generalizing budget' name with
  | zero => rfl
  | succ budget ih =>
      obtain ⟨more, rfl⟩ := Nat.exists_eq_add_of_le' less
      rw [← Nat.add_assoc] at clear
      rw [findOfNamed?] at clear ⊢
      split
      · rename_i fields oneOf form
        simp only [form, List.findSome?_eq_none_iff, Option.or_eq_none_iff] at clear ⊢
        intro f member
        obtain ⟨here, below⟩ := clear f member
        exact ⟨here, ih (Nat.le_add_left budget more) below⟩
      · rename_i form other is
        simpa only [is] using clear
      · rfl

/-- Shapes that can be made with a larger budget can be made with a smaller one. -/
theorem obstacle?_eq_none_of_le {budget budget' : Nat} (less : budget ≤ budget') {ps : List Parameter}
    (clear : obstacle? s budget' ps = none) : obstacle? s budget ps = none := by
  rw [obstacle?, List.findSome?_eq_none_iff] at clear ⊢
  intro p member
  exact findOfNamed?_eq_none_of_le less (clear p member)

/-! ## What a smaller budget does -/

/-- At a position of a type's shape any value is admitted just where the budget is spent, or where no value
can be given for the type. -/
theorem isAny_of_at? {budget : Nat} {type u : TypeRef} {p : List Step} {shape : Shape}
    (stands : (ofType s budget type).at? p = some shape) (typed : s.typeAt? type p = some u) :
    shape.isAny = true ↔ Step.entered p = budget ∨ s.hasNoValues u = true := by
  obtain ⟨affords, -⟩ := afford_of_at? stands
  have within := Step.entered_le_of_affordable affords
  obtain ⟨note, is⟩ := at?_ofType affords typed
  cases stands.symm.trans is
  rw [isAny_withNote]
  cases left : budget - Step.entered p with
  | zero =>
      have spent : Step.entered p = budget := by omega
      exact ⟨fun _ => .inl spent, fun _ => rfl⟩
  | succ more =>
      have unspent : Step.entered p ≠ budget := by omega
      rw [isAny_ofType]
      exact ⟨.inr, fun is => is.resolve_left unspent⟩

/-- **A smaller budget only forgets.**  The shape of a type that is made with a smaller budget is the one
made with a larger, with what lies below as many objects as the smaller budget enters replaced by what
admits any value under the same notes.  It has just the positions of the type that the budget affords,
none of which enters more objects than that, and any value is admitted where the budget is spent, and
where no value can be given for the type, and nowhere else.  Where the shapes of parameters can be made
with the larger budget they can be made with the smaller, and then take all that is taken with the
larger. -/
theorem smaller_budget_forgets (s : Schema) {budget budget' : Nat} (less : budget ≤ budget') :
    (∀ type, ofType s budget type = (ofType s budget' type).forget budget) ∧
    (∀ type p, ((ofType s budget type).at? p).isSome = true ↔
      Step.affordable budget p = true ∧ (s.typeAt? type p).isSome = true) ∧
    (∀ type p shape u, (ofType s budget type).at? p = some shape → s.typeAt? type p = some u →
      Step.entered p ≤ budget ∧
        (shape.isAny = true ↔ Step.entered p = budget ∨ s.hasNoValues u = true)) ∧
    (∀ ps, obstacle? s budget' ps = none → obstacle? s budget ps = none) ∧
    ∀ ps model path v accepted, (ofParameters s budget' ps).checkAt model path v = .ok accepted →
      ∃ accepted', (ofParameters s budget ps).checkAt model path v = .ok accepted' := by
  refine ⟨fun type => (forget_ofType less type).symm, fun type p => ?_, fun type p shape u stands typed => ?_,
    fun ps => obstacle?_eq_none_of_le less, fun ps model path v accepted taken => ?_⟩
  · constructor
    · intro there
      obtain ⟨shape, stands⟩ := Option.isSome_iff_exists.1 there
      exact afford_of_at? stands
    · rintro ⟨affords, there⟩
      obtain ⟨u, typed⟩ := Option.isSome_iff_exists.1 there
      obtain ⟨note, stands⟩ := at?_ofType affords typed
      rw [stands]
      rfl
  · obtain ⟨affords, -⟩ := afford_of_at? stands
    exact ⟨Step.entered_le_of_affordable affords, isAny_of_at? stands typed⟩
  · -- Around the parameters stands one more object, which no budget pays for.
    have forgotten : ofParameters s budget ps = (ofParameters s budget' ps).forget (budget + 1) := by
      rw [ofParameters, ofParameters, forget, forgetFields_fieldsOf (forget_ofType less)]
    rw [forgotten, exists_checkAt_iff_admits]
    have admitted := (exists_checkAt_iff_admits _ model path v).1 ⟨accepted, taken⟩
    exact admits_forget _ (budget + 1) v admitted

/-- A schema with two input objects that mention each other, one of them with a list of itself. -/
def mutualText : String :=
  "type Query { f: Int } input A { again: [A!] = [] b: B! } input B { a: A = null n: Int }"

/-- With a budget of two the second object is entered and the third is not, and the default that stands for
it is kept. -/
theorem smaller_budget_forgets_mutual :
    ∃ s, Schema.parse mutualText = .ok s ∧ 2 ≤ 3 ∧
      ((ofType s 2 (.named "A")).at? [.field "b", .field "a"]).map (fun shape => shape.schema.display) =
        some "\x7b'default': None\x7d" ∧
      ofType s 2 (.named "A") = (ofType s 3 (.named "A")).forget 2 := by
  have run : ((Schema.parse mutualText).toOption.any fun s =>
      ((ofType s 2 (.named "A")).at? [.field "b", .field "a"]).map (fun shape => shape.schema.display) ==
        some "\x7b'default': None\x7d") = true := by decide +kernel
  obtain ⟨s, is, shown⟩ := (Option.any_eq_true _ _).1 run
  have less : 2 ≤ 3 := by decide
  exact ⟨s, Outcome.toOption_eq_some_iff.1 is, less, beq_iff_eq.1 shown,
    (smaller_budget_forgets s less).1 (.named "A")⟩

/-- A field of an input object may be of a type that no value can be given for.  There any value is
admitted though the budget is not spent. -/
theorem exists_any_within_budget :
    ∃ s shape, Schema.parse "type Query { f: Int } input In { p: Query }" = .ok s ∧
      (ofType s 3 (.named "In")).at? [.field "p"] = some shape ∧ shape.isAny = true ∧
      Step.entered [.field "p"] ≠ 3 := by
  have run : ((Schema.parse "type Query { f: Int } input In { p: Query }").toOption.any fun s =>
      ((ofType s 3 (.named "In")).at? [.field "p"]).any isAny) = true := by decide +kernel
  obtain ⟨s, is, held⟩ := (Option.any_eq_true _ _).1 run
  obtain ⟨shape, stands, any⟩ := (Option.any_eq_true _ _).1 held
  exact ⟨s, shape, Outcome.toOption_eq_some_iff.1 is, stands, any, by decide⟩

end Shape

end QueryTools
