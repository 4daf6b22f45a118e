import QueryTools.Shape.Mapping
import QueryTools.Shape.Validation

/-!
# What a check gives

A check of a value either gives what was given or reports issues.  Which of the two it does turns on
the value alone, not on the path or the object around it: `Shape.Takes` says of a shape which values it
takes and what it gives for each.  The shapes of lists and objects take what their parts take
(`Shape.takes_list`, `Shape.gives_checkFields`).
-/

namespace QueryTools

namespace Checked

variable {α β : Type} {given : α → β}

/-- An outcome gives a result just where a condition holds. -/
inductive Gives (given : α → β) : Checked α → Bool → β → Prop where
  | taken (a : α) : Gives given (.ok a) true (given a)
  | refused (issues : List Issue) (w : β) : Gives given (.error issues) false w

/-- A check succeeds just if the value is taken. -/
theorem Gives.exists_eq_ok_iff {x : Checked α} {takes : Bool} {w : β} (gives : Gives given x takes w) :
    (∃ a, x = .ok a) ↔ takes = true := by
  cases gives with
  | taken a => exact ⟨fun _ => rfl, fun _ => ⟨a, rfl⟩⟩
  | refused issues w =>
      constructor
      · rintro ⟨a, never⟩
        cases never
      · intro never
        cases never

/-- What it gives then is what is sent. -/
theorem Gives.given_eq {x : Checked α} {takes : Bool} {w : β} (gives : Gives given x takes w) {a : α}
    (ok : x = .ok a) : given a = w := by
  cases gives with
  | taken b =>
      cases ok
      rfl
  | refused issues w => cases ok

/-- A list gives what its head and its tail give together, if both are taken. -/
theorem Gives.cons {γ : Type} {all : List α → γ} (join : β → γ → γ) {x : Checked α}
    {xs : Checked (List α)} {head tail : Bool} {w : β} {ws : γ} (first : Gives given x head w)
    (later : Gives all xs tail ws) (split : ∀ a as, all (a :: as) = join (given a) (all as)) :
    Gives all (Checked.cons x xs) (head && tail) (join w ws) := by
  cases first with
  | taken a =>
      cases later with
      | taken as =>
          rw [← split a as]
          exact .taken (a :: as)
      | refused issues ws => exact .refused _ _
  | refused issues w =>
      cases later with
      | taken as => exact .refused _ _
      | refused issues ws => exact .refused _ _

/-- A list gives what its items give if all of them are taken. -/
theorem gives_items {check : List PathStep → Json → Checked α} {takes : Json → Bool} {send : Json → β}
    (each : ∀ path v, Gives given (check path v) (takes v) (send v)) (path : List PathStep)
    (index : Nat) (vs : List Json) :
    Gives (List.map given) (items check path index vs) (vs.all takes) (vs.map send) := by
  induction vs generalizing index with
  | nil => exact .taken []
  | cons v rest ih => exact (each _ v).cons List.cons (ih (index + 1)) fun _ _ => rfl

end Checked

namespace Shape

open Checked (Gives)

/-- A shape takes the values for which a condition holds, and what it gives for each is known. -/
def Takes (shape : Shape) (takes : Json → Bool) (send : Json → Json) : Prop :=
  ∀ model path v, Gives Accepted.given (shape.checkAt model path v) (takes v) (send v)

variable {takes : Json → Bool} {send : Json → Json}

/-- What a shape says beside the values it takes does not matter to a check. -/
theorem checkAt_withNote (shape : Shape) (note : Note) (model : String) (path : List PathStep)
    (v : Json) : (shape.withNote note).checkAt model path v = shape.checkAt model path v := by
  cases shape <;> simp only [withNote, checkAt]

/-- A note does not change what a shape takes and sends. -/
theorem Takes.annotate {shape : Shape} (given : shape.Takes takes send)
    (description default : Option Json) : (shape.annotate description default).Takes takes send := by
  intro model path v
  rw [Shape.annotate, checkAt_withNote]
  exact given model path v

theorem takes_any (note : Note) : (any note).Takes (fun _ => true) id := by
  intro model path v
  exact .taken (Accepted.whole v)

/-- Truth values are taken as they are. -/
theorem takes_boolean (note : Note) : (boolean note).Takes (fun v => v.bool?.isSome) id := by
  intro model path v
  cases v with
  | bool b => exact .taken (Accepted.whole (.bool b))
  | _ => exact .refused _ _

/-- Whole numbers are taken as they are. -/
theorem takes_int (note : Note) : (int note).Takes (fun v => v.int?.isSome) id := by
  intro model path v
  cases v with
  | int n => exact .taken (Accepted.whole (.int n))
  | _ => exact .refused _ _

/-- The whole number of a value as a fraction; other values as they are. -/
def asFraction : Json → Json
  | .int n => .float (Double.ofInt n)
  | v => v

/-- Whether a value is a number, a whole one in the range of fractions. -/
def isFraction : Json → Bool
  | .int n => (Double.ofInt n).isFinite
  | .float _ => true
  | _ => false

/-- Numbers are taken as fractions. -/
theorem takes_float (note : Note) : (float note).Takes isFraction asFraction := by
  intro model path v
  cases v with
  | float x => exact .taken (Accepted.whole (.float x))
  | int n =>
      simp only [checkAt, isFraction]
      cases (Double.ofInt n).isFinite with
      | true => exact .taken (Accepted.whole (.float (Double.ofInt n)))
      | false => exact .refused _ _
  | _ => exact .refused _ _

/-- Texts are taken as they are, if there is no choice or they are one of it. -/
theorem takes_string (choices : List String) (note : Note) :
    (string choices note).Takes
      (fun v => v.str?.any fun text => choices.isEmpty || choices.contains text) id := by
  intro model path v
  simp only [checkAt]
  cases choices.isEmpty with
  | true =>
      cases v with
      | str text => exact .taken (Accepted.whole (.str text))
      | _ => exact .refused _ _
  | false =>
      cases v with
      | str text =>
          simp only [Json.str?, Option.any_some, Bool.false_or]
          cases choices.contains text with
          | true => exact .taken (Accepted.whole (.str text))
          | false => exact .refused _ _
      | _ => exact .refused _ _

/-- The items of a list changed; other values as they are. -/
def sendItems (send : Json → Json) : Json → Json
  | .arr vs => .arr (vs.map send)
  | v => v

/-- Lists are taken if each item is. -/
theorem takes_list {items : Shape} (each : items.Takes takes send) (note : Note) :
    (list items note).Takes (fun v => v.arr?.any fun vs => vs.all takes) (sendItems send) := by
  intro model path v
  cases v with
  | arr vs =>
      have all := Checked.gives_items (each model) path 0 vs
      simp only [checkAt, Json.arr?, Option.any_some, sendItems]
      generalize Checked.items (fun path v => checkAt model path items v) path 0 vs = outcome at all ⊢
      generalize vs.all takes = taken, vs.map send = sent at all ⊢
      cases all with
      | taken accepted => exact .taken (Accepted.mk (.arr _) (.arr _))
      | refused issues sent => exact .refused _ _
  | _ => exact .refused _ _

/-! ## Objects -/

/-- The value given for a field, under its name. -/
def givenPair (f : CheckedField) : Option (String × Json) := f.given.map fun v => (f.name, v)

/-- Whether a field takes what an object has for it. -/
def takesField (f : Member Shape) (takes : Json → Bool) : Option Json → Bool
  | none => !f.required
  | some v => (!f.required && v.isNull) || takes v

/-- The check of one field of an object, given what the object has for it. -/
def checkField (model : String) (path : List PathStep) (f : Member Shape) :
    Option Json → Checked CheckedField
  | none => checkMissing path f
  | some v =>
    if !f.required && v.isNull then .ok { name := f.name, given := some .null, full := .null }
    else
      match checkAt (model ++ "__" ++ f.name) (path ++ [.name f.name]) f.shape v with
      | .ok a => .ok { name := f.name, given := some a.given, full := a.full }
      | .error es => .error es

/-- Fields are checked one by one. -/
theorem checkFields_cons (model : String) (path : List PathStep) (f : Member Shape)
    (rest : List (Member Shape)) (members : List (String × Json)) :
    checkFields model path (f :: rest) members =
      Checked.cons (checkField model path f (Keyed.get? f.name members))
        (checkFields model path rest members) := by
  rw [checkFields]
  cases Keyed.get? f.name members <;> rfl

/-- A field gives what its shape gives; null gives null. -/
theorem gives_checkField {f : Member Shape} (each : f.shape.Takes takes send)
    (null : send .null = .null) (model : String) (path : List PathStep) (v? : Option Json) :
    Gives givenPair (checkField model path f v?) (takesField f takes v?)
      (v?.map fun v => (f.name, send v)) := by
  cases v? with
  | none =>
      simp only [checkField, checkMissing, takesField]
      cases f.required with
      | true => exact .refused _ _
      | false => exact .taken (CheckedField.mk f.name none _)
  | some v =>
      simp only [checkField, takesField, Option.map_some]
      cases dropped : (!f.required && v.isNull) with
      | true =>
          have is : v = .null := by
            cases v <;> simp_all [Json.isNull]
          rw [is, null]
          exact .taken (CheckedField.mk f.name (some .null) .null)
      | false =>
          have here := each (model ++ "__" ++ f.name) (path ++ [.name f.name]) v
          generalize checkAt (model ++ "__" ++ f.name) (path ++ [.name f.name]) f.shape v = outcome at here ⊢
          generalize takes v = taken, send v = sent at here ⊢
          cases here with
          | taken a => exact .taken (CheckedField.mk f.name (some a.given) a.full)
          | refused issues sent => exact .refused _ _

/-- The fields of an object give what each of them gives if all of them take what is there. -/
theorem gives_checkFields {α : Type} (field : α → Member Shape) (takes : α → Json → Bool)
    (send : α → Json → Json) {ps : List α} (each : ∀ p ∈ ps, (field p).shape.Takes (takes p) (send p))
    (null : ∀ p ∈ ps, send p .null = .null) (model : String) (path : List PathStep)
    (members : Keyed Json) :
    Gives (List.filterMap givenPair) (checkFields model path (ps.map field) members)
      (ps.all fun p => takesField (field p) (takes p) (Keyed.get? (field p).name members))
      (ps.filterMap fun p =>
        (Keyed.get? (field p).name members).map fun v => ((field p).name, send p v)) := by
  induction ps with
  | nil => exact .taken []
  | cons p rest ih =>
      have first := gives_checkField (each p List.mem_cons_self) (null p List.mem_cons_self) model path
        (Keyed.get? (field p).name members)
      have later := ih (fun q member => each q (List.mem_cons_of_mem p member))
        fun q member => null q (List.mem_cons_of_mem p member)
      have both := first.cons (fun pair pairs => pair.toList ++ pairs) later fun f fs => by
        cases given : givenPair f <;> simp [given]
      rw [List.map_cons, checkFields_cons, List.all_cons, List.filterMap_cons]
      generalize Keyed.get? (field p).name members = v? at both ⊢
      cases v? with
      | none => exact both
      | some v => exact both

/-- An object gives the values of its fields under their names. -/
theorem gives_object {fields : List (Member Shape)} {members : Keyed Json} {model : String}
    {path : List PathStep} {takes : Bool} {pairs : List (String × Json)}
    (all : Gives (List.filterMap givenPair) (checkFields model path fields members) takes pairs)
    (note : Note) :
    Gives Accepted.given ((object fields note).checkAt model path (.obj members)) takes
      (.obj (Keyed.ofPairs pairs)) := by
  rw [checkAt]
  generalize checkFields model path fields members = outcome at all ⊢
  cases all with
  | taken checked => exact .taken (assemble checked)
  | refused issues pairs => exact .refused _ _

end Shape

end QueryTools
