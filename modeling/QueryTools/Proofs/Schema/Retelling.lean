import Mathlib.Data.List.Forall2
import QueryTools.Proofs.Schema.SelfDescription

/-!
# Constants in a schema that retells another

A query may leave out of which input objects exactly one field must be given, so a schema that retells
another may admit more constants, but none of those that fit has another value there.  The defaults of both
count the same where those of the original fit their types.

Main statements:

* `Schema.Retells.coerce` -- constants that fit have the same values;
* `Schema.Retells.declaredDefault` -- defaults that fit count the same.
-/

namespace QueryTools

/-! ## Keyed lists with the same names -/

namespace Keyed

variable {α β : Type} {R : α → β → Prop}

/-- The lists have the same names in the same order, and related values under them. -/
def Related (R : α → β → Prop) : Keyed α → Keyed β → Prop :=
  List.Forall₂ fun p q => p.1 = q.1 ∧ R p.2 q.2

namespace Related

/-- Related values put under one name leave members related. -/
theorem put {xs : Keyed α} {ys : Keyed β} (related : Related R xs ys) (name : String) {a : α} {b : β}
    (values : R a b) : Related R (Keyed.put name a xs) (Keyed.put name b ys) := by
  induction related with
  | nil => exact .cons ⟨rfl, values⟩ .nil
  | @cons p q ps qs same rest ih =>
      unfold Keyed.put
      by_cases here : p.1 = name
      · have there : q.1 = name := same.1 ▸ here
        rw [if_pos here, if_pos there]
        exact .cons ⟨same.1, values⟩ rest
      · have elsewhere : q.1 ≠ name := same.1 ▸ here
        rw [if_neg here, if_neg elsewhere]
        exact .cons same ih

/-- Related members are merged to related ones. -/
theorem merge {ps : Keyed α} {qs : Keyed β} (related : Related R ps qs) {xs : Keyed α} {ys : Keyed β}
    (before : Related R xs ys) : Related R (Keyed.merge xs ps) (Keyed.merge ys qs) := by
  induction related generalizing xs ys with
  | nil => exact before
  | @cons p q ps qs same rest ih =>
      have step := before.put p.1 same.2
      show Related R (Keyed.merge (Keyed.put p.1 p.2 xs) ps) (Keyed.merge (Keyed.put q.1 q.2 ys) qs)
      rw [← same.1]
      exact ih step

theorem ofPairs {ps : Keyed α} {qs : Keyed β} (related : Related R ps qs) :
    Related R (Keyed.ofPairs ps) (Keyed.ofPairs qs) :=
  related.merge .nil

/-- Related members have the same names. -/
theorem any_names {xs : Keyed α} {ys : Keyed β} (related : Related R xs ys) (check : String → Bool) :
    xs.any (fun p => check p.1) = ys.any fun p => check p.1 := by
  induction related with
  | nil => rfl
  | cons same rest ih => rw [List.any_cons, List.any_cons, same.1, ih]

/-- Under one name they have related values, or both have none. -/
theorem get? {xs : Keyed α} {ys : Keyed β} (related : Related R xs ys) (name : String) :
    (Keyed.get? name xs = none ∧ Keyed.get? name ys = none) ∨
      ∃ a b, Keyed.get? name xs = some a ∧ Keyed.get? name ys = some b ∧ R a b := by
  induction related with
  | nil => exact .inl ⟨rfl, rfl⟩
  | @cons p q ps qs same rest ih =>
      unfold Keyed.get?
      by_cases here : p.1 = name
      · have there : q.1 = name := same.1 ▸ here
        rw [if_pos here, if_pos there]
        exact .inr ⟨p.2, q.2, rfl, rfl, same.2⟩
      · have elsewhere : q.1 ≠ name := same.1 ▸ here
        rw [if_neg here, if_neg elsewhere]
        exact ih

end Related

end Keyed

namespace Schema

/-! ## Constants that fit -/

/-- What is known of a value is known of another too. -/
def Keeps (x y : Option Json) : Prop := ∀ v, x = some v → y = some v

/-- The fields of an input object are assembled alike from values of which no more is known. -/
theorem assemble_of_related {given given' : Keyed (Option Json)}
    (related : Keyed.Related Keeps given given') {fields : List InputValue}
    {values : List (String × Json)} (made : assemble fields given = some values) :
    assemble fields given' = some values := by
  have same := related.any_names fun name => !fields.any fun f => f.name == name
  unfold assemble at made ⊢
  rw [← same]
  split at made
  · cases made
  · rename_i belongs
    rw [if_neg belongs]
    clear same belongs
    induction fields generalizing values with
    | nil => exact made
    | cons f rest ih =>
        rw [List.foldr_cons] at made ⊢
        obtain ⟨later, assembled, made⟩ := Option.bind_eq_some_iff.1 made
        refine Option.bind_eq_some_iff.2 ⟨later, ih assembled, ?_⟩
        rcases related.get? f.name with ⟨absent, lacking⟩ | ⟨x, y, present, there, keeps⟩
        · rw [absent] at made
          rw [lacking]
          exact made
        · rw [present] at made
          rw [there]
          obtain ⟨v, fits, made⟩ := Option.bind_eq_some_iff.1 made
          exact Option.bind_eq_some_iff.2 ⟨v, keeps v fits, made⟩

namespace Retells

variable {q : Inquiry} {s s' : Schema}

theorem named? (retells : s.Retells q s') (type : TypeRef) :
    s'.named? type = (s.named? type).map q.told :=
  retells.find type.name

/-- A schema and what is told of it take the same literals for a leaf. -/
theorem coerceLeaf (retells : s.Retells q s') (name : String) (l : Literal) :
    s'.coerceLeaf name l = s.coerceLeaf name l := by
  unfold Schema.coerceLeaf
  rw [retells.find]
  cases s.find? name with
  | none => rfl
  | some t =>
      obtain ⟨name, said, form⟩ := t
      cases form <;> rfl

/-- A constant that is neither null, a list nor an object has the same value. -/
theorem map_coerceLeaf (retells : s.Retells q s') {type : TypeRef} {l : Literal} {wrap : Json → Json}
    {v : Json} (fits : (s.coerceLeaf type.name l).map wrap = some v) :
    (s'.coerceLeaf type.name l).map wrap = some v := by
  rw [retells.coerceLeaf]
  exact fits

mutual

/-- A constant that fits a type has the same value in a schema that retells the types. -/
theorem coerce (retells : s.Retells q s') {type : TypeRef} : ∀ l, Keeps (s.coerce type l) (s'.coerce type l)
  | .null => fun _ fits => fits
  | .list items => by
      intro v fits
      rw [Schema.coerce] at fits ⊢
      cases inner : type.item? with
      | none =>
          rw [inner] at fits
          exact (retells.coerceLeaf _ _).trans fits
      | some item =>
          rw [inner] at fits
          obtain ⟨vs, each, rfl⟩ := Option.map_eq_some_iff.1 fits
          exact Option.map_eq_some_iff.2 ⟨vs, coerceItems retells items vs each, rfl⟩
  | .object given => by
      intro v fits
      rw [Schema.coerce] at fits ⊢
      rw [retells.find]
      cases found : s.find? type.name with
      | none =>
          rw [found] at fits
          exact retells.map_coerceLeaf fits
      | some t =>
          rw [found] at fits
          obtain ⟨name, said, form⟩ := t
          cases form with
          | input fields oneOf =>
              obtain ⟨values, assembled, fits⟩ := Option.bind_eq_some_iff.1 fits
              have related := (coerceFields retells fields given).ofPairs
              refine Option.bind_eq_some_iff.2 ⟨values, assemble_of_related related assembled, ?_⟩
              -- The rule that a query may leave out is obeyed.
              split at fits
              · cases fits
              · rename_i obeyed
                have weaker : ¬((q.extended && oneOf) && !oneGiven values) = true := by
                  intro broken
                  simp only [Bool.and_eq_true] at broken obeyed
                  exact obeyed ⟨broken.1.2, broken.2⟩
                rw [if_neg weaker]
                exact fits
          | _ => exact retells.map_coerceLeaf fits
  | .variable _ => fun _ => retells.map_coerceLeaf
  | .int _ => fun _ => retells.map_coerceLeaf
  | .float _ => fun _ => retells.map_coerceLeaf
  | .string _ _ => fun _ => retells.map_coerceLeaf
  | .boolean _ => fun _ => retells.map_coerceLeaf
  | .enum _ => fun _ => retells.map_coerceLeaf

/-- Items that a schema takes are taken by what is told of it, as the same values. -/
theorem coerceItems (retells : s.Retells q s') {item : TypeRef} :
    ∀ items vs, s.coerceItems item items = some vs → s'.coerceItems item items = some vs
  | [], _, fits => fits
  | l :: rest, vs, fits => by
      obtain ⟨v, first, fits⟩ := Option.bind_eq_some_iff.1 fits
      obtain ⟨later, others, fits⟩ := Option.bind_eq_some_iff.1 fits
      refine Option.bind_eq_some_iff.2 ⟨v, coerce retells l v first, ?_⟩
      exact Option.bind_eq_some_iff.2 ⟨later, coerceItems retells rest later others, fits⟩

/-- What a schema makes of given fields, what is told of it makes of them as well. -/
theorem coerceFields (retells : s.Retells q s') (fields : List InputValue) :
    ∀ given, Keyed.Related Keeps (s.coerceFields fields given) (s'.coerceFields fields given)
  | [] => .nil
  | (name, l) :: rest => by
      refine .cons ⟨rfl, fun v fits => ?_⟩ (coerceFields retells fields rest)
      obtain ⟨f, found, fits⟩ := Option.bind_eq_some_iff.1 fits
      exact Option.bind_eq_some_iff.2 ⟨f, found, coerce retells l v fits⟩

end

/-- A default that fits its type counts the same. -/
theorem declaredDefault (retells : s.Retells q s') {v : InputValue}
    (fits : ∀ l, v.default = some l → (s.coerce v.type l).isSome = true) :
    s'.declaredDefault v = s.declaredDefault v := by
  unfold Schema.declaredDefault
  cases given : v.default with
  | none => rfl
  | some l =>
      obtain ⟨value, coerced⟩ := Option.isSome_iff_exists.1 (fits l given)
      show s'.coerce v.type l = s.coerce v.type l
      rw [coerced]
      exact retells.coerce l value coerced

end Retells

end Schema

end QueryTools
