import QueryTools.Tool.Document
import QueryTools.Proofs.Schema.Sound
import QueryTools.Proofs.Tool.Line

/-!
# Fields selected for an operation

`Schema.Selects` says when an entry of a selection set is valid on a type: `__typename` always is,
and a field is if the type has it, it needs no arguments, and entries are selected of it just where
its own type is an object, an interface or a union.

Main statement: `Operation.selectsAll_selectFields`, that what is selected of a type of a sound schema
is a valid selection set on it.
-/

namespace QueryTools

/-- Whether fields can be selected of a type: it is an object, an interface or a union. -/
def NamedType.isComposite (t : NamedType) : Bool :=
  match t.form with
  | .object .. | .interface .. | .union _ => true
  | _ => false

/-- The name of an entry that is a field. -/
def Selection.name? : Selection → Option String
  | .field _ name _ _ _ => some name
  | .spread _ _ => none
  | .inline _ _ _ => none

/-- An entry is valid in a selection set on a type. -/
inductive Schema.Selects (s : Schema) : NamedType → Selection → Prop where
  | typeName (t : NamedType) : s.Selects t (.field none "__typename" [] [] none)
  | leaf {t u : NamedType} {fields : List OutputField} {f : OutputField}
      (has : t.outputFields? = some fields) (member : f ∈ fields)
      (free : ∀ a ∈ f.arguments, (s.parameter a).isRequired = false)
      (inner : s.named? f.type = some u) (simple : u.isComposite = false) :
      s.Selects t (.field none f.name [] [] none)
  | node {t u : NamedType} {fields : List OutputField} {f : OutputField} {entries : List Selection}
      (has : t.outputFields? = some fields) (member : f ∈ fields)
      (free : ∀ a ∈ f.arguments, (s.parameter a).isRequired = false)
      (inner : s.named? f.type = some u) (composite : u.isComposite = true)
      (filled : entries ≠ []) (distinct : (entries.map Selection.name?).Nodup)
      (each : ∀ x ∈ entries, s.Selects u x) :
      s.Selects t (.field none f.name [] [] (some entries))

/-- Entries make a valid selection set on a type. -/
structure Schema.SelectsAll (s : Schema) (t : NamedType) (entries : List Selection) : Prop where
  filled : entries ≠ []
  distinct : (entries.map Selection.name?).Nodup
  each : ∀ x ∈ entries, s.Selects t x

/-- A leaf is not composite. -/
theorem NamedType.isComposite_of_isLeaf {t : NamedType} (leaf : t.isLeaf = true) :
    t.isComposite = false := by
  unfold isLeaf at leaf
  unfold isComposite
  cases form : t.form <;> simp [form] at leaf ⊢

/-- What has fields is composite. -/
theorem NamedType.isComposite_of_outputFields? {t : NamedType} {fields : List OutputField}
    (has : t.outputFields? = some fields) : t.isComposite = true := by
  unfold outputFields? at has
  unfold isComposite
  cases form : t.form <;> simp [form] at has ⊢

namespace Operation

/-- What is selected of a field, if anything. -/
def choice (s : Schema) (levels : Nat) (path : List String) (f : OutputField) : Option Selection :=
  match s.named? f.type with
  | none => none
  | some t =>
    if t.isLeaf then some (selected f.name none)
    else
      match t.outputFields? with
      | none => none
      | some inner =>
        match levels with
        | 0 => none
        | levels + 1 =>
          if path.contains t.name then none
          else
            let nested := selectFields s levels (t.name :: path) inner
            if isTypeNameOnly nested then none else some (selected f.name (some nested))

/-- What is selected of fields, one by one. -/
def chosen (s : Schema) (levels : Nat) (path : List String) (fields : List OutputField) :
    List Selection :=
  (fields.filter (needsNoArguments s)).filterMap (choice s levels path)

/-- What is chosen is selected, or the name of the type if that is nothing. -/
theorem selectFields_eq (s : Schema) (levels : Nat) (path : List String)
    (fields : List OutputField) :
    selectFields s levels path fields =
      if (chosen s levels path fields).isEmpty then typeNameOnly
      else chosen s levels path fields := by
  rw [selectFields]
  rfl

/-- What is selected of a field is the field alone, or with fields of its type on the next level. -/
theorem choice_eq_some {s : Schema} {levels : Nat} {path : List String} {f : OutputField}
    {x : Selection} (chooses : choice s levels path f = some x) :
    ∃ t, s.named? f.type = some t ∧
      ((t.isLeaf = true ∧ x = selected f.name none) ∨
        ∃ inner n, t.outputFields? = some inner ∧ levels = n + 1 ∧
          x = selected f.name (some (selectFields s n (t.name :: path) inner))) := by
  unfold choice at chooses
  split at chooses
  · cases chooses
  · rename_i t found
    refine ⟨t, found, ?_⟩
    split at chooses
    · rename_i leaf
      cases chooses
      exact .inl ⟨leaf, rfl⟩
    · split at chooses
      · cases chooses
      · rename_i inner has
        split at chooses
        · cases chooses
        · rename_i n
          split at chooses
          · cases chooses
          · dsimp only at chooses
            split at chooses
            · cases chooses
            · cases chooses
              exact .inr ⟨inner, n, has, rfl, rfl⟩

/-- What is chosen is the choice for a field that needs no arguments. -/
theorem mem_chosen {s : Schema} {levels : Nat} {path : List String} {fields : List OutputField}
    {x : Selection} (member : x ∈ chosen s levels path fields) :
    ∃ f ∈ fields, (∀ a ∈ f.arguments, (s.parameter a).isRequired = false) ∧
      choice s levels path f = some x := by
  obtain ⟨f, kept, chooses⟩ := List.mem_filterMap.1 member
  obtain ⟨there, free⟩ := List.mem_filter.1 kept
  refine ⟨f, there, fun a given => ?_, chooses⟩
  unfold needsNoArguments at free
  rw [Bool.not_eq_true', List.any_eq_false] at free
  exact Bool.not_eq_true _ ▸ free a given

/-- The choice for a field has its name. -/
theorem name?_of_choice {s : Schema} {levels : Nat} {path : List String} {f : OutputField}
    {x : Selection} (chooses : choice s levels path f = some x) : x.name? = some f.name := by
  obtain ⟨t, -, ⟨-, rfl⟩ | ⟨inner, n, -, -, rfl⟩⟩ := choice_eq_some chooses
  · rfl
  · rfl

/-- What is selected has names in the order of the fields. -/
theorem sublist_names_chosen (s : Schema) (levels : Nat) (path : List String)
    (fields : List OutputField) :
    ((chosen s levels path fields).map Selection.name?).Sublist
      ((fields.map OutputField.name).map some) := by
  have picked : ∀ fs : List OutputField,
      ((fs.filterMap (choice s levels path)).map Selection.name?).Sublist
        ((fs.map OutputField.name).map some) := by
    intro fs
    induction fs with
    | nil => exact List.nil_sublist _
    | cons f rest ih =>
        rw [List.filterMap_cons]
        cases chooses : choice s levels path f with
        | none => exact ih.cons _
        | some x =>
            rw [List.map_cons, name?_of_choice chooses]
            exact ih.cons_cons _
  have kept := (List.filter_sublist (l := fields) (p := needsNoArguments s)).map OutputField.name
  exact (picked _).trans (kept.map some)

/-- Where only the name of the type is selected, nothing is selected that the type lacks. -/
theorem selectsAll_typeNameOnly (s : Schema) (t : NamedType) : s.SelectsAll t typeNameOnly := by
  refine ⟨List.cons_ne_nil _ _, by simp [typeNameOnly], fun x member => ?_⟩
  rw [List.mem_singleton.1 member]
  exact .typeName t

/-- **Valid selections.**  What is selected of a type with fields is a valid selection set on it. -/
theorem selectsAll_selectFields {s : Schema} (sound : s.Sound) (levels : Nat) (path : List String)
    {t : NamedType} (fit : t.Sound s) {fields : List OutputField}
    (has : t.outputFields? = some fields) : s.SelectsAll t (selectFields s levels path fields) := by
  -- One field leads to the fields of its type with one level less.
  induction levels using Nat.strongRecOn generalizing path t fields with
  | ind levels ih =>
      rw [selectFields_eq]
      split
      · exact selectsAll_typeNameOnly s t
      · rename_i filled
        refine ⟨fun none => filled (by rw [none]; rfl), ?_, fun x member => ?_⟩
        · have distinct : (fields.map OutputField.name).Nodup := (fit fields has).1
          have names := List.Nodup.map (fun _ _ same => Option.some.inj same) distinct
          exact names.sublist (sublist_names_chosen s levels path fields)
        · obtain ⟨f, there, free, chooses⟩ := mem_chosen member
          obtain ⟨u, inner, ⟨leaf, rfl⟩ | ⟨own, n, holds, rfl, rfl⟩⟩ := choice_eq_some chooses
          · exact .leaf has there free inner (NamedType.isComposite_of_isLeaf leaf)
          · have below := ih n (Nat.lt_succ_self n) (u.name :: path) (sound _ u inner) holds
            exact .node has there free inner (NamedType.isComposite_of_outputFields? holds)
              below.filled below.distinct below.each

/-- All that is selected are fields by their names alone. -/
theorem plain_selectFields {s : Schema} (sound : s.Sound) (levels : Nat) (path : List String)
    {t : NamedType} (fit : t.Sound s) {fields : List OutputField}
    (has : t.outputFields? = some fields) : ∀ x ∈ selectFields s levels path fields, x.Plain := by
  induction levels using Nat.strongRecOn generalizing path t fields with
  | ind levels ih =>
      rw [selectFields_eq]
      split
      · intro x member
        rw [List.mem_singleton.1 member]
        exact .leaf (by decide)
      · intro x member
        obtain ⟨f, there, -, chooses⟩ := mem_chosen member
        have named := ((fit fields has).2 f there).named
        obtain ⟨u, inner, ⟨-, rfl⟩ | ⟨own, n, holds, rfl, rfl⟩⟩ := choice_eq_some chooses
        · exact .leaf named
        · exact .node named (ih n (Nat.lt_succ_self n) (u.name :: path) (sound _ u inner) holds)

end Operation

end QueryTools
