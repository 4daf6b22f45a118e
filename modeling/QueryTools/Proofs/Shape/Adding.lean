import QueryTools.Proofs.Shape.Forgetting

/-!
# Adding a member

A value becomes another where one member is added to an object inside it (`Json.Adds`).  Where the shape
has a field for the member, the shape takes the larger value just where it takes the rest and the field
takes what was added, and the smaller one just where it takes the rest and the field need not be given
(`Shape.admits_of_adds`).  The restriction of the larger value has what was added in the same place, and
nothing else that the restriction of the smaller lacks (`Shape.adds_restrict`).
-/

namespace QueryTools

/-- A value becomes another where a member is added to an object at a position. -/
inductive Json.Adds (name : String) (x : Json) : List Step → Json → Json → Prop where
  | here {before after : Keyed Json} (first : name ∉ Keyed.names before)
      (last : name ∉ Keyed.names after) :
      Adds name x [] (.obj (before ++ after)) (.obj (before ++ (name, x) :: after))
  | field {p : List Step} {v w : Json} {within : String} {before : Keyed Json} (after : Keyed Json)
      (first : within ∉ Keyed.names before) (deeper : Adds name x p v w) :
      Adds name x (.field within :: p) (.obj (before ++ (within, v) :: after))
        (.obj (before ++ (within, w) :: after))
  | item {p : List Step} {v w : Json} (before after : List Json) (deeper : Adds name x p v w) :
      Adds name x (.item :: p) (.arr (before ++ v :: after)) (.arr (before ++ w :: after))

namespace Json.Adds

variable {name : String} {x v w : Json} {p : List Step}

/-- Null is neither added to nor made. -/
theorem isNull_eq_false (adds : Adds name x p v w) : v.isNull = false ∧ w.isNull = false := by
  cases adds <;> exact ⟨rfl, rfl⟩

end Json.Adds

namespace Keyed

variable {α : Type}

/-- A pair that is added is seen under its own name only. -/
theorem get?_middle_of_ne {name other : String} (differs : other ≠ name) (value : α)
    (before after : Keyed α) :
    get? other (before ++ (name, value) :: after) = get? other (before ++ after) := by
  rw [get?_middle, if_neg differs.symm, get?_append]

/-- A pair is what its name is looked up as if the name does not stand before it. -/
theorem get?_middle_self {name : String} {before : Keyed α} (first : name ∉ names before) (value : α)
    (after : Keyed α) : get? name (before ++ (name, value) :: after) = some value := by
  rw [get?_middle, get?_eq_none_iff.2 first, if_pos rfl, Option.none_or]

/-- What neither of two lists names is not found in both together. -/
theorem get?_append_of_not_mem {name : String} {xs ys : Keyed α} (first : name ∉ names xs)
    (last : name ∉ names ys) : get? name (xs ++ ys) = none := by
  rw [get?_append, get?_eq_none_iff.2 first, get?_eq_none_iff.2 last, Option.none_or]

end Keyed

namespace Shape

/-! ## What is taken -/

/-- Of fields with different names all do something where one does and the others do. -/
theorem all_eq_and {fields : List (Member Shape)} {f : Member Shape} (member : f ∈ fields)
    (distinct : (fields.map Member.name).Nodup) (does : Member Shape → Bool) :
    fields.all does = (fields.all (fun g => g.name == f.name || does g) && does f) := by
  rw [Bool.eq_iff_iff, Bool.and_eq_true, List.all_eq_true, List.all_eq_true]
  constructor
  · intro all
    exact ⟨fun g there => Bool.or_eq_true_iff.2 (.inr (all g there)), all f member⟩
  · rintro ⟨others, this⟩ g there
    rcases Bool.or_eq_true_iff.1 (others g there) with same | held
    · have is : g = f := List.inj_on_of_nodup_map distinct there member (beq_iff_eq.1 same)
      exact is ▸ this
    · exact held

/-- What the other fields take does not turn on the member of one. -/
theorem all_others_congr {fields : List (Member Shape)} {name : String} {ms ns : Keyed Json}
    (same : ∀ other, other ≠ name → Keyed.get? other ms = Keyed.get? other ns) :
    (fields.all fun g => g.name == name || takesField g g.shape.admits (Keyed.get? g.name ms)) =
      fields.all fun g => g.name == name || takesField g g.shape.admits (Keyed.get? g.name ns) := by
  congr 1
  funext g
  by_cases own : g.name = name
  · rw [own, beq_self_eq_true, Bool.true_or, Bool.true_or]
  · rw [same g.name own]

/-- **Adding the member of a field.**  Whether the rest is taken decides of both values, together with
whether the field has to be given and whether it takes what is added. -/
theorem admits_of_adds {shape : Shape} (distinct : shape.Distinct) {p : List Step}
    {fields : List (Member Shape)} {note : Note} (stands : shape.at? p = some (.object fields note))
    {f : Member Shape} (member : f ∈ fields) {x v w : Json} (adds : Json.Adds f.name x p v w) :
    ∃ rest, shape.admits v = (rest && !f.required) ∧
      shape.admits w = (rest && takesField f f.shape.admits (some x)) := by
  induction adds generalizing shape with
  | @here before after first last =>
      cases stands
      have unnamed : ∀ other, other ≠ f.name → Keyed.get? other (before ++ (f.name, x) :: after) =
          Keyed.get? other (before ++ after) := fun other differs =>
        Keyed.get?_middle_of_ne differs x before after
      refine ⟨fields.all fun g => g.name == f.name ||
        takesField g g.shape.admits (Keyed.get? g.name (before ++ after)), ?_, ?_⟩
      · rw [admits, Json.obj?, Option.any_some, admitsFields_eq, all_eq_and member distinct.1,
          Keyed.get?_append_of_not_mem first last, takesField]
      · rw [admits, Json.obj?, Option.any_some, admitsFields_eq, all_eq_and member distinct.1,
          all_others_congr unnamed, Keyed.get?_middle_self first]
  | @field p v w within before after first deeper ih =>
      obtain ⟨outer, own, g, rfl, there, rfl, inner⟩ := exists_object_of_at? stands
      obtain ⟨rest, without, added⟩ := ih (allDistinct_iff.1 distinct.2 g there) inner
      -- An object and its members are no nulls, so the field takes them where its shape does.
      obtain ⟨present, present'⟩ := deeper.isNull_eq_false
      have unnamed : ∀ other, other ≠ g.name → Keyed.get? other (before ++ (g.name, w) :: after) =
          Keyed.get? other (before ++ (g.name, v) :: after) := fun other differs => by
        rw [Keyed.get?_middle_of_ne differs, Keyed.get?_middle_of_ne differs]
      refine ⟨(outer.all fun h => h.name == g.name ||
        takesField h h.shape.admits (Keyed.get? h.name (before ++ (g.name, v) :: after))) && rest, ?_, ?_⟩
      · rw [admits, Json.obj?, Option.any_some, admitsFields_eq, all_eq_and there distinct.1,
          Keyed.get?_middle_self first, takesField, present, Bool.and_false, Bool.false_or, without,
          Bool.and_assoc]
      · rw [admits, Json.obj?, Option.any_some, admitsFields_eq, all_eq_and there distinct.1,
          all_others_congr unnamed, Keyed.get?_middle_self first, takesField, present', Bool.and_false,
          Bool.false_or, added, Bool.and_assoc]
  | @item p v w before after deeper ih =>
      obtain ⟨items, own, rfl, inner⟩ := exists_list_of_at? stands
      have inside : items.Distinct := distinct
      obtain ⟨rest, without, added⟩ := ih inside inner
      refine ⟨before.all (admits items) && after.all (admits items) && rest, ?_, ?_⟩
      · simp only [admits, Json.arr?, Option.any_some, List.all_append, List.all_cons, without]
        ac_rfl
      · simp only [admits, Json.arr?, Option.any_some, List.all_append, List.all_cons, added]
        ac_rfl

/-! ## What is left -/

/-- What is left of members is that of the fields before one, of the one, and of those after it. -/
theorem restrictFields_middle (before : List (Member Shape)) (f : Member Shape)
    (after : List (Member Shape)) (members : Keyed Json) :
    restrictFields (before ++ f :: after) members = restrictFields before members ++
      ((Keyed.get? f.name members).map fun v => (f.name, f.shape.restrict v)).toList ++
        restrictFields after members := by
  simp only [restrictFields_eq, List.filterMap_append, List.filterMap_cons]
  cases Keyed.get? f.name members <;> simp

/-- What is left of members does not turn on those of no field. -/
theorem restrictFields_congr {fields : List (Member Shape)} {ms ns : Keyed Json}
    (same : ∀ f ∈ fields, Keyed.get? f.name ms = Keyed.get? f.name ns) :
    restrictFields fields ms = restrictFields fields ns := by
  rw [restrictFields_eq, restrictFields_eq]
  refine List.filterMap_congr fun f member => ?_
  rw [same f member]

/-- A field among others with different names has them before and after it. -/
theorem exists_split {fields : List (Member Shape)} (distinct : (fields.map Member.name).Nodup)
    {f : Member Shape} (member : f ∈ fields) :
    ∃ before after, fields = before ++ f :: after ∧ (∀ g ∈ before, g.name ≠ f.name) ∧
      ∀ g ∈ after, g.name ≠ f.name := by
  obtain ⟨before, after, rfl⟩ := List.append_of_mem member
  have rotated : ((f :: (before ++ after)).map Member.name).Nodup :=
    (List.perm_middle.map Member.name).nodup_iff.1 distinct
  have apart : ∀ g ∈ before ++ after, g.name ≠ f.name := fun g there same =>
    (List.nodup_cons.1 rotated).1 (same ▸ List.mem_map_of_mem there)
  exact ⟨before, after, rfl, fun g there => apart g (List.mem_append_left after there),
    fun g there => apart g (List.mem_append_right before there)⟩

/-- No name is left but those of fields. -/
theorem not_mem_names_restrictFields {fields : List (Member Shape)} {name : String}
    (other : ∀ g ∈ fields, g.name ≠ name) (members : Keyed Json) :
    name ∉ Keyed.names (restrictFields fields members) := by
  rw [names_restrictFields]
  intro there
  obtain ⟨g, member, same⟩ := List.mem_map.1 (List.mem_filter.1 there).1
  exact other g member same

/-- **What is left of an added member** stands in the same place as the member, and nothing else is
new. -/
theorem adds_restrict {shape : Shape} (distinct : shape.Distinct) {p : List Step}
    {fields : List (Member Shape)} {note : Note} (stands : shape.at? p = some (.object fields note))
    {f : Member Shape} (member : f ∈ fields) {x v w : Json} (adds : Json.Adds f.name x p v w) :
    Json.Adds f.name (f.shape.restrict x) p (shape.restrict v) (shape.restrict w) := by
  induction adds generalizing shape with
  | @here before after first last =>
      cases stands
      obtain ⟨earlier, later, rfl, earlierDiffers, laterDiffers⟩ := exists_split distinct.1 member
      have unseen : ∀ part : List (Member Shape), (∀ g ∈ part, g.name ≠ f.name) →
          restrictFields part (before ++ (f.name, x) :: after) = restrictFields part (before ++ after) :=
        fun part others => restrictFields_congr fun g there =>
          Keyed.get?_middle_of_ne (others g there) x before after
      rw [restrict, restrict, restrictFields_middle, restrictFields_middle, unseen earlier earlierDiffers,
        unseen later laterDiffers, Keyed.get?_append_of_not_mem first last, Keyed.get?_middle_self first]
      simp only [Option.map_none, Option.map_some, Option.toList_none, Option.toList_some,
        List.append_nil, List.append_assoc, List.singleton_append]
      exact .here (not_mem_names_restrictFields earlierDiffers _)
        (not_mem_names_restrictFields laterDiffers _)
  | @field p v w within before after first deeper ih =>
      obtain ⟨outer, own, g, rfl, there, rfl, inner⟩ := exists_object_of_at? stands
      have below := ih (allDistinct_iff.1 distinct.2 g there) inner
      obtain ⟨earlier, later, rfl, earlierDiffers, laterDiffers⟩ := exists_split distinct.1 there
      have unseen : ∀ part : List (Member Shape), (∀ h ∈ part, h.name ≠ g.name) →
          restrictFields part (before ++ (g.name, w) :: after) =
            restrictFields part (before ++ (g.name, v) :: after) :=
        fun part others => restrictFields_congr fun h there => by
          rw [Keyed.get?_middle_of_ne (others h there), Keyed.get?_middle_of_ne (others h there)]
      rw [restrict, restrict, restrictFields_middle, restrictFields_middle, unseen earlier earlierDiffers,
        unseen later laterDiffers, Keyed.get?_middle_self first, Keyed.get?_middle_self first]
      simp only [Option.map_some, Option.toList_some, List.append_assoc, List.singleton_append]
      exact .field _ (not_mem_names_restrictFields earlierDiffers _) below
  | @item p v w before after deeper ih =>
      obtain ⟨items, own, rfl, inner⟩ := exists_list_of_at? stands
      have inside : items.Distinct := distinct
      simp only [restrict, List.map_append, List.map_cons]
      exact .item _ _ (ih inside inner)

/-! ## Every shape takes something -/

mutual

/-- A value that the shape takes. -/
def sample : Shape → Json
  | .string choices _ => .str (choices.headD "")
  | .int _ => .int 0
  | .float _ => .int 0
  | .boolean _ => .bool false
  | .any _ => .null
  | .list _ _ => .arr []
  | .object fields _ => .obj (sampleFields fields)

/-- Members that fields take. -/
def sampleFields : List (Member Shape) → List (String × Json)
  | [] => []
  | ⟨name, _, shape⟩ :: rest => (name, sample shape) :: sampleFields rest

end

/-- A sample has each field with a sample of its shape. -/
theorem sampleFields_eq (fields : List (Member Shape)) :
    sampleFields fields = fields.map fun f => (f.name, f.shape.sample) := by
  induction fields with
  | nil => rfl
  | cons f rest ih => rw [sampleFields, ih, List.map_cons]

/-- No name is among the samples of fields but those of the fields. -/
theorem not_mem_names_samples {fields : List (Member Shape)} {name : String}
    (other : ∀ g ∈ fields, g.name ≠ name) :
    name ∉ Keyed.names (fields.map fun f => (f.name, f.shape.sample)) := by
  intro there
  rw [Keyed.names, List.map_map] at there
  obtain ⟨g, member, same⟩ := List.mem_map.1 there
  exact other g member same

/-- An object that has for each field what the field's shape takes is taken. -/
theorem admits_object {fields : List (Member Shape)} (note : Note) {members : Keyed Json}
    (distinct : (Keyed.names members).Nodup)
    (each : ∀ f ∈ fields, ∃ v, (f.name, v) ∈ members ∧ f.shape.admits v = true) :
    (object fields note).admits (.obj members) = true := by
  rw [admits, Json.obj?, Option.any_some, admitsFields_eq, List.all_eq_true]
  intro f member
  obtain ⟨v, there, taken⟩ := each f member
  rw [Keyed.get?_of_mem distinct there, takesField, taken, Bool.or_true]

/-- A shape admits its sample. -/
theorem admits_sample (shape : Shape) (distinct : shape.Distinct) : shape.admits shape.sample = true := by
  induction shape using Shape.induction with
  | string choices note =>
      cases choices with
      | nil => rfl
      | cons choice rest => simp [admits, sample, Json.str?]
  | float note =>
      rw [sample, admits]
      decide +kernel
  | object fields note ih =>
      rw [sample, sampleFields_eq]
      refine admits_object note ?_ fun f member => ?_
      · rw [Keyed.names, List.map_map]
        exact distinct.1
      · exact ⟨_, List.mem_map_of_mem member, ih f member (allDistinct_iff.1 distinct.2 f member)⟩
  | _ => simp [admits, sample, Json.int?, Json.bool?, Json.arr?]

/-- The member of each field of an object in a shape can be added to some value, and taken. -/
theorem exists_adds {shape : Shape} (distinct : shape.Distinct) {p : List Step}
    {fields : List (Member Shape)} {note : Note} (stands : shape.at? p = some (.object fields note))
    {f : Member Shape} (member : f ∈ fields) :
    ∃ x v w, Json.Adds f.name x p v w ∧ shape.admits w = true := by
  induction p generalizing shape with
  | nil =>
      cases stands
      have taken := admits_sample (object fields note) distinct
      obtain ⟨before, after, rfl, earlier, later⟩ := exists_split distinct.1 member
      rw [sample, sampleFields_eq, List.map_append, List.map_cons] at taken
      exact ⟨f.shape.sample, _, _, .here (not_mem_names_samples earlier) (not_mem_names_samples later),
        taken⟩
  | cons step p ih =>
      cases step with
      | item =>
          obtain ⟨items, own, rfl, inner⟩ := exists_list_of_at? stands
          have inside : items.Distinct := distinct
          obtain ⟨x, v, w, adds, taken⟩ := ih inside inner
          refine ⟨x, _, _, .item [] [] adds, ?_⟩
          rw [admits, Json.arr?, Option.any_some, List.nil_append, List.all_cons, taken]
          rfl
      | field name =>
          obtain ⟨outer, own, g, rfl, there, rfl, inner⟩ := exists_object_of_at? stands
          have inside := allDistinct_iff.1 distinct.2
          obtain ⟨x, v, w, adds, taken⟩ := ih (inside g there) inner
          obtain ⟨before, after, rfl, earlier, -⟩ := exists_split distinct.1 there
          let later : Keyed Json := after.map fun h => (h.name, h.shape.sample)
          refine ⟨x, _, _, .field later (not_mem_names_samples earlier) adds,
            admits_object own ?_ fun h member => ?_⟩
          · simpa [Keyed.names, later, Function.comp_def] using distinct.1
          · rcases List.mem_append.1 member with early | later
            · exact ⟨_, List.mem_append_left _ (List.mem_map_of_mem early),
                admits_sample h.shape (inside h member)⟩
            · rcases List.mem_cons.1 later with rfl | later
              · exact ⟨w, List.mem_append_right _ List.mem_cons_self, taken⟩
              · exact ⟨_, List.mem_append_right _
                  (List.mem_cons_of_mem _ (List.mem_map_of_mem later)),
                  admits_sample h.shape (inside h member)⟩

end Shape

end QueryTools
