import QueryTools.Tool.Basic
import QueryTools.Json.Conformance
import QueryTools.Proofs.Keyed
import QueryTools.Proofs.Number.Range

/-!
# The two readings of a shape

A shape says twice which values it takes: `Shape.checkAt` checks them, and `Shape.schema` is a JSON
Schema for clients.  `Json.satisfies` says what the keywords of such a schema mean when a number
counts as an integer only where it is written as one.  The two readings differ in one thing: null
may stand for an optional field in a check, and need not fit the field's schema.  `Shape.prune` takes
such nulls out.

* `Shape.checkAt_ok_iff` -- a shape takes a value just where the pruned value satisfies the schema;
* `Shape.satisfies_prune` -- pruning keeps a value that satisfies the schema;
* `Shape.readings_agree` -- the first, and that no tool refuses what satisfies the schema it tells.
-/

namespace QueryTools

/-! ## What a schema means -/

namespace Json

/-- Whether a value is of the type with a name, a number being an integer where it is written as
one. -/
def isOf (type : String) (v : Json) : Bool :=
  match type, v with
  | "null", .null | "boolean", .bool _ | "integer", .int _ | "number", .int _ | "number", .float _
  | "string", .str _ | "array", .arr _ | "object", .obj _ => true
  | _, _ => false

mutual

/-- Whether a value does what each keyword of a schema asks. -/
def satisfies (v : Json) : Json → Bool
  | .obj keywords => satisfiesAll v keywords
  | _ => true

/-- Whether a value does what keywords ask.  Each asks something only of the values that it is
about. -/
def satisfiesAll (v : Json) : List (String × Json) → Bool
  | [] => true
  | (keyword, rule) :: rest =>
    (match keyword, rule, v with
      | "type", .str type, v => v.isOf type
      | "enum", choices, v => isAmong choices v
      | "items", schema, .arr items => items.all fun item => satisfies item schema
      | "properties", .obj schemas, .obj members => membersSatisfy members schemas
      | "required", .arr names, .obj members =>
        names.all fun name => name.str?.all fun name => Keyed.has name members
      | _, _, _ => true) && satisfiesAll v rest

/-- Whether the members of an object satisfy the schemas under their names. -/
def membersSatisfy (members : List (String × Json)) : List (String × Json) → Bool
  | [] => true
  | (name, schema) :: rest =>
    (Keyed.get? name members).all (fun v => satisfies v schema) && membersSatisfy members rest

end

/-- Whether a value does what one keyword asks. -/
def obeys (v : Json) (keyword : String) (rule : Json) : Bool :=
  match keyword, rule, v with
  | "type", .str type, v => v.isOf type
  | "enum", choices, v => isAmong choices v
  | "items", schema, .arr items => items.all fun item => satisfies item schema
  | "properties", .obj schemas, .obj members => membersSatisfy members schemas
  | "required", .arr names, .obj members =>
    names.all fun name => name.str?.all fun name => Keyed.has name members
  | _, _, _ => true

/-- A schema asks what each of its keywords asks. -/
theorem satisfiesAll_iff {v : Json} {keywords : List (String × Json)} :
    v.satisfiesAll keywords = true ↔ ∀ k ∈ keywords, v.obeys k.1 k.2 = true := by
  induction keywords with
  | nil => simp [satisfiesAll]
  | cons k rest ih =>
      have first : v.satisfiesAll (k :: rest) = (v.obeys k.1 k.2 && v.satisfiesAll rest) := by
        rw [satisfiesAll.eq_def]
        rfl
      rw [first, Bool.and_eq_true, ih, List.forall_mem_cons]

/-- Members satisfy schemas just if each that is there satisfies its own. -/
theorem membersSatisfy_iff {members schemas : List (String × Json)} :
    membersSatisfy members schemas = true ↔
      ∀ p ∈ schemas, ∀ v, Keyed.get? p.1 members = some v → v.satisfies p.2 = true := by
  induction schemas with
  | nil => simp [membersSatisfy]
  | cons p rest ih =>
      rw [membersSatisfy, Bool.and_eq_true, ih, List.forall_mem_cons]
      refine and_congr ?_ Iff.rfl
      cases Keyed.get? p.1 members with
      | none => simp
      | some v => simp

end Json

namespace Shape

/-- Induction over shapes: for an object with a hypothesis for each of its fields. -/
theorem induction {motive : Shape → Prop}
    (string : ∀ choices note, motive (.string choices note))
    (int : ∀ note, motive (.int note))
    (float : ∀ note, motive (.float note))
    (boolean : ∀ note, motive (.boolean note))
    (any : ∀ note, motive (.any note))
    (list : ∀ items note, motive items → motive (.list items note))
    (object : ∀ fields note, (∀ f ∈ fields, motive f.shape) → motive (.object fields note)) :
    ∀ shape, motive shape := by
  refine @Shape.rec motive (fun fields => ∀ f ∈ fields, motive f.shape) (fun f => motive f.shape)
    string int float boolean any list object ?_ ?_ ?_
  · intro f member
    cases member
  · intro f rest ihf ihrest g member
    rcases List.mem_cons.1 member with rfl | later
    · exact ihf
    · exact ihrest g later
  · intro name required shape ih
    exact ih

/-! ## What the schema of a shape means -/

/-- Every value obeys the keywords of a note. -/
theorem obeys_of_mem_noteMembers {note : Note} {k : String × Json} (member : k ∈ noteMembers note)
    (v : Json) : v.obeys k.1 k.2 = true := by
  have known : k.1 = "description" ∨ k.1 = "default" := by
    unfold noteMembers at member
    rcases List.mem_append.1 member with said | default
    · left
      cases description : note.description with
      | none => simp [description] at said
      | some text =>
          simp only [description] at said
          split at said
          · rw [List.mem_singleton.1 said]
          · cases said
    · right
      cases stands : note.default with
      | none => simp [stands] at default
      | some value =>
          simp only [stands, List.mem_singleton] at default
          rw [default]
  obtain ⟨keyword, rule⟩ := k
  rcases known with rfl | rfl <;> cases v <;> rfl

/-- Notes ask nothing of a value. -/
theorem satisfies_noted (v : Json) (keywords : List (String × Json)) (note : Note) :
    v.satisfies (.obj (keywords ++ noteMembers note)) = true ↔
      ∀ k ∈ keywords, v.obeys k.1 k.2 = true := by
  rw [Json.satisfies, Json.satisfiesAll_iff]
  constructor
  · intro h k member
    exact h k (List.mem_append_left _ member)
  · intro h k member
    rcases List.mem_append.1 member with asked | noted
    · exact h k asked
    · exact obeys_of_mem_noteMembers noted v

/-- The schema of a shape that is only a type asks for the type. -/
theorem satisfies_typed {v : Json} {type : String} {note : Note} :
    v.satisfies (.obj (("type", .str type) :: noteMembers note)) = true ↔ v.isOf type = true := by
  have asked := satisfies_noted v [("type", .str type)] note
  simpa [Json.obeys] using asked

/-- Texts satisfy the schema of texts, those of its choice if it has one. -/
theorem satisfies_schema_string {v : Json} {choices : List String} {note : Note} :
    v.satisfies (Shape.string choices note).schema = true ↔
      ∃ s, v = .str s ∧ (choices ≠ [] → s ∈ choices) := by
  rw [schema, satisfies_noted]
  cases v with
  | str s =>
      by_cases free : choices = []
      · simp [free, Json.obeys, Json.isOf]
      · simp [free, Json.obeys, Json.isOf, Json.isAmong, Json.ofStrings, Json.arr?, Json.str?]
  | _ => simp [Json.obeys, Json.isOf]

/-- Lists satisfy the schema of lists, if each item satisfies that of items. -/
theorem satisfies_schema_list {v : Json} {items : Shape} {note : Note} :
    v.satisfies (Shape.list items note).schema = true ↔
      ∃ vs, v = .arr vs ∧ ∀ x ∈ vs, x.satisfies items.schema = true := by
  have asked := satisfies_noted v [("type", .str "array"), ("items", items.schema)] note
  rw [schema]
  refine asked.trans ?_
  cases v <;> simp [Json.obeys, Json.isOf]

/-- The properties are the schemas of the fields under their names. -/
theorem properties_eq_map (fields : List (Member Shape)) :
    properties fields = fields.map fun f => (f.name, f.shape.schema) := by
  induction fields with
  | nil => simp [properties]
  | cons f rest ih => rw [properties, ih, List.map_cons]

theorem mem_requiredNames {name : String} {fields : List (Member Shape)} :
    name ∈ requiredNames fields ↔ ∃ f ∈ fields, f.required = true ∧ f.name = name := by
  simp [requiredNames, and_assoc]

/-- The list of required names is obeyed where the object has them. -/
theorem obeys_requiredMember_iff {fields : List (Member Shape)} {members : List (String × Json)} :
    (∀ k ∈ requiredMember fields, (Json.obj members).obeys k.1 k.2 = true) ↔
      ∀ f ∈ fields, f.required = true → Keyed.has f.name members = true := by
  have listed : (∀ k ∈ requiredMember fields, (Json.obj members).obeys k.1 k.2 = true) ↔
      ∀ name ∈ requiredNames fields, Keyed.has name members = true := by
    unfold requiredMember
    cases requiredNames fields with
    | nil => simp
    | cons name rest => simp [Json.obeys, Json.ofStrings, Json.str?]
  rw [listed]
  constructor
  · intro h f member required
    exact h f.name (mem_requiredNames.2 ⟨f, member, required, rfl⟩)
  · intro h name asked
    obtain ⟨f, member, required, rfl⟩ := mem_requiredNames.1 asked
    exact h f member required

/-- The schema of an object with different fields asks that given fields satisfy their schemas and
that required ones are given. -/
theorem satisfies_schema_object {v : Json} {fields : List (Member Shape)} {note : Note}
    (distinct : (fields.map Member.name).Nodup) :
    v.satisfies (Shape.object fields note).schema = true ↔
      ∃ members, v = .obj members ∧ ∀ f ∈ fields,
        (∀ x, Keyed.get? f.name members = some x → x.satisfies f.shape.schema = true) ∧
        (f.required = true → Keyed.has f.name members = true) := by
  have kept : Keyed.ofPairs (properties fields) = properties fields := by
    apply Keyed.ofPairs_of_nodup
    rw [properties_eq_map, Keyed.names, List.map_map]
    exact distinct
  rw [schema, satisfies_noted, kept]
  cases v with
  | obj members =>
      have props : (Json.obj members).obeys "properties" (.obj (properties fields)) = true ↔
          ∀ f ∈ fields, ∀ x, Keyed.get? f.name members = some x →
            x.satisfies f.shape.schema = true := by
        show Json.membersSatisfy members (properties fields) = true ↔ _
        rw [Json.membersSatisfy_iff, properties_eq_map, List.forall_mem_map]
      have typed : (Json.obj members).obeys "type" (.str "object") = true := rfl
      simp only [List.forall_mem_cons, props, obeys_requiredMember_iff, typed, true_and, Json.obj.injEq,
        exists_eq_left']
      constructor
      · intro h f member
        exact ⟨h.1 f member, h.2 f member⟩
      · intro h
        exact ⟨fun f member => (h f member).1, fun f member => (h f member).2⟩
  | _ => simp [Json.obeys, Json.isOf]

/-! ## Taking nulls out -/

mutual

/-- A value without the nulls that stand for optional fields, at every level. -/
def prune : Shape → Json → Json
  | .list items _, v =>
    match v with
    | .arr vs => .arr (vs.map fun x => prune items x)
    | v => v
  | .object fields _, v =>
    match v with
    | .obj members => .obj (pruneFields fields members)
    | v => v
  | _, v => v

/-- The members of an object without those that are null and belong to optional fields, the others
pruned where they belong to fields. -/
def pruneFields : List (Member Shape) → List (String × Json) → List (String × Json)
  | [], members => members
  | ⟨name, required, shape⟩ :: rest, members =>
    match Keyed.get? name members with
    | none => pruneFields rest members
    | some v =>
      if !required && v.isNull then pruneFields rest (Keyed.erase name members)
      else pruneFields rest (Keyed.put name (prune shape v) members)

end

mutual

/-- The fields of every object in a shape have different names. -/
def Distinct : Shape → Prop
  | .list items _ => Distinct items
  | .object fields _ => (fields.map Member.name).Nodup ∧ AllDistinct fields
  | _ => True

/-- The same of the shape of each field. -/
def AllDistinct : List (Member Shape) → Prop
  | [] => True
  | ⟨_, _, shape⟩ :: rest => Distinct shape ∧ AllDistinct rest

end

mutual

/-- The whole numbers of a value that stand where a fraction may stand lie within the range of
fractions. -/
def InRange : Shape → Json → Prop
  | .float _, v => ∀ n, v = .int n → n.natAbs < Double.roundedBound
  | .list items _, v => ∀ vs, v = .arr vs → ∀ x ∈ vs, InRange items x
  | .object fields _, v => ∀ members, v = .obj members → MembersInRange fields members
  | _, _ => True

/-- The same of the members of an object that belong to fields. -/
def MembersInRange : List (Member Shape) → List (String × Json) → Prop
  | [], _ => True
  | ⟨name, _, shape⟩ :: rest, members =>
    (∀ v, Keyed.get? name members = some v → InRange shape v) ∧ MembersInRange rest members

end

/-- Fields are all distinct just if each shape is. -/
theorem allDistinct_iff {fields : List (Member Shape)} :
    AllDistinct fields ↔ ∀ f ∈ fields, f.shape.Distinct := by
  induction fields with
  | nil => simp [AllDistinct]
  | cons f rest ih => rw [AllDistinct, ih, List.forall_mem_cons]

/-- Members are in range just if each that is there is. -/
theorem membersInRange_iff {fields : List (Member Shape)} {members : List (String × Json)} :
    MembersInRange fields members ↔
      ∀ f ∈ fields, ∀ v, Keyed.get? f.name members = some v → f.shape.InRange v := by
  induction fields with
  | nil => simp [MembersInRange]
  | cons f rest ih => rw [MembersInRange, ih, List.forall_mem_cons]

/-- Pruning leaves alone what belongs to no field. -/
theorem get?_pruneFields_of_not_mem {fields : List (Member Shape)} {name : String}
    (other : name ∉ fields.map Member.name) (members : List (String × Json)) :
    Keyed.get? name (pruneFields fields members) = Keyed.get? name members := by
  induction fields generalizing members with
  | nil => rfl
  | cons f rest ih =>
      have differs : name ≠ f.name := fun h => other (h ▸ List.mem_cons_self)
      have later : name ∉ rest.map Member.name := fun h => other (List.mem_cons_of_mem _ h)
      rw [pruneFields]
      cases given : Keyed.get? f.name members with
      | none => exact ih later members
      | some v =>
          by_cases dropped : (!f.required && v.isNull) = true
          · simp only [dropped, if_true]
            exact (ih later _).trans (Keyed.get?_erase_of_ne differs members)
          · simp only [dropped]
            exact (ih later _).trans (Keyed.get?_put_of_ne differs _ members)

/-- What pruning makes of the member of a field. -/
theorem get?_pruneFields {fields : List (Member Shape)} {f : Member Shape}
    (distinct : (fields.map Member.name).Nodup) (member : f ∈ fields)
    (members : List (String × Json)) :
    Keyed.get? f.name (pruneFields fields members) =
      (Keyed.get? f.name members).bind fun v =>
        if !f.required && v.isNull then none else some (f.shape.prune v) := by
  induction fields generalizing members with
  | nil => cases member
  | cons g rest ih =>
      rw [List.map_cons, List.nodup_cons] at distinct
      rw [pruneFields]
      rcases List.mem_cons.1 member with rfl | later
      · have untouched := fun ms => get?_pruneFields_of_not_mem distinct.1 ms
        cases given : Keyed.get? f.name members with
        | none =>
            rw [Option.bind_none]
            exact (untouched members).trans given
        | some v =>
            by_cases dropped : (!f.required && v.isNull) = true
            · simp only [dropped, if_true, Option.bind_some]
              exact (untouched _).trans (Keyed.get?_erase_self f.name members)
            · simp only [dropped, Option.bind_some]
              exact (untouched _).trans (Keyed.get?_put_self f.name _ members)
      · have differs : f.name ≠ g.name := fun h =>
          distinct.1 (h ▸ List.mem_map_of_mem later)
        have rest' := fun ms => ih distinct.2 later ms
        cases given : Keyed.get? g.name members with
        | none => exact rest' members
        | some v =>
            by_cases dropped : (!g.required && v.isNull) = true
            · simp only [dropped, if_true, rest', Keyed.get?_erase_of_ne differs]
            · simp only [dropped, rest', Keyed.get?_put_of_ne differs, Bool.false_eq_true, if_false]

end Shape

/-! ## What a check takes -/

namespace Checked

variable {α : Type}

theorem exists_cons_eq_ok {x : Checked α} {xs : Checked (List α)} :
    (∃ all, cons x xs = .ok all) ↔ (∃ a, x = .ok a) ∧ ∃ as, xs = .ok as := by
  cases x <;> cases xs <;> simp [cons, both]

/-- A list is taken just where each item is. -/
theorem exists_items_eq_ok {check : List PathStep → Json → Checked α} {takes : Json → Prop}
    {vs : List Json} (each : ∀ x ∈ vs, ∀ path, (∃ a, check path x = .ok a) ↔ takes x)
    (path : List PathStep) (index : Nat) :
    (∃ accepted, items check path index vs = .ok accepted) ↔ ∀ x ∈ vs, takes x := by
  induction vs generalizing index with
  | nil => simp [items]
  | cons x rest ih =>
      rw [items, exists_cons_eq_ok, each x List.mem_cons_self,
        ih (fun y member => each y (List.mem_cons_of_mem _ member)), List.forall_mem_cons]

end Checked

namespace Shape

/-- The fields of an object are taken just where required ones are given, and each that is given is
taken or is null and optional. -/
theorem exists_checkFields_eq_ok {model : String} {path : List PathStep}
    {fields : List (Member Shape)} {members : List (String × Json)} :
    (∃ checked, checkFields model path fields members = .ok checked) ↔
      ∀ f ∈ fields, (Keyed.get? f.name members = none → f.required = false) ∧
        ∀ v, Keyed.get? f.name members = some v → (!f.required && v.isNull) = true ∨
          ∃ a, f.shape.checkAt (model ++ "__" ++ f.name) (path ++ [.name f.name]) v = .ok a := by
  induction fields with
  | nil => simp [checkFields]
  | cons f rest ih =>
      rw [List.forall_mem_cons, ← ih, checkFields, Checked.exists_cons_eq_ok]
      refine and_congr ?_ Iff.rfl
      cases given : Keyed.get? f.name members with
      | none =>
          cases required : f.required with
          | true => simp [checkMissing, Checked.refuse]
          | false => simp [checkMissing]
      | some v =>
          simp only [reduceCtorEq, false_implies, true_and, Option.some.injEq, forall_eq']
          by_cases dropped : (!f.required && v.isNull) = true
          · simp only [dropped, if_true, Except.ok.injEq, exists_eq', true_or]
          · simp only [dropped, Bool.false_eq_true, if_false, false_or]
            cases f.shape.checkAt (model ++ "__" ++ f.name) (path ++ [.name f.name]) v <;> simp

/-- A list is taken just where its items are. -/
theorem exists_checkAt_list {items : Shape} {note : Note} {model : String} {path : List PathStep}
    {vs : List Json} {takes : Json → Prop}
    (each : ∀ x ∈ vs, ∀ path, (∃ a, items.checkAt model path x = .ok a) ↔ takes x) :
    (∃ a, (list items note).checkAt model path (.arr vs) = .ok a) ↔ ∀ x ∈ vs, takes x := by
  rw [← Checked.exists_items_eq_ok each path 0]
  simp only [checkAt]
  cases Checked.items (fun path v => checkAt model path items v) path 0 vs <;> simp

/-- An object is taken just where its members are. -/
theorem exists_checkAt_object {fields : List (Member Shape)} {note : Note} {model : String}
    {path : List PathStep} {members : Keyed Json} :
    (∃ a, (object fields note).checkAt model path (.obj members) = .ok a) ↔
      ∃ checked, checkFields model path fields members = .ok checked := by
  simp only [checkAt]
  cases checkFields model path fields members <;> simp

/-- A check takes a member of an object where the schema does once nulls are out, if that is so of
its value. -/
theorem checkField_ok_iff {fields : List (Member Shape)} {f : Member Shape}
    (distinct : (fields.map Member.name).Nodup) (member : f ∈ fields)
    (members : List (String × Json)) {model : String} {path : List PathStep}
    (deeper : ∀ x, Keyed.get? f.name members = some x →
      ((∃ a, f.shape.checkAt model path x = .ok a) ↔
        (f.shape.prune x).satisfies f.shape.schema = true)) :
    ((Keyed.get? f.name members = none → f.required = false) ∧
      ∀ v, Keyed.get? f.name members = some v → (!f.required && v.isNull) = true ∨
        ∃ a, f.shape.checkAt model path v = .ok a) ↔
    ((∀ x, Keyed.get? f.name (pruneFields fields members) = some x →
        x.satisfies f.shape.schema = true) ∧
      (f.required = true → Keyed.has f.name (pruneFields fields members) = true)) := by
  have kept := get?_pruneFields distinct member members
  cases given : Keyed.get? f.name members with
  | none =>
      rw [given, Option.bind_none] at kept
      simp [Keyed.has, kept]
  | some x =>
      rw [given, Option.bind_some] at kept
      by_cases dropped : (!f.required && x.isNull) = true
      · obtain ⟨optional, null⟩ : f.required = false ∧ x.isNull = true := by
          simpa using dropped
        rw [if_pos dropped] at kept
        simp [kept, optional, null]
      · rw [if_neg dropped] at kept
        simp only [dropped, Bool.false_eq_true, false_or, Option.some.injEq, forall_eq']
        simp [Keyed.has, kept, deeper x given]

/-- A check takes what satisfies the schema once the nulls of optional fields are out. -/
theorem checkAt_ok_iff (shape : Shape) (distinct : shape.Distinct) (model : String)
    (path : List PathStep) (v : Json) (range : shape.InRange v) :
    (∃ accepted, shape.checkAt model path v = .ok accepted) ↔
      (shape.prune v).satisfies shape.schema = true := by
  -- Either side takes values of the shape's own kind only, so each case turns on the kind of value.
  induction shape using Shape.induction generalizing model path v with
  | string choices note =>
      rw [satisfies_schema_string]
      by_cases free : choices = []
      · cases v <;> simp [checkAt, prune, free, Checked.refuse]
      · cases v with
        | str s => by_cases known : s ∈ choices <;> simp [checkAt, prune, free, known, Checked.refuse]
        | _ => simp [checkAt, prune, free, Checked.refuse]
  | int note =>
      rw [schema, satisfies_typed]
      cases v <;> simp [checkAt, prune, Json.isOf, Checked.refuse]
  | float note =>
      rw [schema, satisfies_typed]
      cases v with
      | int n =>
          have finite : (Double.ofInt n).isFinite = true := Double.isFinite_ofInt (range n rfl)
          simp [checkAt, prune, Json.isOf, finite]
      | _ => simp [checkAt, prune, Json.isOf, Checked.refuse]
  | boolean note =>
      rw [schema, satisfies_typed]
      cases v <;> simp [checkAt, prune, Json.isOf, Checked.refuse]
  | any note =>
      have nothing := satisfies_noted v [] note
      simpa [checkAt, prune, schema] using nothing
  | list items note ih =>
      rw [satisfies_schema_list]
      cases v with
      | arr vs =>
          have each : ∀ x ∈ vs, ∀ path, (∃ a, items.checkAt model path x = .ok a) ↔
              (items.prune x).satisfies items.schema = true :=
            fun x member path => ih distinct model path x (range vs rfl x member)
          rw [exists_checkAt_list each]
          simp only [prune, Json.arr.injEq, exists_eq_left', List.forall_mem_map]
      | _ => simp [checkAt, prune, Checked.refuse]
  | object fields note ih =>
      rw [satisfies_schema_object distinct.1]
      cases v with
      | obj members =>
          rw [exists_checkAt_object, exists_checkFields_eq_ok]
          simp only [prune, Json.obj.injEq, exists_eq_left']
          refine forall₂_congr fun f member => ?_
          exact checkField_ok_iff distinct.1 member members fun x given =>
            ih f member (allDistinct_iff.1 distinct.2 f member) _ _ x
              (membersInRange_iff.1 (range members rfl) f member x given)
      | _ => simp [checkAt, prune, Checked.refuse]

/-- Taking nulls out keeps a value that satisfies the schema. -/
theorem satisfies_prune (shape : Shape) (distinct : shape.Distinct) (v : Json)
    (satisfies : v.satisfies shape.schema = true) :
    (shape.prune v).satisfies shape.schema = true := by
  induction shape using Shape.induction generalizing v with
  | list items note ih =>
      obtain ⟨vs, rfl, each⟩ := satisfies_schema_list.1 satisfies
      refine satisfies_schema_list.2 ⟨vs.map fun x => items.prune x, by rw [prune], ?_⟩
      rw [List.forall_mem_map]
      exact fun x member => ih distinct x (each x member)
  | object fields note ih =>
      obtain ⟨members, rfl, each⟩ := (satisfies_schema_object distinct.1).1 satisfies
      refine (satisfies_schema_object distinct.1).2 ⟨pruneFields fields members, by rw [prune], ?_⟩
      intro f member
      have kept := get?_pruneFields distinct.1 member members
      obtain ⟨fits, given⟩ := each f member
      constructor
      · intro x found
        rw [kept] at found
        obtain ⟨y, stands, result⟩ := Option.bind_eq_some_iff.1 found
        by_cases dropped : (!f.required && y.isNull) = true
        · simp [dropped] at result
        · rw [if_neg dropped, Option.some.injEq] at result
          rw [← result]
          exact ih f member (allDistinct_iff.1 distinct.2 f member) y (fits y stands)
      · intro required
        obtain ⟨y, stands⟩ := Option.isSome_iff_exists.1 (given required)
        simp [Keyed.has, kept, stands, required]
  | _ => simpa [prune] using satisfies

end Shape

/-! ## Tools -/

namespace Tool

/-- A call with an object gives arguments just where the fields take it. -/
theorem exists_validate_obj {t : Tool} {members : List (String × Json)} :
    (∃ given, t.validate (.obj members) = .ok given) ↔
      ∃ accepted, t.shape.checkAt t.name [] (.obj members) = .ok accepted := by
  have read : readArguments (.obj members) = .ok members := by
    cases members with
    | nil => rfl
    | cons p rest => rfl
  unfold validate checkArguments
  rw [read]
  simp only [shape, Shape.checkAt]
  dsimp only [bind, Except.bind]
  cases Shape.checkFields t.name [] t.fields members with
  | ok checked => simp [pure, Except.pure]
  | error issues => simp [throw, throwThe, MonadExceptOf.throw]

end Tool

/-- **The two readings of a shape agree.**  Where the fields of each object have different names and
whole numbers in the place of fractions lie in range, a check takes a value if and only if the
value without the nulls of optional fields satisfies the schema.  So no tool refuses an argument
object that satisfies the schema that the tool tells. -/
theorem Shape.readings_agree (shape : Shape) (distinct : shape.Distinct) (v : Json)
    (range : shape.InRange v) :
    (∀ model path, (∃ accepted, shape.checkAt model path v = .ok accepted) ↔
      (shape.prune v).satisfies shape.schema = true) ∧
    ∀ t : Tool, t.shape = shape → v.satisfies t.inputSchema = true →
      ∃ given, t.validate v = .ok given := by
  refine ⟨fun model path => shape.checkAt_ok_iff distinct model path v range, ?_⟩
  rintro t rfl satisfies
  obtain ⟨members, rfl, -⟩ := (satisfies_schema_object distinct.1).1 satisfies
  rw [Tool.exists_validate_obj, t.shape.checkAt_ok_iff distinct _ _ _ range]
  exact t.shape.satisfies_prune distinct _ satisfies

/-- A shape with an object in a list, whose optional choice may be null. -/
def Shape.orders : Shape :=
  .object
    [⟨"items", true, .list (.object
        [⟨"count", true, .int {}⟩, ⟨"size", false, .string ["S", "M"] {}⟩] {}) {}⟩,
     ⟨"total", false, .float {}⟩] {}

/-- A null in an object of a list is taken, although the schema does not admit it. -/
theorem Shape.readings_agree_orders :
    let v : Json := .obj [("items", .arr [.obj [("count", .int 2), ("size", .null)]]),
      ("total", .int 30), ("note", .bool true)]
    v.satisfies orders.schema = false ∧ (orders.prune v).satisfies orders.schema = true ∧
      ∃ accepted, orders.checkAt "call" [] v = .ok accepted := by
  intro v
  have distinct : orders.Distinct := by simp [orders, Distinct, AllDistinct]
  have range : orders.InRange v := by
    have total : Int.natAbs 30 < Double.roundedBound := by decide +kernel
    simpa [orders, v, InRange, MembersInRange, Keyed.get?] using total
  have satisfies : (orders.prune v).satisfies orders.schema = true := by decide +kernel
  exact ⟨by decide +kernel, satisfies,
    ((readings_agree orders distinct v range).1 "call" []).2 satisfies⟩

end QueryTools
