import QueryTools.Proofs.Input.Checking
import QueryTools.Proofs.Shape.Conformance

/-!
# Positions in shapes

A position leads from a shape into its parts: into the items of a list, and into the fields of an object
by their names.  The same position leads through the types of a schema, and what it costs there is the
number of input objects that it enters.

Main statements:

* `Shape.at?_ofType` -- what stands at a position of a type's shape: the shape of the type that stands
  there, made with what is left of the budget;
* `Shape.afford_of_at?` -- a type's shape has only the positions that the budget affords;
* `Shape.schemaAt?_schema` -- a shape and its JSON Schema have the same parts at the same positions.
-/

namespace QueryTools

/-- A step into a value: to the items of a list, or to a member of an object. -/
inductive Step where
  | item
  | field (name : String)
  deriving DecidableEq, Repr

namespace Step

/-- How many objects a position enters. -/
def entered : List Step → Nat
  | [] => 0
  | .item :: p => entered p
  | .field _ :: p => entered p + 1

/-- Whether a budget is never spent before a step of a position: an object that is entered spends one
unit, a list none. -/
def affordable : Nat → List Step → Bool
  | _, [] => true
  | 0, _ :: _ => false
  | budget + 1, .item :: p => affordable (budget + 1) p
  | budget + 1, .field _ :: p => affordable budget p

/-- No affordable position enters more objects than the budget admits. -/
theorem entered_le_of_affordable {budget : Nat} {p : List Step} (affords : affordable budget p = true) :
    entered p ≤ budget := by
  induction p generalizing budget with
  | nil => exact Nat.zero_le budget
  | cons step p ih =>
      cases budget with
      | zero => cases affords
      | succ budget =>
          cases step with
          | item => exact ih affords
          | field name => exact Nat.succ_le_succ (ih affords)

/-- Where a budget is not spent by a position, it affords it. -/
theorem affordable_of_entered_lt {budget : Nat} {p : List Step} (spare : entered p < budget) :
    affordable budget p = true := by
  induction p generalizing budget with
  | nil => cases budget <;> rfl
  | cons step p ih =>
      cases budget with
      | zero => omega
      | succ budget =>
          cases step with
          | item => exact ih spare
          | field name =>
              rw [entered] at spare
              have rest : entered p < budget := by omega
              exact ih rest

end Step

/-! ## Positions in types -/

namespace Schema

/-- The fields of the input object that a reference stands for, if it stands for one. -/
def inputFields? (s : Schema) : TypeRef → Option (List InputValue)
  | .named name =>
    match (s.find? name).map NamedType.form with
    | some (.input fields _) => some fields
    | _ => none
  | .list _ => none
  | .nonNull type => s.inputFields? type

/-- The type at a position of a type: items are of the item type, and fields are looked up by name. -/
def typeAt? (s : Schema) (type : TypeRef) : List Step → Option TypeRef
  | [] => some type
  | .item :: p => type.item?.bind fun item => s.typeAt? item p
  | .field name :: p =>
    ((s.inputFields? type).bind fun fields => fields.find? fun f => f.name == name).bind fun f =>
      s.typeAt? f.type p

/-- Whether a reference stands for a named type that no value can be given for. -/
def hasNoValues (s : Schema) : TypeRef → Bool
  | .named name => !(s.find? name).any NamedType.isInput
  | .list _ => false
  | .nonNull type => s.hasNoValues type

/-- A type that has input fields is an input type of the schema. -/
theorem exists_form_of_inputFields? {s : Schema} {type : TypeRef} {fields : List InputValue}
    (is : s.inputFields? type = some fields) :
    ∃ oneOf, (s.find? type.name).map NamedType.form = some (.input fields oneOf) := by
  induction type with
  | named name =>
      rw [inputFields?] at is
      split at is
      · rename_i oneOf form
        cases is
        exact ⟨oneOf, form⟩
      · cases is
  | list item ih => cases is
  | nonNull type ih => exact ih is

end Schema

/-! ## Positions in shapes -/

namespace Shape

/-- What stands at a position of a shape. -/
def at? (shape : Shape) : List Step → Option Shape
  | [] => some shape
  | .item :: p =>
    match shape with
    | .list items _ => items.at? p
    | _ => none
  | .field name :: p =>
    match shape with
    | .object fields _ => (field? name fields).bind fun f => f.shape.at? p
    | _ => none

/-- Whether a shape admits any value outright. -/
def isAny : Shape → Bool
  | .any _ => true
  | _ => false

/-- A position is followed in parts. -/
theorem at?_append (shape : Shape) (p q : List Step) :
    shape.at? (p ++ q) = (shape.at? p).bind fun inner => inner.at? q := by
  induction p generalizing shape with
  | nil => rfl
  | cons step p ih =>
      cases step with
      | item =>
          cases shape with
          | list items note => exact ih items
          | _ => rfl
      | field name =>
          cases shape with
          | object fields note =>
              simp only [List.cons_append, at?, ih]
              cases field? name fields <;> rfl
          | _ => rfl

/-- A step into items is one into a list. -/
theorem exists_list_of_at? {shape inner : Shape} {p : List Step}
    (stands : shape.at? (.item :: p) = some inner) :
    ∃ items note, shape = .list items note ∧ items.at? p = some inner := by
  cases shape with
  | list items note => exact ⟨items, note, rfl, stands⟩
  | _ => cases stands

/-- A step into a field is one into an object that has a field of the name. -/
theorem exists_object_of_at? {shape inner : Shape} {name : String} {p : List Step}
    (stands : shape.at? (.field name :: p) = some inner) :
    ∃ fields note f, shape = .object fields note ∧ f ∈ fields ∧ f.name = name ∧
      f.shape.at? p = some inner := by
  cases shape with
  | object fields note =>
      obtain ⟨f, found, deeper⟩ := Option.bind_eq_some_iff.1 stands
      have named : f.name = name := by simpa using List.find?_some found
      exact ⟨fields, note, f, rfl, List.mem_of_find?_eq_some found, named, deeper⟩
  | _ => cases stands

/-! ### Notes -/

theorem withNote_note (shape : Shape) : shape.withNote shape.note = shape := by
  cases shape <;> rfl

theorem withNote_withNote (shape : Shape) (first second : Note) :
    (shape.withNote first).withNote second = shape.withNote second := by
  cases shape <;> rfl

theorem note_withNote (shape : Shape) (note : Note) : (shape.withNote note).note = note := by
  cases shape <;> rfl

theorem isAny_withNote (shape : Shape) (note : Note) : (shape.withNote note).isAny = shape.isAny := by
  cases shape <;> rfl

/-- Notes do not matter to what stands below. -/
theorem at?_withNote_cons (shape : Shape) (note : Note) (step : Step) (p : List Step) :
    (shape.withNote note).at? (step :: p) = shape.at? (step :: p) := by
  cases step <;> cases shape <;> rfl

/-- What stands at a position of a shape stands there in the shape with other notes too, under some
notes. -/
theorem at?_withNote {shape inner : Shape} {p : List Step} (stands : shape.at? p = some inner)
    (note : Note) : ∃ own, (shape.withNote note).at? p = some (inner.withNote own) := by
  cases p with
  | nil =>
      cases stands
      exact ⟨note, rfl⟩
  | cons step p =>
      refine ⟨inner.note, ?_⟩
      rw [at?_withNote_cons, stands, withNote_note]

/-! ### Shapes of types -/

variable {s : Schema}

@[simp] theorem ofType_zero (type : TypeRef) : ofType s 0 type = .any {} := rfl

@[simp] theorem ofType_named (budget : Nat) (name : String) :
    ofType s (budget + 1) (.named name) = ofNamed s (budget + 1) name := rfl

@[simp] theorem ofType_list (budget : Nat) (item : TypeRef) :
    ofType s (budget + 1) (.list item) = .list (ofType s (budget + 1) item) {} := rfl

@[simp] theorem ofType_nonNull (budget : Nat) (type : TypeRef) :
    ofType s budget (.nonNull type) = ofType s budget type := by
  cases budget <;> rfl

theorem note_ofScalar (name : String) : (ofScalar name).note = {} := by
  unfold ofScalar
  split <;> rfl

theorem isAny_ofScalar (name : String) : (ofScalar name).isAny = false := by
  unfold ofScalar
  split <;> rfl

/-- Nothing stands inside a scalar. -/
theorem at?_ofScalar (name : String) (step : Step) (p : List Step) :
    (ofScalar name).at? (step :: p) = none := by
  unfold ofScalar
  split <;> cases step <;> rfl

/-- What the shape of a named type is, by the form of the type. -/
theorem ofNamed_succ (budget : Nat) (name : String) :
    ofNamed s (budget + 1) name =
      match s.find? name with
      | some { name := own, form := .scalar _, .. } => ofScalar own
      | some { form := .enum values _, .. } => .string (values.map EnumValue.name) {}
      | some { form := .input fields _, .. } => .object (fieldsOf s budget (fields.map s.parameter)) {}
      | _ => .any {} := by
  cases found : s.find? name with
  | none => rw [ofNamed, found]
  | some t =>
      obtain ⟨own, description, form⟩ := t
      cases form with
      | input fields oneOf =>
          rw [ofNamed_input (by rw [found, Option.map_some])]
      | _ => rw [ofNamed, found]

/-- The shape of a named type has no note. -/
theorem note_ofNamed (budget : Nat) (name : String) : (ofNamed s (budget + 1) name).note = {} := by
  rw [ofNamed_succ]
  split
  · exact note_ofScalar _
  all_goals rfl

/-- The shape of a type says nothing beside the values it takes. -/
theorem note_ofType (budget : Nat) (type : TypeRef) : (ofType s budget type).note = {} := by
  cases budget with
  | zero => rfl
  | succ budget =>
      induction type with
      | named name => exact note_ofNamed budget name
      | list item ih => rfl
      | nonNull type ih => rwa [ofType_nonNull]

/-- A named type takes any value just where the schema gives it none. -/
theorem isAny_ofNamed (budget : Nat) (name : String) :
    (ofNamed s (budget + 1) name).isAny = s.hasNoValues (.named name) := by
  rw [ofNamed_succ, Schema.hasNoValues]
  cases s.find? name with
  | none => rfl
  | some t =>
      obtain ⟨own, description, form⟩ := t
      cases form with
      | scalar specified => exact isAny_ofScalar own
      | _ => rfl

/-- With some budget the shape of a type admits any value where none can be given, and else says more. -/
theorem isAny_ofType (budget : Nat) (type : TypeRef) :
    (ofType s (budget + 1) type).isAny = s.hasNoValues type := by
  induction type with
  | named name => exact isAny_ofNamed budget name
  | list item ih => rfl
  | nonNull type ih => rwa [ofType_nonNull]

/-- Among fields with different names each is the first of its name. -/
theorem field?_of_mem {fields : List (Member Shape)} (distinct : (fields.map Member.name).Nodup)
    {f : Member Shape} (member : f ∈ fields) : field? f.name fields = some f := by
  unfold field?
  cases found : fields.find? fun g => g.name == f.name with
  | none => simpa using List.find?_eq_none.1 found f member
  | some g =>
      have there := List.mem_of_find?_eq_some found
      have same : g.name = f.name := by simpa using List.find?_some found
      rw [List.inj_on_of_nodup_map distinct there member same]

/-- The first field of a name among those of parameters is that of the first parameter of the name. -/
theorem field?_fieldsOf (budget : Nat) (name : String) (ps : List Parameter) :
    field? name (fieldsOf s budget ps) = (ps.find? fun p => p.name == name).map (fieldOf s budget) := by
  unfold field? fieldsOf
  rw [List.find?_map]
  rfl

/-- A field is found by its name just as its parameter is. -/
theorem find?_parameter (name : String) (fields : List InputValue) :
    ((fields.map s.parameter).find? fun p => p.name == name) =
      (fields.find? fun f => f.name == name).map s.parameter := by
  rw [List.find?_map]
  rfl

/-- A named type's shape has no items. -/
theorem at?_item_ofNamed (budget : Nat) (name : String) (p : List Step) :
    (ofNamed s (budget + 1) name).at? (.item :: p) = none := by
  rw [ofNamed_succ]
  split
  · exact at?_ofScalar _ .item p
  all_goals rfl

/-- The items of a type's shape are of the shape of the item type. -/
theorem at?_item_ofType (budget : Nat) (type : TypeRef) (p : List Step) :
    (ofType s (budget + 1) type).at? (.item :: p) =
      type.item?.bind fun item => (ofType s (budget + 1) item).at? p := by
  induction type with
  | named name => exact at?_item_ofNamed budget name p
  | list item ih => rfl
  | nonNull type ih => rwa [ofType_nonNull]

/-- Where a type's shape has fields they are those of the parameters that the fields of the input object
are. -/
theorem ofType_of_inputFields? {budget : Nat} {type : TypeRef} {fields : List InputValue}
    (is : s.inputFields? type = some fields) :
    ofType s (budget + 1) type = .object (fieldsOf s budget (fields.map s.parameter)) {} := by
  induction type with
  | named name =>
      obtain ⟨oneOf, form⟩ := Schema.exists_form_of_inputFields? is
      exact ofNamed_input form
  | list item ih => cases is
  | nonNull type ih =>
      rw [ofType_nonNull]
      exact ih is

/-- A named type without input fields has no position at a field. -/
theorem at?_field_ofNamed_of_none {budget : Nat} {name : String}
    (is : s.inputFields? (.named name) = none) (field : String) (p : List Step) :
    (ofNamed s (budget + 1) name).at? (.field field :: p) = none := by
  rw [ofNamed_succ]
  split
  · exact at?_ofScalar _ (.field field) p
  · rfl
  · rename_i found
    rw [Schema.inputFields?, found] at is
    cases is
  · rfl

/-- A type without input fields has no position at a field, however it is wrapped. -/
theorem at?_field_ofType_of_none {budget : Nat} {type : TypeRef} (is : s.inputFields? type = none)
    (field : String) (p : List Step) : (ofType s (budget + 1) type).at? (.field field :: p) = none := by
  induction type with
  | named name => exact at?_field_ofNamed_of_none is field p
  | list item ih => rfl
  | nonNull type ih =>
      rw [ofType_nonNull]
      exact ih is

/-- What stands below a field of a type's shape stands below the shape of the field's type, made with one
unit less. -/
theorem at?_field_ofType (budget : Nat) (type : TypeRef) (name : String) (p : List Step) :
    (ofType s (budget + 1) type).at? (.field name :: p) =
      ((s.inputFields? type).bind fun fields => fields.find? fun f => f.name == name).bind fun f =>
        (fieldOf s budget (s.parameter f)).shape.at? p := by
  cases is : s.inputFields? type with
  | none => exact at?_field_ofType_of_none is name p
  | some fields =>
      rw [ofType_of_inputFields? is, at?, field?_fieldsOf, find?_parameter, Option.bind_some]
      cases fields.find? fun f => f.name == name <;> rfl

/-- **What stands at a position** of a type's shape that the budget affords is the shape of the type at the
position, made with what is left of the budget, under some notes. -/
theorem at?_ofType {budget : Nat} {p : List Step} (affords : Step.affordable budget p = true)
    {type u : TypeRef} (typed : s.typeAt? type p = some u) :
    ∃ note, (ofType s budget type).at? p =
      some ((ofType s (budget - Step.entered p) u).withNote note) := by
  induction p generalizing budget type with
  | nil =>
      cases typed
      exact ⟨_, by rw [at?, Step.entered, Nat.sub_zero, withNote_note]⟩
  | cons step p ih =>
      cases budget with
      | zero => cases affords
      | succ budget =>
          cases step with
          | item =>
              obtain ⟨item, is, inner⟩ := Option.bind_eq_some_iff.1 typed
              rw [at?_item_ofType, is, Option.bind_some]
              exact ih affords inner
          | field name =>
              obtain ⟨f, is, inner⟩ := Option.bind_eq_some_iff.1 typed
              have left : budget + 1 - Step.entered (.field name :: p) = budget - Step.entered p := by
                rw [Step.entered]
                omega
              rw [at?_field_ofType, is, Option.bind_some, left]
              obtain ⟨note, deeper⟩ := ih affords inner
              obtain ⟨own, there⟩ := at?_withNote deeper (noteOf f.description (s.declaredDefault f))
              exact ⟨own, by rwa [withNote_withNote] at there⟩

/-- A type's shape has only the positions that the budget affords, and the type has them too. -/
theorem afford_of_at? {budget : Nat} {type : TypeRef} {p : List Step} {shape : Shape}
    (stands : (ofType s budget type).at? p = some shape) :
    Step.affordable budget p = true ∧ (s.typeAt? type p).isSome = true := by
  induction p generalizing budget type shape with
  | nil => exact ⟨by cases budget <;> rfl, rfl⟩
  | cons step p ih =>
      cases budget with
      | zero => cases step <;> cases stands
      | succ budget =>
          cases step with
          | item =>
              rw [at?_item_ofType] at stands
              obtain ⟨item, is, inner⟩ := Option.bind_eq_some_iff.1 stands
              obtain ⟨affords, typed⟩ := ih inner
              exact ⟨affords, by rwa [Schema.typeAt?, is, Option.bind_some]⟩
          | field name =>
              rw [at?_field_ofType] at stands
              obtain ⟨f, is, inner⟩ := Option.bind_eq_some_iff.1 stands
              have below : ∃ shape, (ofType s budget f.type).at? p = some shape := by
                cases p with
                | nil => exact ⟨_, rfl⟩
                | cons next p => exact ⟨shape, (at?_withNote_cons _ _ next p).symm.trans inner⟩
              obtain ⟨shape, inner⟩ := below
              obtain ⟨affords, typed⟩ := ih inner
              exact ⟨affords, by rwa [Schema.typeAt?, is, Option.bind_some]⟩

end Shape

/-! ## Positions in JSON Schemas -/

/-- What stands at a position of a JSON Schema: items under `items`, fields under `properties`. -/
def Json.schemaAt? (schema : Json) : List Step → Option Json
  | [] => some schema
  | .item :: p => (schema.get? "items").bind fun items => items.schemaAt? p
  | .field name :: p =>
    ((schema.get? "properties").bind fun properties => properties.get? name).bind fun field =>
      field.schemaAt? p

namespace Keyed

variable {α : Type}

/-- A member of joined members is one of the first, or else of the second. -/
theorem get?_append (name : String) (xs ys : Keyed α) :
    get? name (xs ++ ys) = (get? name xs).or (get? name ys) := by
  induction xs with
  | nil => rfl
  | cons p rest ih =>
      simp only [List.cons_append, get?, ih]
      split <;> rfl

end Keyed

namespace Shape

/-- What a JSON Schema says beside what notes give. -/
def keywords : Shape → Keyed Json
  | .string choices _ =>
    ("type", .str "string") :: if choices.isEmpty then [] else [("enum", Json.ofStrings choices)]
  | .int _ => [("type", .str "integer")]
  | .float _ => [("type", .str "number")]
  | .boolean _ => [("type", .str "boolean")]
  | .any _ => []
  | .list items _ => [("type", .str "array"), ("items", items.schema)]
  | .object fields _ =>
    ("type", .str "object") :: ("properties", .obj (Keyed.ofPairs (properties fields)))
      :: requiredMember fields

/-- The schema of a shape is its keywords and then its note. -/
theorem schema_eq (shape : Shape) : shape.schema = .obj (shape.keywords ++ noteMembers shape.note) := by
  cases shape <;> rw [schema] <;> rfl

/-- The default that notes give is their own. -/
theorem get?_default_noteMembers (note : Note) :
    Keyed.get? "default" (noteMembers note) = note.default := by
  unfold noteMembers
  rw [Keyed.get?_append]
  cases note.description with
  | none => cases note.default <;> simp [Keyed.get?]
  | some text =>
      by_cases told : text.isTruthy = true
      · cases note.default <;> simp [told, Keyed.get?]
      · cases note.default <;> simp [told, Keyed.get?]

/-- Notes give descriptions and defaults and nothing else. -/
theorem get?_noteMembers {name : String} (undescribed : name ≠ "description")
    (other : name ≠ "default") (note : Note) : Keyed.get? name (noteMembers note) = none := by
  rw [Keyed.get?_eq_none_iff]
  intro member
  obtain ⟨k, there, rfl⟩ := List.mem_map.1 member
  unfold noteMembers at there
  rcases List.mem_append.1 there with said | default
  · split at said
    · split at said
      · exact undescribed (by rw [List.mem_singleton.1 said])
      · cases said
    · cases said
  · split at default
    · exact other (by rw [List.mem_singleton.1 default])
    · cases default

/-- A keyword that is not of notes is one of the shape. -/
theorem get?_schema {name : String} (undescribed : name ≠ "description") (other : name ≠ "default")
    (shape : Shape) : shape.schema.get? name = Keyed.get? name shape.keywords := by
  rw [schema_eq, Json.get?, Keyed.get?_append, get?_noteMembers undescribed other, Option.or_none]

/-- The list of required members gives no other keyword. -/
theorem get?_requiredMember {name : String} (other : name ≠ "required") (fields : List (Member Shape)) :
    Keyed.get? name (requiredMember fields) = none := by
  unfold requiredMember
  split
  · rfl
  · simp [Keyed.get?, other.symm]

/-- The default that a JSON Schema tells is that of the shape. -/
theorem get?_default_schema (shape : Shape) : shape.schema.get? "default" = shape.note.default := by
  have none : Keyed.get? "default" shape.keywords = none := by
    cases shape with
    | string choices note => cases choices <;> simp [keywords, Keyed.get?]
    | object fields note => simp [keywords, Keyed.get?, get?_requiredMember]
    | _ => simp [keywords, Keyed.get?]
  rw [schema_eq, Json.get?, Keyed.get?_append, none, Option.none_or, get?_default_noteMembers]

/-- The schema of items is that of the shape of the items. -/
theorem schemaAt?_item (shape : Shape) (p : List Step) :
    shape.schema.schemaAt? (.item :: p) =
      match shape with
      | .list items _ => items.schema.schemaAt? p
      | _ => none := by
  rw [Json.schemaAt?, get?_schema (by decide) (by decide)]
  cases shape with
  | string choices note => cases choices <;> simp [keywords, Keyed.get?]
  | object fields note => simp [keywords, Keyed.get?, get?_requiredMember]
  | _ => simp [keywords, Keyed.get?]

/-- The property of a name is the schema of the field of that name. -/
theorem get?_properties (name : String) (fields : List (Member Shape)) :
    Keyed.get? name (properties fields) = (field? name fields).map fun f => f.shape.schema := by
  unfold field?
  induction fields with
  | nil => rfl
  | cons f rest ih =>
      rw [properties, Keyed.get?, List.find?_cons, ih]
      by_cases same : f.name = name
      · simp [same]
      · have differs : (f.name == name) = false := beq_eq_false_iff_ne.2 same
        simp [same, differs]

/-- The schema of a field is that of the shape of the field. -/
theorem schemaAt?_field {shape : Shape} (distinct : shape.Distinct) (name : String) (p : List Step) :
    shape.schema.schemaAt? (.field name :: p) =
      match shape with
      | .object fields _ => (field? name fields).bind fun f => f.shape.schema.schemaAt? p
      | _ => none := by
  rw [Json.schemaAt?, get?_schema (by decide) (by decide)]
  cases shape with
  | string choices note => cases choices <;> simp [keywords, Keyed.get?]
  | object fields note =>
      have kept : Keyed.ofPairs (properties fields) = properties fields := by
        apply Keyed.ofPairs_of_nodup
        rw [properties_eq_map, Keyed.names, List.map_map]
        exact distinct.1
      have told : Keyed.get? "properties" (object fields note).keywords =
          some (.obj (properties fields)) := by
        rw [keywords, kept]
        simp [Keyed.get?]
      rw [told, Option.bind_some, Json.get?, get?_properties, Option.bind_map]
      rfl
  | _ => simp [keywords, Keyed.get?]

/-- What stands at a position of a shape with different names has different names. -/
theorem distinct_of_at? {shape inner : Shape} (distinct : shape.Distinct) {p : List Step}
    (stands : shape.at? p = some inner) : inner.Distinct := by
  induction p generalizing shape with
  | nil =>
      cases stands
      exact distinct
  | cons step p ih =>
      cases step with
      | item =>
          obtain ⟨items, note, rfl, deeper⟩ := exists_list_of_at? stands
          have inside : items.Distinct := distinct
          exact ih inside deeper
      | field name =>
          obtain ⟨fields, note, f, rfl, member, -, deeper⟩ := exists_object_of_at? stands
          exact ih (allDistinct_iff.1 distinct.2 f member) deeper

/-- **A shape and its JSON Schema** have the same parts at the same positions. -/
theorem schemaAt?_schema {shape : Shape} (distinct : shape.Distinct) (p : List Step) :
    shape.schema.schemaAt? p = (shape.at? p).map schema := by
  induction p generalizing shape with
  | nil => rfl
  | cons step p ih =>
      cases step with
      | item =>
          rw [schemaAt?_item]
          cases shape with
          | list items note => exact ih distinct
          | _ => rfl
      | field name =>
          rw [schemaAt?_field distinct]
          cases shape with
          | object fields note =>
              simp only [at?]
              cases found : field? name fields with
              | none => rfl
              | some f =>
                  have member : f ∈ fields := List.mem_of_find?_eq_some found
                  exact ih (allDistinct_iff.1 distinct.2 f member)
          | _ => rfl

end Shape

end QueryTools
