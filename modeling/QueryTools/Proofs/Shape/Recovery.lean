import QueryTools.Proofs.Shape.Position

/-!
# What a JSON Schema tells of its shape

A JSON Schema says of a shape all that the shape says itself: its kind, its choices, its items, its fields
with those that have to be given, its description and its default.  So the shape can be read back, however
deep it is and whatever stands as a default in it, also where that looks like a schema.  Only an empty
description leaves no trace, and of two fields with one name the last alone.

A shape is `Shape.Plain` where no description is empty and no two fields of an object share a name.  A text
without choices may be any text, so choices that are given are never empty.

Main statements:

* `Shape.read_schema` -- what reading a schema keyword by keyword gives;
* `Shape.ofSchema?_schema` -- a plain shape is read back from its schema;
* `Shape.schema_recovers` -- plain shapes with the same schema are the same.
-/

namespace QueryTools

/-- The texts of a list; other values in it are left out. -/
def Json.strings : Json → List String
  | .arr items => items.filterMap Json.str?
  | _ => []

namespace Shape

/-! ## Reading -/

/-- What the keywords of a JSON Schema tell of a shape. -/
structure Told where
  type : Option String := none
  choices : List String := []
  items : Option Shape := none
  properties : Option (List (String × Shape)) := none
  required : List String := []
  note : Note := {}

/-- The shape that has been told of. -/
def Told.shape? (told : Told) : Option Shape :=
  match told.type with
  | none => some (.any told.note)
  | some "string" => some (.string told.choices told.note)
  | some "integer" => some (.int told.note)
  | some "number" => some (.float told.note)
  | some "boolean" => some (.boolean told.note)
  | some "array" => told.items.map fun items => .list items told.note
  | some "object" => told.properties.map fun properties =>
    .object (properties.map fun p => ⟨p.1, told.required.contains p.1, p.2⟩) told.note
  | some _ => none

mutual

/-- The shape that a JSON Schema tells of, if it tells of one. -/
def ofSchema? : Json → Option Shape
  | .obj keywords => (read keywords).shape?
  | _ => none

/-- What keywords tell of a shape.  A default is taken as it is, whatever it looks like. -/
def read : List (String × Json) → Told
  | [] => {}
  | (keyword, rule) :: rest =>
    let told := read rest
    match keyword, rule with
    | "type", .str type => { told with type := some type }
    | "enum", choices => { told with choices := choices.strings }
    | "items", schema => { told with items := ofSchema? schema }
    | "properties", .obj schemas => { told with properties := readAll schemas }
    | "required", names => { told with required := names.strings }
    | "description", text => { told with note := { told.note with description := some text } }
    | "default", v => { told with note := { told.note with default := some v } }
    | _, _ => told

/-- The shapes that JSON Schemas under names tell of. -/
def readAll : List (String × Json) → Option (List (String × Shape))
  | [] => some []
  | (name, schema) :: rest =>
    match ofSchema? schema, readAll rest with
    | some shape, some shapes => some ((name, shape) :: shapes)
    | _, _ => none

end

/-! ## Plain shapes -/

end Shape

/-- The description is not empty, if there is one. -/
def Note.Plain (note : Note) : Prop := ∀ said, note.description = some said → said.isTruthy = true

namespace Shape

mutual

/-- No description in a shape is empty. -/
def Described : Shape → Prop
  | .list items note => note.Plain ∧ Described items
  | .object fields note => note.Plain ∧ AllDescribed fields
  | .string _ note | .int note | .float note | .boolean note | .any note => note.Plain

/-- The same of the shape of each field. -/
def AllDescribed : List (Member Shape) → Prop
  | [] => True
  | ⟨_, _, shape⟩ :: rest => Described shape ∧ AllDescribed rest

end

/-- Fields are all described just if each shape is. -/
theorem allDescribed_iff {fields : List (Member Shape)} :
    AllDescribed fields ↔ ∀ f ∈ fields, f.shape.Described := by
  induction fields with
  | nil => simp [AllDescribed]
  | cons f rest ih => rw [AllDescribed, ih, List.forall_mem_cons]

/-- The shapes that a shape is directly made of. -/
def parts : Shape → List Shape
  | .list items _ => [items]
  | .object fields _ => fields.map Member.shape
  | _ => []

/-- Induction over shapes by what they are directly made of. -/
theorem induction_parts {motive : Shape → Prop}
    (each : ∀ shape, (∀ part ∈ shape.parts, motive part) → motive shape) (shape : Shape) :
    motive shape := by
  induction shape using Shape.induction with
  | list items note ih =>
      refine each _ fun part member => ?_
      rwa [List.mem_singleton.1 member]
  | object fields note ih =>
      refine each _ fun part member => ?_
      obtain ⟨f, there, rfl⟩ := List.mem_map.1 member
      exact ih f there
  | _ => exact each _ fun part member => nomatch member

/-- No description is empty, and the fields of every object have different names. -/
structure Plain (shape : Shape) : Prop where
  distinct : shape.Distinct
  described : shape.Described

namespace Plain

/-- The note of a plain shape is plain. -/
theorem note {shape : Shape} (plain : shape.Plain) : shape.note.Plain := by
  have described := plain.described
  cases shape with
  | list items note => exact described.1
  | object fields note => exact described.1
  | _ => exact described

/-- Each part of a plain shape is plain. -/
theorem part {shape : Shape} (plain : shape.Plain) {part : Shape} (member : part ∈ shape.parts) :
    part.Plain := by
  obtain ⟨distinct, described⟩ := plain
  cases shape with
  | list items note =>
      rw [List.mem_singleton.1 member]
      exact ⟨distinct, described.2⟩
  | object fields note =>
      obtain ⟨f, there, rfl⟩ := List.mem_map.1 member
      exact ⟨allDistinct_iff.1 distinct.2 f there, allDescribed_iff.1 described.2 f there⟩
  | _ => cases member

end Plain

/-! ## Reading a schema back -/

@[simp] theorem strings_ofStrings (names : List String) : (Json.ofStrings names).strings = names := by
  have texts : (Json.str? ∘ Json.str : String → Option String) = some := rfl
  rw [Json.ofStrings, Json.strings, List.filterMap_map, texts, List.filterMap_some]

/-- What a schema should tell of its shape. -/
def told : Shape → Told
  | .string choices note => { type := some "string", choices, note }
  | .int note => { type := some "integer", note }
  | .float note => { type := some "number", note }
  | .boolean note => { type := some "boolean", note }
  | .any note => { note }
  | .list items note => { type := some "array", items := some items, note }
  | .object fields note =>
    { type := some "object", properties := some (fields.map fun f => (f.name, f.shape))
      required := requiredNames fields, note }

/-- The keywords of a plain note are read as the note. -/
theorem read_noteMembers {note : Note} (plain : note.Plain) : read (noteMembers note) = { note } := by
  obtain ⟨description, default⟩ := note
  cases description with
  | none => cases default <;> rfl
  | some said =>
      have present : said.isTruthy = true := plain said rfl
      cases default <;> simp [noteMembers, present, read]

/-- Whether a field has to be given can be told from the names of those that have. -/
theorem contains_requiredNames {fields : List (Member Shape)} (distinct : (fields.map Member.name).Nodup)
    {f : Member Shape} (member : f ∈ fields) : (requiredNames fields).contains f.name = f.required := by
  rw [Bool.eq_iff_iff, List.contains_iff_mem, mem_requiredNames]
  constructor
  · rintro ⟨g, there, required, same⟩
    have one : g = f := List.inj_on_of_nodup_map distinct there member same
    exact one ▸ required
  · intro required
    exact ⟨f, member, required, rfl⟩

/-- Properties are read as the shapes of their fields, if each of them is. -/
theorem readAll_properties {fields : List (Member Shape)}
    (each : ∀ f ∈ fields, ofSchema? f.shape.schema = some f.shape) :
    readAll (properties fields) = some (fields.map fun f => (f.name, f.shape)) := by
  induction fields with
  | nil => rfl
  | cons f rest ih =>
      have first := each f List.mem_cons_self
      have later := ih fun g member => each g (List.mem_cons_of_mem f member)
      rw [properties, readAll, first, later, List.map_cons]

/-- What is told of a shape is enough to make it. -/
theorem shape?_told {shape : Shape} (plain : shape.Plain) : shape.told.shape? = some shape := by
  cases shape with
  | object fields note =>
      have back : (fields.map fun f => (f.name, f.shape)).map
          (fun p => (⟨p.1, (requiredNames fields).contains p.1, p.2⟩ : Member Shape)) = fields := by
        rw [List.map_map]
        refine (List.map_congr_left fun f member => ?_).trans (List.map_id fields)
        show (⟨f.name, (requiredNames fields).contains f.name, f.shape⟩ : Member Shape) = f
        rw [contains_requiredNames plain.distinct.1 member]
      simp only [told, Told.shape?, Option.map_some, back]
  | _ => rfl

/-- **What a schema tells.**  Reading the keywords of a schema gives what its shape is made of, if the
schemas of its parts are read back. -/
theorem read_schema {shape : Shape} (plain : shape.Plain)
    (inner : ∀ part ∈ shape.parts, ofSchema? part.schema = some part) :
    read (shape.keywords ++ noteMembers shape.note) = shape.told := by
  cases shape with
  | string choices note =>
      have noted : read (noteMembers note) = { note } := read_noteMembers plain.note
      cases choices with
      | nil => simp [keywords, read, told, Shape.note, noted]
      | cons choice rest => simp [keywords, read, told, Shape.note, noted]
  | list items note =>
      have noted : read (noteMembers note) = { note } := read_noteMembers plain.note
      have itemsRead := inner items List.mem_cons_self
      simp [keywords, read, told, Shape.note, noted, itemsRead]
  | object fields note =>
      have noted : read (noteMembers note) = { note } := read_noteMembers plain.note
      have kept : Keyed.ofPairs (properties fields) = properties fields := by
        apply Keyed.ofPairs_of_nodup
        rw [properties_eq_map, Keyed.names, List.map_map]
        exact plain.distinct.1
      have fieldsRead := readAll_properties fun f member => inner f.shape (List.mem_map_of_mem member)
      cases required : requiredNames fields with
      | nil => simp [keywords, requiredMember, read, told, Shape.note, noted, kept, fieldsRead, required]
      | cons name rest =>
          simp [keywords, requiredMember, read, told, Shape.note, noted, kept, fieldsRead, required]
  | int note =>
      have noted : read (noteMembers note) = { note } := read_noteMembers plain.note
      simp [keywords, read, told, Shape.note, noted]
  | float note =>
      have noted : read (noteMembers note) = { note } := read_noteMembers plain.note
      simp [keywords, read, told, Shape.note, noted]
  | boolean note =>
      have noted : read (noteMembers note) = { note } := read_noteMembers plain.note
      simp [keywords, read, told, Shape.note, noted]
  | any note => exact read_noteMembers plain.note

/-- A plain shape is read back from its schema. -/
theorem ofSchema?_schema (shape : Shape) (plain : shape.Plain) : ofSchema? shape.schema = some shape := by
  induction shape using induction_parts with
  | each shape ih =>
      have inner : ∀ part ∈ shape.parts, ofSchema? part.schema = some part :=
        fun part member => ih part member (plain.part member)
      rw [schema_eq, ofSchema?, read_schema plain inner, shape?_told plain]

/-- **Schemas are one-to-one.**  A plain shape can be read back from its schema, with its kind, its
choices and fields in their order, what has to be given, the descriptions and the defaults at every depth,
a default of null not taken for none; no other plain shape has the schema. -/
theorem schema_recovers {shape : Shape} (plain : shape.Plain) :
    ofSchema? shape.schema = some shape ∧
      ∀ other : Shape, other.Plain → other.schema = shape.schema → other = shape := by
  have back := ofSchema?_schema shape plain
  refine ⟨back, fun other plain' same => ?_⟩
  have back' := ofSchema?_schema other plain'
  rw [same, back] at back'
  exact (Option.some.inj back').symm

/-- An object whose fields differ in what has to be given, in a default of null, and in a default that
looks like the schema of an object. -/
def telling : Shape :=
  .object
    [⟨"order", true, .list (.string ["ASC", "DESC"] { description := some (.str "The order.") }) {}⟩,
     ⟨"after", false, .string [] { default := some .null }⟩,
     ⟨"extra", true, .any { default := some (Shape.object [⟨"a", true, .any {}⟩] {}).schema }⟩]
    {}

/-- A shape with an object, a list and a choice is recovered from its schema. -/
theorem telling_recovers :
    telling.Plain ∧ ofSchema? telling.schema = some telling ∧
      ∀ other : Shape, other.Plain → other.schema = telling.schema → other = telling := by
  have plain : telling.Plain := by
    constructor
    · simp [telling, Distinct, AllDistinct]
    · simp [telling, Described, AllDescribed, Note.Plain, Json.isTruthy]
  exact ⟨plain, schema_recovers plain⟩

/-- An empty description leaves no trace, so it is told from none by no schema. -/
example : (Shape.any { description := some (.str "") }).schema = (Shape.any {}).schema := rfl

end Shape

end QueryTools
