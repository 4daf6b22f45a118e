import Mathlib.Data.List.Flatten
import Mathlib.Data.List.Nodup
import QueryTools.Schema.Definition

/-!
# Documents that keep the rules

What follows from a document having no violations: every type that it mentions is known
(`Document.known_of_clean`), the fields of a type, those of its extensions among them, have
different names (`Document.nodup_fields_of_clean`, `Document.nodup_inputs_of_clean`), and so have the
values of an enum (`Document.nodup_values_of_clean`) and the arguments of a field or a directive
(`Document.nodup_arguments_of_clean`, `Document.nodup_arguments_of_directive`).

The walk over a document carries what was met so far.  Along a walk without violations each part of a
type is new when it is met, so that the parts met are all different.
-/

namespace QueryTools

namespace Document

/-! ## Going through what may occur once -/

/-- Where nothing is reported, what was seen has grown by what is new, each once. -/
theorem once_clean {α : Type} [BEq α] [LawfulBEq α] {report : α → Violation} {seen xs : List α}
    (clean : (once report seen xs).2 = []) :
    (once report seen xs).1 = xs.reverse ++ seen ∧
      (seen.Nodup → (once report seen xs).1.Nodup) := by
  induction xs generalizing seen with
  | nil => exact ⟨rfl, id⟩
  | cons x rest ih =>
      cases met : seen.contains x with
      | true => simp only [once, met, if_true, reduceCtorEq] at clean
      | false =>
          simp only [once, met, Bool.false_eq_true, if_false] at clean ⊢
          obtain ⟨all, distinct⟩ := ih clean
          refine ⟨by rw [all]; simp, fun before => ?_⟩
          refine distinct (List.nodup_cons.2 ⟨?_, before⟩)
          simpa using met

end Document

/-- What of a type may be defined once. -/
inductive TypePart where
  /-- A field, also one of an input object. -/
  | field
  /-- A value of an enum. -/
  | value

/-- The parts that a definition or an extension gives a type, with the type's name. -/
def TypeDefinition.parts (d : TypeDefinition) : TypePart → List (String × String)
  | .field => (Document.fieldsOf d.body).map (fun f => (d.name, f.name))
      ++ (Document.inputsOf d.body).map fun f => (d.name, f.name)
  | .value => (Document.valuesOf d.body).map fun v => (d.name, v.name)

/-- The same of any definition. -/
def Definition.parts (p : TypePart) : Definition → List (String × String)
  | .type d => d.parts p
  | .typeExtension d => d.parts p
  | _ => []

/-- The parts that a stop of a walk meets. -/
def Visit.parts (p : TypePart) : Visit → List (String × String)
  | .definition d => d.parts p
  | _ => []

/-- The parts that were met so far. -/
def Document.Seen.parts (seen : Document.Seen) : TypePart → List (String × String)
  | .field => seen.fields
  | .value => seen.enumValues

namespace Document

variable {doc : Document} {p : TypePart}

/-- The parts met after a stop without violations: those before, and the stop's own, all of them
different if those before were. -/
def MeetsParts (p : TypePart) (seen seen' : Seen) (met : List (String × String)) : Prop :=
  seen'.parts p = met.reverse ++ seen.parts p ∧ ((seen.parts p).Nodup → (seen'.parts p).Nodup)

/-- Where the same was seen before nothing is met. -/
theorem MeetsParts.of_eq {seen seen' : Seen} (same : seen'.parts p = seen.parts p) :
    MeetsParts p seen seen' [] := by
  refine ⟨same, fun before => ?_⟩
  rwa [same]

/-- The members of a definition without violations are met as its parts. -/
theorem meetsParts_checkMembers {seen : Seen} {d : TypeDefinition}
    (clean : (checkMembers seen d).2 = []) :
    MeetsParts p seen (checkMembers seen d).1 (d.parts p) := by
  unfold checkMembers at clean ⊢
  unfold TypeDefinition.parts MeetsParts
  cases body : d.body with
  | object interfaces fields =>
      simp only [body, List.append_eq_nil_iff] at clean ⊢
      cases p with
      | field => simpa [Seen.parts, fieldsOf, inputsOf] using once_clean clean.1
      | value => simp [Seen.parts, valuesOf]
  | interface interfaces fields =>
      simp only [body, List.append_eq_nil_iff] at clean ⊢
      cases p with
      | field => simpa [Seen.parts, fieldsOf, inputsOf] using once_clean clean.1
      | value => simp [Seen.parts, valuesOf]
  | input fields =>
      simp only [body] at clean ⊢
      cases p with
      | field => simpa [Seen.parts, fieldsOf, inputsOf] using once_clean clean
      | value => simp [Seen.parts, valuesOf]
  | enum values =>
      simp only [body] at clean ⊢
      cases p with
      | field => simp [Seen.parts, fieldsOf, inputsOf]
      | value => simpa [Seen.parts, valuesOf] using once_clean clean
  | _ => cases p <;> simp [Seen.parts, fieldsOf, inputsOf, valuesOf]

/-- What a stop notes beside the parts of types leaves them as they are. -/
theorem meetsParts_checkDefinition {seen : Seen} {d : Definition}
    (clean : (checkDefinition doc seen d).2 = []) :
    MeetsParts p seen (checkDefinition doc seen d).1 (d.parts p) := by
  cases d with
  | type d =>
      simp only [checkDefinition, List.append_eq_nil_iff] at clean ⊢
      obtain ⟨all, distinct⟩ := meetsParts_checkMembers (p := p) clean.1.2
      cases p <;> exact ⟨all, distinct⟩
  | typeExtension d =>
      simp only [checkDefinition, List.append_eq_nil_iff] at clean ⊢
      obtain ⟨all, distinct⟩ := meetsParts_checkMembers (p := p) clean.1.1
      cases p <;> exact ⟨all, distinct⟩
  | _ => cases p <;> exact MeetsParts.of_eq rfl

/-- What is visited without violations is met as its parts. -/
theorem meetsParts_check {seen : Seen} {v : Visit} (clean : (check doc seen v).2 = []) :
    MeetsParts p seen (check doc seen v).1 (v.parts p) := by
  cases v with
  | definition d => exact meetsParts_checkDefinition clean
  | objectField repeated name => cases repeated <;> exact MeetsParts.of_eq rfl
  | _ => exact MeetsParts.of_eq rfl

/-- Along a walk without violations the parts met are all different. -/
theorem nodup_parts {seen : Seen} {visits : List Visit}
    (clean : violationsFrom doc seen visits = []) (before : (seen.parts p).Nodup) :
    ((visits.flatMap (Visit.parts p)).reverse ++ seen.parts p).Nodup := by
  induction visits generalizing seen with
  | nil => exact before
  | cons v rest ih =>
      rw [violationsFrom, List.append_eq_nil_iff] at clean
      obtain ⟨all, distinct⟩ := meetsParts_check (p := p) clean.1
      have later := ih clean.2 (distinct before)
      rw [all] at later
      rwa [List.flatMap_cons, List.reverse_append, List.append_assoc]

/-- At each stop of a walk without violations nothing is wrong. -/
theorem exists_check_of_mem {seen : Seen} {visits : List Visit}
    (clean : violationsFrom doc seen visits = []) {v : Visit} (member : v ∈ visits) :
    ∃ seen', (check doc seen' v).2 = [] := by
  induction visits generalizing seen with
  | nil => cases member
  | cons w rest ih =>
      rw [violationsFrom, List.append_eq_nil_iff] at clean
      rcases List.mem_cons.1 member with rfl | later
      · exact ⟨seen, clean.1⟩
      · exact ih clean.2 later

/-! ## Known types -/

/-- Every type that a document without violations mentions is defined there, or every schema has
it. -/
theorem known_of_clean (clean : doc.violations = []) {name : String}
    (mentioned : .typeName true name ∈ doc.visits) :
    name ∈ doc.typeDefinitions.map TypeDefinition.name ∨ Standard.isStandard name = true := by
  obtain ⟨seen, known⟩ := exists_check_of_mem clean mentioned
  simp only [check, checkTypeName] at known
  split at known
  · rename_i found
    simpa using found
  · cases known

/-- A type definition or an extension of one stands in a document. -/
def Defines (doc : Document) (d : TypeDefinition) : Prop := .type d ∈ doc ∨ .typeExtension d ∈ doc

/-- The type of each field that is defined is visited. -/
theorem typeName_mem_visits {d : TypeDefinition} (defines : doc.Defines d) {f : FieldDefinition}
    (member : f ∈ fieldsOf d.body) : .typeName true f.type.name ∈ doc.visits := by
  have inField : Visit.typeName true f.type.name ∈ Visit.ofField f := by
    simp [Visit.ofField]
  have inType : Visit.typeName true f.type.name ∈ Visit.ofType d := by
    unfold fieldsOf at member
    unfold Visit.ofType
    cases body : d.body with
    | object interfaces fields =>
        simp only [body] at member ⊢
        exact List.mem_append_right _ (List.mem_flatMap.2 ⟨f, member, inField⟩)
    | interface interfaces fields =>
        simp only [body] at member ⊢
        exact List.mem_append_right _ (List.mem_flatMap.2 ⟨f, member, inField⟩)
    | _ => simp [body] at member
  unfold visits
  rw [List.mem_flatMap]
  rcases defines with defined | extended
  · exact ⟨_, defined, List.mem_cons_of_mem _ inType⟩
  · exact ⟨_, extended, List.mem_cons_of_mem _ inType⟩

/-! ## The fields of a type -/

/-- Each definition is visited, in the order of the document. -/
theorem sublist_visits (doc : Document) : (doc.map Visit.definition).Sublist doc.visits := by
  unfold visits
  induction doc with
  | nil => exact .slnil
  | cons d rest ih =>
      rw [List.map_cons, List.flatMap_cons, List.cons_append]
      exact (ih.trans (List.sublist_append_right _ _)).cons_cons _

/-- In a document without violations no part is defined twice. -/
theorem nodup_parts_of_clean (clean : doc.violations = []) :
    (doc.flatMap (Definition.parts p)).Nodup := by
  have none : (Seen.parts {} p).Nodup := by
    cases p <;> exact List.nodup_nil
  have all := (nodup_parts clean none).sublist (List.sublist_append_left _ _)
  rw [(List.reverse_perm _).nodup_iff] at all
  have part := (sublist_visits doc).flatMap (Visit.parts p)
  rw [List.flatMap_map] at part
  exact all.sublist part

/-- The extensions of a type are those before and those behind. -/
theorem extensionsOf_append (before behind : Document) (d : TypeDefinition) :
    extensionsOf (before ++ behind) d = extensionsOf before d ++ extensionsOf behind d := by
  unfold extensionsOf
  rw [List.filterMap_append]

/-- The parts that the extensions of a type give are among those that a document gives. -/
theorem sublist_extensionsOf (doc : Document) (d : TypeDefinition) :
    ((doc.extensionsOf d).flatMap fun e => e.parts p).Sublist (doc.flatMap (Definition.parts p)) := by
  induction doc with
  | nil => exact .slnil
  | cons e rest ih =>
      have skipped := ih.trans (List.sublist_append_right (e.parts p) _)
      rw [List.flatMap_cons]
      cases e with
      | typeExtension e =>
          by_cases extending : e.name = d.name ∧ e.body.kind = d.body.kind
          · have first : extensionsOf (.typeExtension e :: rest) d = e :: extensionsOf rest d := by
              simp [extensionsOf, extending]
            rw [first, List.flatMap_cons]
            exact ih.append_left (e.parts p)
          · have first : extensionsOf (.typeExtension e :: rest) d = extensionsOf rest d := by
              simp [extensionsOf, extending]
            rw [first]
            exact skipped
      | _ => exact skipped

/-- A type and its extensions define no part twice. -/
theorem nodup_parts_of_type (clean : doc.violations = []) {d : TypeDefinition}
    (defined : .type d ∈ doc) : ((d :: doc.extensionsOf d).flatMap fun e => e.parts p).Nodup := by
  obtain ⟨before, behind, rfl⟩ := List.append_of_mem defined
  have all := nodup_parts_of_clean (p := p) clean
  rw [List.flatMap_append, List.flatMap_cons] at all
  have moved := (List.perm_append_comm_assoc _ _ _).nodup all
  have same : extensionsOf (before ++ .type d :: behind) d =
      extensionsOf before d ++ extensionsOf behind d := extensionsOf_append _ _ d
  rw [same, List.flatMap_cons, List.flatMap_append]
  refine moved.sublist ?_
  exact ((sublist_extensionsOf before d).append (sublist_extensionsOf behind d)).append_left _

/-- The parts of a type, those of its extensions among them, have different names where the document
has no violations. -/
theorem nodup_names_of_clean (clean : doc.violations = []) {d : TypeDefinition}
    (defined : .type d ∈ doc) (names : TypeDefinition → List String)
    (among : ∀ e, ((names e).map fun name => (e.name, name)).Sublist (e.parts p)) :
    ((d :: doc.extensionsOf d).flatMap names).Nodup := by
  have all := nodup_parts_of_type (p := p) clean defined
  have named : ∀ e ∈ d :: doc.extensionsOf d, e.name = d.name := by
    intro e member
    rcases List.mem_cons.1 member with rfl | extending
    · rfl
    · obtain ⟨x, -, found⟩ := List.mem_filterMap.1 extending
      cases x with
      | typeExtension y =>
          simp only [Option.ite_none_right_eq_some, Option.some.injEq] at found
          rw [← found.2]
          exact found.1.1
      | _ => cases found
  generalize d :: doc.extensionsOf d = ds at all named
  have part : ((ds.flatMap names).map fun name => (d.name, name)).Sublist
      (ds.flatMap fun e => e.parts p) := by
    rw [List.map_flatMap]
    refine List.Sublist.flatMap_right ds fun e member => ?_
    rw [← named e member]
    exact among e
  have pairs := all.sublist part
  exact List.Nodup.of_map _ pairs

/-- The fields of a type, those of its extensions among them, have different names where the
document has no violations. -/
theorem nodup_fields_of_clean (clean : doc.violations = []) {d : TypeDefinition}
    (defined : .type d ∈ doc) :
    ((((d :: doc.extensionsOf d).map TypeDefinition.body).flatMap fieldsOf).map
      FieldDefinition.name).Nodup := by
  have all := nodup_names_of_clean (p := .field) clean defined
    (fun e => (fieldsOf e.body).map FieldDefinition.name) fun e => by
      rw [List.map_map]
      exact List.sublist_append_left _ _
  rw [List.flatMap_map, List.map_flatMap]
  exact all

/-- The same of the fields of an input object. -/
theorem nodup_inputs_of_clean (clean : doc.violations = []) {d : TypeDefinition}
    (defined : .type d ∈ doc) :
    ((((d :: doc.extensionsOf d).map TypeDefinition.body).flatMap inputsOf).map
      InputDefinition.name).Nodup := by
  have all := nodup_names_of_clean (p := .field) clean defined
    (fun e => (inputsOf e.body).map InputDefinition.name) fun e => by
      rw [List.map_map]
      exact List.sublist_append_right _ _
  rw [List.flatMap_map, List.map_flatMap]
  exact all

/-- The same of the values of an enum. -/
theorem nodup_values_of_clean (clean : doc.violations = []) {d : TypeDefinition}
    (defined : .type d ∈ doc) :
    ((((d :: doc.extensionsOf d).map TypeDefinition.body).flatMap valuesOf).map
      EnumValueDefinition.name).Nodup := by
  have all := nodup_names_of_clean (p := .value) clean defined
    (fun e => (valuesOf e.body).map EnumValueDefinition.name) fun e => by
      rw [List.map_map]
      exact List.Sublist.refl _
  rw [List.flatMap_map, List.map_flatMap]
  exact all

/-! ## The arguments of a field -/

/-- Names of which none is repeated are different. -/
theorem nodup_of_repeated {names : List String} (once : repeated names = []) : names.Nodup := by
  rw [List.nodup_iff_count_le_one]
  intro name
  by_contra more
  have present : name ∈ names := List.count_pos_iff.1 (by omega)
  have met : name ∈ repeated names := by
    refine List.mem_filter.2 ⟨List.mem_eraseDups.2 present, ?_⟩
    exact decide_eq_true (by omega)
  rw [once] at met
  cases met

/-- A field without violations has arguments with different names. -/
theorem nodup_arguments_of_checkMembers {seen : Seen} {d : TypeDefinition}
    (clean : (checkMembers seen d).2 = []) {f : FieldDefinition} (member : f ∈ fieldsOf d.body) :
    (f.arguments.map InputDefinition.name).Nodup := by
  have checked : (fieldsOf d.body).flatMap
      (fun f => checkArguments (d.name ++ "." ++ f.name) f.arguments) = [] := by
    unfold checkMembers at clean
    unfold fieldsOf
    cases body : d.body with
    | object interfaces fields =>
        simp only [body, List.append_eq_nil_iff] at clean
        exact clean.2
    | interface interfaces fields =>
        simp only [body, List.append_eq_nil_iff] at clean
        exact clean.2
    | _ => rfl
  have own := List.flatMap_eq_nil_iff.1 checked f member
  exact nodup_of_repeated (List.map_eq_nil_iff.1 own)

/-- The arguments of a field have different names where the document has no violations. -/
theorem nodup_arguments_of_clean (clean : doc.violations = []) {d : TypeDefinition}
    (defines : doc.Defines d) {f : FieldDefinition} (member : f ∈ fieldsOf d.body) :
    (f.arguments.map InputDefinition.name).Nodup := by
  rcases defines with defined | extended
  · have visited : .definition (.type d) ∈ doc.visits :=
      List.mem_flatMap.2 ⟨_, defined, List.mem_cons_self⟩
    obtain ⟨seen, once⟩ := exists_check_of_mem clean visited
    simp only [check, checkDefinition, List.append_eq_nil_iff] at once
    exact nodup_arguments_of_checkMembers once.1.2 member
  · have visited : .definition (.typeExtension d) ∈ doc.visits :=
      List.mem_flatMap.2 ⟨_, extended, List.mem_cons_self⟩
    obtain ⟨seen, once⟩ := exists_check_of_mem clean visited
    simp only [check, checkDefinition, List.append_eq_nil_iff] at once
    exact nodup_arguments_of_checkMembers once.1.1 member

/-- The arguments of a directive have different names where the document has no violations. -/
theorem nodup_arguments_of_directive (clean : doc.violations = []) {d : DirectiveDefinition}
    (defined : .directive d ∈ doc) : (d.arguments.map InputDefinition.name).Nodup := by
  have visited : .definition (.directive d) ∈ doc.visits :=
    List.mem_flatMap.2 ⟨_, defined, List.mem_cons_self⟩
  obtain ⟨seen, once⟩ := exists_check_of_mem clean visited
  simp only [check, checkDefinition, List.append_eq_nil_iff] at once
  exact nodup_of_repeated (List.map_eq_nil_iff.1 once.1.1)

end Document

end QueryTools
