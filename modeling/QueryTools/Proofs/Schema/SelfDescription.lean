import QueryTools.Proofs.Schema.Entries

/-!
# What a schema tells of itself is understood

The answer to an introspection query on a schema is read as a schema with the same types, of which it
forgets no more than the query leaves out.

Main statement: `Schema.retells_of_selfDescription?`.
-/

namespace QueryTools

/-! ## Types as they are told -/

namespace Inquiry

/-- A type as far as it is told. -/
def told (q : Inquiry) (t : NamedType) : NamedType :=
  { t with
    form := match t.form with
      | .scalar specifiedBy => .scalar (if q.extended then specifiedBy else none)
      | .input fields oneOf => .input fields (q.extended && oneOf)
      | form => form }

variable (q : Inquiry) (s : Schema) (types : List NamedType) (t : NamedType)

/-- What the entry of a type says it is. -/
def outline : Introspection.Outline :=
  if Standard.isStandard t.name then .standard
  else match t.form with
    | .scalar specifiedBy => .scalar (if q.extended then specifiedBy else none)
    | .object .. => .object (q.type s types t)
    | .interface .. => .interface (q.type s types t)
    | .union members => .union (q.references s members)
    | .enum values _ => .enum values
    | .input fields oneOf => .input (q.inputValues s fields) (q.extended && oneOf)

/-- A type as its entry lists it. -/
def listed : Introspection.Listed :=
  { name := t.name, description := t.description, outline := q.outline s types t }

/-- A declared type all of whose parts can be told and are. -/
structure Covers (order : List String) : Prop where
  tellable : t.Tellable
  tells : q.tells s t = true
  references : ∀ name ∈ t.references, name ∈ order
  undeprecated : ∀ v ∈ t.inputValues, v.deprecation = none

end Inquiry

namespace Introspection

variable {index : Index} {s : Schema} {order : List String} {q : Inquiry}

/-! ## Types that every schema has -/

/-- Whether a type has a kind of those that every schema has, and nothing that may not be told. -/
def plain (t : NamedType) : Bool :=
  match t.form with
  | .scalar specifiedBy => specifiedBy.isNone
  | .object .. | .enum .. => true
  | _ => false

/-- The types that every schema has are plain, and known by their kinds. -/
theorem plain_types :
    Standard.types.all (fun t => plain t && standardKind? t.name == some t.form.kind) = true := by
  decide +kernel

/-- A plain type is told as it is. -/
theorem told_of_plain {t : NamedType} (simple : plain t = true) : q.told t = t := by
  obtain ⟨name, description, form⟩ := t
  unfold plain at simple
  unfold Inquiry.told
  cases form with
  | scalar specifiedBy =>
      rw [Option.isNone_iff_eq_none] at simple
      simp only [simple, ite_self]
  | input fields oneOf => cases simple
  | _ => rfl

/-- The kind of a type that every schema has is known by its name. -/
theorem standardKind?_of_find? {name : String} {t : NamedType} (found : s.find? name = some t) :
    standardKind? name = if Standard.isStandard name then some t.form.kind else none := by
  cases standard : Standard.isStandard name with
  | true =>
      have member := Schema.mem_types_of_isStandard standard found
      have both := List.all_eq_true.1 plain_types t member
      rw [Bool.and_eq_true, beq_iff_eq, Schema.name_of_find? found] at both
      exact both.2
  | false =>
      rw [standardKind?, Schema.standard_find?_eq_none standard]
      rfl

/-- A type under a name that every schema has is plain. -/
theorem plain_of_find? {name : String} {t : NamedType} (found : s.find? name = some t)
    (standard : Standard.isStandard name = true) : plain t = true := by
  have member := Schema.mem_types_of_isStandard standard found
  have both := List.all_eq_true.1 plain_types t member
  rw [Bool.and_eq_true] at both
  exact both.1

/-! ## Listed types -/

section Listed

variable {types : List NamedType} {t : NamedType}

/-- A type whose name may be reserved is listed as it is made, or as one that every schema has. -/
theorem reservable_of_find? (found : s.find? t.name = some t) (named : Lexer.isName t.name = true)
    {make : Step Outline} {outline : Outline} (makes : Standard.isStandard t.name = false → make = .ok outline) :
    reservable (.str t.name) t.form.kind make =
      .ok (t.name, if Standard.isStandard t.name then .standard else outline) := by
  have known := standardKind?_of_find? found
  refine Outcome.bind_eq_ok.2 ⟨.str t.name, rfl, ?_⟩
  cases standard : Standard.isStandard t.name with
  | true =>
      rw [standard] at known
      simp only [known, if_true]
      rfl
  | false =>
      rw [standard] at known
      simp only [known]
      refine Outcome.bind_eq_ok.2 ⟨outline, makes standard, ?_⟩
      exact Outcome.bind_eq_ok.2 ⟨_, checkName_of_isName named, rfl⟩

/-- A type that is not plain is listed as it is made. -/
theorem unreservable_of_find? (found : s.find? t.name = some t) (named : Lexer.isName t.name = true)
    (own : plain t = false) (outline : Outline) :
    unreservable (.str t.name) outline =
      .ok (t.name, if Standard.isStandard t.name then .standard else outline) := by
  have known := standardKind?_of_find? found
  cases standard : Standard.isStandard t.name with
  | true =>
      rw [plain_of_find? found standard] at own
      cases own
  | false =>
      rw [standard] at known
      refine Outcome.bind_eq_ok.2 ⟨.str t.name, rfl, ?_⟩
      simp only [known]
      exact Outcome.bind_eq_ok.2 ⟨_, checkName_of_isName named, rfl⟩

/-- Where scalars are specified is told if the query asks for it. -/
theorem specifiedBy_type {name : String} {said specifiedBy : Option String} :
    text? (q.type s types ⟨name, said, .scalar specifiedBy⟩) "specifiedByURL" =
      if q.extended then specifiedBy else none := by
  unfold Inquiry.type
  cases q.extended with
  | true => exact text?_of_get? rfl
  | false => rfl

/-- Of which input objects one field must be given is told if the query asks for it. -/
theorem oneOf_type {name : String} {said : Option String} {fields : List InputValue} {oneOf : Bool} :
    flag (q.type s types ⟨name, said, .input fields oneOf⟩) "isOneOf" = (q.extended && oneOf) := by
  unfold Inquiry.type
  cases q.extended <;> rfl

/-- The values of an enum that is covered are read as they are. -/
theorem enumValues_of_covers (covered : q.Covers s t order) {values : List EnumValue}
    {fault : Option String} (form : t.form = .enum values fault) :
    enumValues (.arr (values.map Inquiry.enumValue)) = .ok values := by
  have tells := covered.tells
  rw [Inquiry.tells, form] at tells
  have told : fault = none := Option.isNone_iff_eq_none.1 tells
  obtain ⟨distinct, each⟩ := covered.tellable.values values (by rw [form, told])
  exact enumValues_of_forall distinct each

/-- The entry of a type lists it. -/
theorem listed_type (found : s.find? t.name = some t) (named : Lexer.isName t.name = true)
    (covers : Standard.isStandard t.name = false → q.Covers s t order) :
    Introspection.listed (q.type s types t) = .ok (q.listed s types t) := by
  have own : member "name" (q.type s types t) = .ok (.str t.name) := member_of_get? rfl
  have word : (q.type s types t).get? "kind" = some (.str (Inquiry.kindWord t.form.kind)) := rfl
  have description : text? (q.type s types t) "description" = t.description := text?_of_get? rfl
  refine Outcome.bind_eq_ok.2 ⟨_, own, ?_⟩
  rw [word]
  refine Outcome.bind_eq_ok.2 ⟨.str (Inquiry.kindWord t.form.kind), rfl, ?_⟩
  obtain ⟨name, said, form⟩ := t
  cases form with
  | scalar specifiedBy =>
      have made : reservable (.str name) .scalar (.ok (.scalar
          (text? (q.type s types ⟨name, said, .scalar specifiedBy⟩) "specifiedByURL"))) = _ :=
        reservable_of_find? found named fun _ => rfl
      refine Outcome.bind_eq_ok.2 ⟨_, made, ?_⟩
      rw [description, specifiedBy_type]
      rfl
  | object interfaces fields =>
      have made : reservable (.str name) .object
          (.ok (.object (q.type s types ⟨name, said, .object interfaces fields⟩))) = _ :=
        reservable_of_find? found named fun _ => rfl
      refine Outcome.bind_eq_ok.2 ⟨_, made, ?_⟩
      rw [description]
      rfl
  | interface interfaces fields =>
      have made := unreservable_of_find? found named rfl
        (.interface (q.type s types ⟨name, said, .interface interfaces fields⟩))
      refine Outcome.bind_eq_ok.2 ⟨_, made, ?_⟩
      rw [description]
      rfl
  | union members =>
      have made := unreservable_of_find? found named rfl (.union (q.references s members))
      have has : optional "possibleTypes" (q.type s types ⟨name, said, .union members⟩) =
          .ok (q.references s members) := optional_of_get? rfl
      refine Outcome.bind_eq_ok.2 ⟨_, has, ?_⟩
      refine Outcome.bind_eq_ok.2 ⟨_, made, ?_⟩
      rw [description]
      rfl
  | enum values fault =>
      have read : Standard.isStandard name = false →
          Outline.enum <$> enumValues (.arr (values.map Inquiry.enumValue)) = .ok (.enum values) := by
        intro own
        rw [enumValues_of_covers (covers own) rfl]
        rfl
      have made := reservable_of_find? found named read
      have has : optional "enumValues" (q.type s types ⟨name, said, .enum values fault⟩) =
          .ok (.arr (values.map Inquiry.enumValue)) := optional_of_get? rfl
      refine Outcome.bind_eq_ok.2 ⟨_, has, ?_⟩
      refine Outcome.bind_eq_ok.2 ⟨_, made, ?_⟩
      rw [description]
      rfl
  | input fields oneOf =>
      have made := unreservable_of_find? found named rfl
        (.input (q.inputValues s fields) (q.extended && oneOf))
      have has : optional "inputFields" (q.type s types ⟨name, said, .input fields oneOf⟩) =
          .ok (q.inputValues s fields) := optional_of_get? rfl
      refine Outcome.bind_eq_ok.2 ⟨_, has, ?_⟩
      rw [oneOf_type]
      refine Outcome.bind_eq_ok.2 ⟨_, made, ?_⟩
      rw [description]
      rfl

/-- A listed type has the kind of what it lists. -/
theorem kind_listed (q : Inquiry) (types : List NamedType) (found : s.find? t.name = some t) :
    (q.listed s types t).kind = t.form.kind := by
  have known := standardKind?_of_find? found
  unfold Inquiry.listed Inquiry.outline Listed.kind
  cases standard : Standard.isStandard t.name with
  | true =>
      rw [standard] at known
      simp only [if_true, known, Option.getD_some]
  | false => cases form : t.form <;> rfl

/-! ## Parts of listed types -/

/-- The interfaces and fields of a type with fields are read as they are. -/
theorem Knows.parts (knows : Knows index s order) (covered : q.Covers s t order)
    {interfaces : List String} {fields : List OutputField}
    (form : t.form = .object interfaces fields ∨ t.form = .interface interfaces fields)
    (optionalHere : Bool) :
    Introspection.interfaces index (q.type s types t) optionalHere = .ok interfaces ∧
      Introspection.outputFields index t.name (q.type s types t) = .ok fields := by
  have has : t.outputFields? = some fields := by
    unfold NamedType.outputFields?
    rcases form with form | form <;> rw [form]
  have mentions : ∀ name, name ∈ interfaces ∨ (∃ f ∈ fields, name = f.type.name ∨
      ∃ a ∈ f.arguments, name = a.type.name) → name ∈ order := by
    intro name mentioned
    refine covered.references name ?_
    have listed : name ∈ interfaces ++ fields.flatMap fun f =>
        f.type.name :: f.arguments.map fun a => a.type.name := by
      rw [List.mem_append, List.mem_flatMap]
      refine mentioned.imp_right fun ⟨f, own, either⟩ => ⟨f, own, ?_⟩
      rcases either with rfl | ⟨a, given, rfl⟩
      · exact List.mem_cons_self
      · exact List.mem_cons_of_mem _ (List.mem_map_of_mem given)
    unfold NamedType.references
    rcases form with form | form <;> rw [form] <;> exact listed
  have tells : (interfaces.all (Inquiry.names s .interface) && fields.all (q.gives s)) = true := by
    have tells := covered.tells
    unfold Inquiry.tells at tells
    rcases form with form | form <;> rw [form] at tells <;> exact tells
  rw [Bool.and_eq_true, List.all_eq_true, List.all_eq_true] at tells
  obtain ⟨distinct, tellable⟩ := covered.tellable.fields fields has
  have shown : (q.type s types t).get? "interfaces" = some (q.references s interfaces) ∧
      (q.type s types t).get? "fields" = some (.arr (fields.map (q.outputField s))) := by
    unfold Inquiry.type Inquiry.parts
    rcases form with form | form <;> rw [form] <;> exact ⟨rfl, rfl⟩
  constructor
  · exact knows.interfaces tells.1 (fun name member => mentions name (.inl member)) shown.1 optionalHere
  · refine knows.outputFields distinct tellable tells.2 (fun f own => ⟨?_, fun a given => ?_⟩) ?_ shown.2 _
    · exact mentions _ (.inr ⟨f, own, .inl rfl⟩)
    · exact mentions _ (.inr ⟨f, own, .inr ⟨a, given, rfl⟩⟩)
    · intro f own a given
      exact covered.undeprecated a (NamedType.mem_inputValues_of_argument has own given)

/-- A listed type is read as what was told of it; one that every schema has needs no reading. -/
theorem Knows.resolve (knows : Knows index s order)
    (covers : Standard.isStandard t.name = false → q.Covers s t order) :
    resolve index (q.listed s types t) =
      .ok (if Standard.isStandard t.name then none else some (q.told t)) := by
  unfold Inquiry.listed Inquiry.outline
  cases standard : Standard.isStandard t.name with
  | true => rfl
  | false =>
      have covered := covers standard
      have parts := @Knows.parts _ _ _ _ types _ knows covered
      obtain ⟨name, said, form⟩ := t
      cases form with
      | scalar specifiedBy => rfl
      | object interfaces fields =>
          obtain ⟨first, second⟩ := parts (.inl rfl) false
          refine Outcome.bind_eq_ok.2 ⟨_, Outcome.mapError_eq_ok.2 first, ?_⟩
          exact Outcome.bind_eq_ok.2 ⟨_, second, rfl⟩
      | interface interfaces fields =>
          obtain ⟨first, second⟩ := parts (.inr rfl) true
          refine Outcome.bind_eq_ok.2 ⟨_, Outcome.mapError_eq_ok.2 first, ?_⟩
          exact Outcome.bind_eq_ok.2 ⟨_, second, rfl⟩
      | union members =>
          have are : members.all (Inquiry.names s .object) = true := covered.tells
          have read := knows.mapM_ofKind (List.all_eq_true.1 are) covered.references (q.wrappers != 0) "Object"
          refine Outcome.bind_eq_ok.2 ⟨_, Outcome.mapError_eq_ok.2 ?_, rfl⟩
          exact Outcome.bind_eq_ok.2 ⟨_, rfl, read⟩
      | enum values fault =>
          have told : fault = none := Option.isNone_iff_eq_none.1 covered.tells
          rw [told]
          rfl
      | input fields oneOf =>
          have takes : fields.all (q.takes s) = true := covered.tells
          have tellable := covered.tellable.inputs fields oneOf rfl
          have told : ∀ v ∈ fields, v.type.name ∈ order :=
            fun v member => covered.references _ (List.mem_map_of_mem member)
          have read := knows.inputFields tellable (List.all_eq_true.1 takes) told name
          have all : fields.filter (shows q) = fields := filter_shows covered.undeprecated
          rw [all] at read
          exact Outcome.bind_eq_ok.2 ⟨_, read, rfl⟩

end Listed

end Introspection

/-! ## Schemas -/

namespace Inquiry

/-- All that a schema can tell of itself is told under the given names. -/
structure Whole (q : Inquiry) (s : Schema) (order : List String) : Prop where
  distinct : order.Nodup
  known : ∀ name ∈ order, ∃ t, s.find? name = some t
  declared : ∀ t ∈ s.types, t.name ∈ order
  types : ∀ t ∈ order.filterMap s.find?, (∀ name ∈ t.references, name ∈ order) ∧ q.tells s t = true
  directives : ∀ d ∈ s.directives, ∀ a ∈ d.arguments, a.type.name ∈ order ∧ q.takes s a = true
  roots : ∀ kind name, s.root? kind = some name → name ∈ order ∧ names s .object name = true

variable {q : Inquiry} {s : Schema} {order : List String}

/-- What is checked of an inquiry makes it whole. -/
theorem whole_of_tellsAll (tells : q.tellsAll s order = true) : q.Whole s order := by
  simp only [tellsAll, Bool.and_eq_true, List.all_eq_true, decide_eq_true_eq,
    List.contains_iff_mem] at tells
  obtain ⟨⟨⟨⟨⟨distinct, known⟩, declared⟩, types⟩, directives⟩, roots⟩ := tells
  refine ⟨distinct, ?_, declared, types, directives, fun kind name starts => ?_⟩
  · exact fun name member => Option.isSome_iff_exists.1 (known name member)
  · have here := roots kind (by cases kind <;> simp)
    rw [starts, Option.all_some, Bool.and_eq_true, List.contains_iff_mem] at here
    exact here

/-- The types told are those found under the names. -/
theorem find?_of_mem_told {t : NamedType} (member : t ∈ order.filterMap s.find?) :
    t.name ∈ order ∧ s.find? t.name = some t := by
  obtain ⟨name, told, found⟩ := List.mem_filterMap.1 member
  rw [Schema.name_of_find? found]
  exact ⟨told, found⟩

/-- A whole inquiry tells of all types in its order. -/
theorem Whole.names_told (whole : q.Whole s order) :
    (order.filterMap s.find?).map NamedType.name = order := by
  have known := whole.known
  clear whole
  induction order with
  | nil => rfl
  | cons name rest ih =>
      obtain ⟨t, found⟩ := known name List.mem_cons_self
      have later := ih fun other member => known other (List.mem_cons_of_mem _ member)
      rw [List.filterMap_cons, found]
      simp only [List.map_cons, later, Schema.name_of_find? found]

end Inquiry

/-- A schema has the types of another as far as they are told, and the same roots. -/
structure Schema.Retells (q : Inquiry) (s s' : Schema) : Prop where
  find : ∀ name, s'.find? name = (s.find? name).map q.told
  root : ∀ kind, s'.root? kind = s.root? kind

namespace Introspection

variable {s : Schema} {order : List String} {q : Inquiry}

/-- What is told of is named as types are. -/
theorem isName_of_mem_told (tellable : s.Tellable) {t : NamedType} (member : t ∈ order.filterMap s.find?) :
    Lexer.isName t.name = true := by
  rcases Schema.mem_of_find? (Inquiry.find?_of_mem_told member).2 with standard | declared
  · exact List.all_eq_true.1 named_standard_types t standard
  · exact (tellable.types t declared).named

/-- A whole inquiry covers each of the schema's own types. -/
theorem covers_of_whole (whole : q.Whole s order) (tellable : s.Tellable)
    (undeprecated : ∀ t ∈ s.types, ∀ v ∈ t.inputValues, v.deprecation = none) {t : NamedType}
    (member : t ∈ order.filterMap s.find?) (own : Standard.isStandard t.name = false) :
    q.Covers s t order := by
  obtain ⟨references, tells⟩ := whole.types t member
  rcases Schema.mem_of_find? (Inquiry.find?_of_mem_told member).2 with standard | declared
  · have reserved : Standard.isStandard t.name = true :=
      List.any_eq_true.2 ⟨t, standard, beq_self_eq_true t.name⟩
    rw [own] at reserved
    cases reserved
  · exact ⟨tellable.types t declared, tells, references, undeprecated t declared⟩

/-- The types that are told under names, as their entries list them. -/
def entries (q : Inquiry) (s : Schema) (order : List String) : List Listed :=
  (order.filterMap s.find?).map (q.listed s (order.filterMap s.find?))

/-- The entries of a whole inquiry have the names that it tells of. -/
theorem names_entries (whole : q.Whole s order) : (entries q s order).map Listed.name = order := by
  rw [entries, List.map_map]
  exact whole.names_told

/-- These names are different. -/
theorem nodup_names_entries {α : Type} (whole : q.Whole s order) (value : Listed → α) :
    (Keyed.names ((entries q s order).map fun l => (l.name, value l))).Nodup := by
  rw [Keyed.names, List.map_map]
  show ((entries q s order).map Listed.name).Nodup
  rw [names_entries whole]
  exact whole.distinct

/-- The types that are told are known by their names. -/
theorem knows_of_whole (whole : q.Whole s order) (tellable : s.Tellable) :
    Knows ((entries q s order).map fun l => (l.name, l.kind)) s order := by
  constructor
  · intro name told
    obtain ⟨t, found⟩ := whole.known name told
    have member := List.mem_filterMap.2 ⟨name, told, found⟩
    refine ⟨t, found, ?_⟩
    have same : t.name = name := Schema.name_of_find? found
    have pair : (name, t.form.kind) ∈ (entries q s order).map fun l => (l.name, l.kind) := by
      refine List.mem_map.2 ⟨_, List.mem_map_of_mem member, ?_⟩
      have kind := kind_listed q (order.filterMap s.find?) (Inquiry.find?_of_mem_told member).2
      rw [kind]
      exact congrArg (·, t.form.kind) same
    exact Keyed.get?_of_mem (nodup_names_entries whole Listed.kind) pair
  · intro name told
    obtain ⟨t, found⟩ := whole.known name told
    rw [← Schema.name_of_find? found]
    exact isName_of_mem_told tellable (List.mem_filterMap.2 ⟨name, told, found⟩)

/-- The schema that is made of all that is told under names. -/
def retold (q : Inquiry) (s : Schema) (order : List String) : Schema :=
  { description := text? (q.description s order) "description"
    types := ((order.filterMap s.find?).map fun t =>
      if Standard.isStandard t.name then none else some (q.told t)).filterMap id
    listed := ((entries q s order).map Listed.name).filter Standard.isStandard
    directives := s.directives.map (toldDirective q)
    query := s.query, mutation := s.mutation, subscription := s.subscription }

/-- The types that are retold are the schema's own as they are told. -/
theorem mem_types_retold {u : NamedType} :
    u ∈ (retold q s order).types ↔
      ∃ t ∈ order.filterMap s.find?, Standard.isStandard t.name = false ∧ q.told t = u := by
  simp only [retold, List.mem_filterMap, List.mem_map, id]
  constructor
  · rintro ⟨_, ⟨t, member, rfl⟩, is⟩
    split at is
    · cases is
    · rename_i own
      exact ⟨t, member, Bool.eq_false_iff.2 own, Option.some_inj.1 is⟩
  · rintro ⟨t, member, own, rfl⟩
    exact ⟨_, ⟨t, member, rfl⟩, by rw [own]; rfl⟩

/-- A type with a name of its own is found in the schema that is made as it was told. -/
theorem exists_of_find?_retold {name : String} (standard : Standard.isStandard name = false)
    {u : NamedType} (found : (retold q s order).find? name = some u) :
    ∃ t, s.find? name = some t ∧ q.told t = u := by
  have called : u.name = name := Schema.name_of_find? found
  rw [Schema.find?_of_own _ standard] at found
  obtain ⟨t, member, -, rfl⟩ := mem_types_retold.1 (List.mem_of_find?_eq_some found)
  have told := (Inquiry.find?_of_mem_told member).2
  exact ⟨t, called ▸ told, rfl⟩

/-- In the schema that is made the types are found as they were told. -/
theorem find?_retold (whole : q.Whole s order) (name : String) :
    (retold q s order).find? name = (s.find? name).map q.told := by
  cases standard : Standard.isStandard name with
  | true =>
      obtain ⟨t, found⟩ := Option.isSome_iff_exists.1 (List.find?_isSome.2 (List.any_eq_true.1 standard))
      have here : ∀ r : Schema, r.find? name = some t := by
        intro r
        rw [Schema.find?, found]
      rw [here s, here (retold q s order), Option.map_some,
        told_of_plain (plain_of_find? (here s) standard)]
  | false =>
      cases found : s.find? name with
      | none =>
          refine Option.eq_none_iff_forall_ne_some.2 fun u there => ?_
          obtain ⟨t, here, -⟩ := exists_of_find?_retold standard there
          rw [found] at here
          cases here
      | some t =>
          have called : t.name = name := Schema.name_of_find? found
          have declared : t ∈ s.types := by
            rw [s.find?_of_own standard] at found
            exact List.mem_of_find?_eq_some found
          have told : t ∈ order.filterMap s.find? :=
            List.mem_filterMap.2 ⟨_, whole.declared t declared, by rw [called, found]⟩
          have there : q.told t ∈ (retold q s order).types :=
            mem_types_retold.2 ⟨t, told, by rw [called]; exact standard, rfl⟩
          have some : ((retold q s order).find? name).isSome = true := by
            rw [Schema.find?_of_own _ standard]
            exact List.find?_isSome.2 ⟨_, there, beq_iff_eq.2 called⟩
          obtain ⟨u, here⟩ := Option.isSome_iff_exists.1 some
          obtain ⟨w, again, rfl⟩ := exists_of_find?_retold standard here
          rw [found] at again
          cases again
          exact here

/-- All that a schema tells of itself is read. -/
theorem schemaOf_description (whole : q.Whole s order) (tellable : s.Tellable)
    (undeprecated : ∀ t ∈ s.types, ∀ v ∈ t.inputValues, v.deprecation = none) :
    schemaOf (q.description s order) = .ok (retold q s order) := by
  let told := order.filterMap s.find?
  have knows := knows_of_whole whole tellable
  have covers : ∀ t ∈ told, Standard.isStandard t.name = false → q.Covers s t order :=
    fun t member => covers_of_whole whole tellable undeprecated member
  have types : member "types" (q.description s order) = .ok (.arr (told.map (q.type s told))) :=
    member_of_get? rfl
  have listed : (told.map (q.type s told)).mapM Introspection.listed = .ok (entries q s order) :=
    Outcome.mapM_map_of_forall fun t member => listed_type (Inquiry.find?_of_mem_told member).2
      (isName_of_mem_told tellable member) (covers t member)
  have once : (Keyed.ofPairs ((entries q s order).map fun l => (l.name, l))).map Prod.snd =
      entries q s order := by
    rw [Keyed.ofPairs_of_nodup (nodup_names_entries whole fun l => l), List.map_map]
    exact List.map_id _
  have directives : optional "directives" (q.description s order) =
      .ok (.arr (s.directives.map (q.directive s))) := optional_of_get? rfl
  have resolved : (entries q s order).mapM
      (resolve ((entries q s order).map fun l => (l.name, l.kind))) =
        .ok (told.map fun t => if Standard.isStandard t.name then none else some (q.told t)) :=
    Outcome.mapM_map_of_forall fun t member => knows.resolve (covers t member)
  have read : (s.directives.map (q.directive s)).mapM
      (directiveType ((entries q s order).map fun l => (l.name, l.kind))) =
        .ok (s.directives.map (toldDirective q)) :=
    Outcome.mapM_map_of_forall fun d member => knows.directiveType (tellable.directives d member)
      (fun a own => (whole.directives d member a own).2) fun a own => (whole.directives d member a own).1
  refine Outcome.bind_eq_ok.2 ⟨_, types, ?_⟩
  refine Outcome.bind_eq_ok.2 ⟨_, rfl, ?_⟩
  refine Outcome.bind_eq_ok.2 ⟨_, listed, ?_⟩
  dsimp only
  rw [once]
  refine Outcome.bind_eq_ok.2 ⟨_, knows.root (whole.roots .query) rfl, ?_⟩
  refine Outcome.bind_eq_ok.2 ⟨_, knows.root (whole.roots .mutation) rfl, ?_⟩
  refine Outcome.bind_eq_ok.2 ⟨_, knows.root (whole.roots .subscription) rfl, ?_⟩
  refine Outcome.bind_eq_ok.2 ⟨_, directives, ?_⟩
  split
  · refine Outcome.bind_eq_ok.2 ⟨_, rfl, ?_⟩
    refine Outcome.bind_eq_ok.2 ⟨_, read, ?_⟩
    exact Outcome.bind_eq_ok.2 ⟨_, resolved, rfl⟩
  · rename_i empty
    have none : s.directives = [] := by simpa [Json.isTruthy] using empty
    refine Outcome.bind_eq_ok.2 ⟨[], rfl, ?_⟩
    refine Outcome.bind_eq_ok.2 ⟨_, resolved, ?_⟩
    simp only [retold, none]
    rfl

end Introspection

namespace Schema

/-- **What a schema tells of itself is understood.**  The answer to an introspection query is read as a schema
with the same roots and with the same types as far as the query has them told. -/
theorem retells_of_selfDescription? {s : Schema} {q : Inquiry} {order : List String} {answer : Json}
    (tellable : s.Tellable)
    (undeprecated : ∀ t ∈ s.types, ∀ v ∈ t.inputValues, v.deprecation = none)
    (told : s.selfDescription? q order = some answer) :
    ∃ s', Schema.ofIntrospection (.obj [("data", answer)]) = .ok s' ∧ s.Retells q s' := by
  unfold selfDescription? at told
  split at told
  · rename_i tells
    cases told
    have whole := Inquiry.whole_of_tellsAll tells
    refine ⟨Introspection.retold q s order, ?_, Introspection.find?_retold whole, fun kind => ?_⟩
    · exact Introspection.schemaOf_description whole tellable undeprecated
    · cases kind <;> rfl
  · cases told

end Schema

end QueryTools
