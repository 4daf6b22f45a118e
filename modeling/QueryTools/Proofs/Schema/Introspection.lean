import QueryTools.Schema.Introspection
import QueryTools.Proofs.Keyed
import QueryTools.Proofs.Schema.Sound

/-!
# Schemas from introspection results are sound

Nothing in a server's answer can be relied on, so all that holds of a schema made of one is seen to
while it is made: a name is checked before it is used, entries under one name become one entry, and a
reference has to name a listed type.

Main statements:

* `Schema.sound_ofIntrospection` -- every schema made of an answer is sound;
* `Schema.isOutput_ofIntrospection` -- no field of it has an input object as its type.
-/

namespace QueryTools

namespace Introspection

/-! ## Names -/

/-- What passes as a name is a text that is one. -/
theorem checkName_eq_ok {v : Json} {name : String} (made : checkName v = .ok name) :
    v = .str name ∧ Lexer.isName name = true := by
  unfold checkName at made
  split at made
  · cases made
  · rename_i text
    split at made
    · cases made
    · rename_i c rest spelled
      split at made
      · cases made
      · split at made
        · cases made
        · rename_i goes start
          cases made
          simp only [Bool.not_eq_true', Bool.not_eq_false] at goes start
          exact ⟨rfl, by simp [Lexer.isName, spelled, start, goes]⟩
  · cases made

/-! ## Listed types -/

/-- A name with what the type of that name is: those that every schema has, and only they, are left as
they are. -/
structure Proper (p : String × Outline) : Prop where
  named : Lexer.isName p.1 = true
  standard : p.2 = .standard ↔ (standardKind? p.1).isSome = true

/-- The types that every schema has are named as types are. -/
theorem named_standard_types : Standard.types.all (fun t => Lexer.isName t.name) = true := by
  decide +kernel

/-- What has the kind of a type that every schema has is a name. -/
theorem isName_of_standardKind? {name : String} {kind : TypeKind}
    (found : standardKind? name = some kind) : Lexer.isName name = true := by
  obtain ⟨t, here, -⟩ := Option.map_eq_some_iff.1 found
  have member := List.mem_of_find?_eq_some here
  have same : t.name = name := by simpa using List.find?_some here
  exact same ▸ List.all_eq_true.1 named_standard_types t member

/-- A type that every schema has is known by its kind. -/
theorem isSome_standardKind? {t : NamedType} (member : t ∈ Standard.types) :
    (standardKind? t.name).isSome = true := by
  rw [standardKind?, Option.isSome_map, List.find?_isSome]
  exact ⟨t, member, beq_self_eq_true t.name⟩

/-- A type that stands under its own name is not one that every schema has. -/
theorem proper_of_checkName {v : Json} {name : String} {outline : Outline}
    (checked : checkName v = .ok name) (own : (standardKind? name).isSome ≠ true)
    (other : outline ≠ .standard) : Proper (name, outline) :=
  ⟨(checkName_eq_ok checked).2, fun same => absurd same other, fun never => absurd never own⟩

/-- What is listed under a name that may be reserved is listed properly. -/
theorem proper_reservable {name : Json} {kind : TypeKind} {make : Step Outline}
    (other : make ≠ .ok .standard) {p : String × Outline}
    (made : reservable name kind make = .ok p) : Proper p := by
  obtain ⟨v, -, made⟩ := Outcome.bind_eq_ok.1 made
  split at made
  · rename_i s
    split at made
    · rename_i found
      cases made
      exact ⟨isName_of_standardKind? found, fun _ => by rw [found]; rfl, fun _ => rfl⟩
    · obtain ⟨outline, taken, made⟩ := Outcome.bind_eq_ok.1 made
      split at made
      · exact absurd made Outcome.throw_ne_ok
      · rename_i own
        obtain ⟨text, checked, made⟩ := Outcome.bind_eq_ok.1 made
        cases made
        have same : s = text := Json.str.inj (checkName_eq_ok checked).1
        exact proper_of_checkName checked (same ▸ own) fun same => other (same ▸ taken)
  · rename_i unnamed
    obtain ⟨outline, taken, made⟩ := Outcome.bind_eq_ok.1 made
    obtain ⟨text, checked, made⟩ := Outcome.bind_eq_ok.1 made
    exact absurd (checkName_eq_ok checked).1 (unnamed text)

/-- What is listed under a name that must not be reserved is listed properly. -/
theorem proper_unreservable {name : Json} {outline : Outline} (other : outline ≠ .standard)
    {p : String × Outline} (made : unreservable name outline = .ok p) : Proper p := by
  obtain ⟨v, -, made⟩ := Outcome.bind_eq_ok.1 made
  split at made
  · rename_i s
    split at made
    · exact absurd made Outcome.throw_ne_ok
    · rename_i own
      obtain ⟨text, checked, made⟩ := Outcome.bind_eq_ok.1 made
      cases made
      have same : s = text := Json.str.inj (checkName_eq_ok checked).1
      exact proper_of_checkName checked (same ▸ own) other
  · rename_i unnamed
    obtain ⟨text, checked, made⟩ := Outcome.bind_eq_ok.1 made
    exact absurd (checkName_eq_ok checked).1 (unnamed text)

/-- A description changes nothing in how a type is listed. -/
theorem proper_of_bind {entry : Json} {step : Step (String × Outline)}
    (proper : ∀ p, step = .ok p → Proper p) {t : Listed}
    (made : (step >>= fun p =>
      pure (Listed.mk p.1 (text? entry "description") p.2)) = .ok t) : Proper (t.name, t.outline) := by
  obtain ⟨p, taken, made⟩ := Outcome.bind_eq_ok.1 made
  cases made
  exact proper p taken

/-- Every type is listed properly. -/
theorem proper_listed {entry : Json} {t : Listed} (made : listed entry = .ok t) :
    Proper (t.name, t.outline) := by
  have refused (e : IntrospectionFault) (p : String × Outline)
      (never : (throw e : Step (String × Outline)) = .ok p) : Proper p :=
    absurd never Outcome.throw_ne_ok
  obtain ⟨name, -, made⟩ := Outcome.bind_eq_ok.1 made
  split at made
  · obtain ⟨kind, -, made⟩ := Outcome.bind_eq_ok.1 made
    dsimp only at made
    -- Each kind of type has its own way to a name and an outline; what is made of them is the same.
    split at made
    · exact proper_of_bind (fun _ => proper_reservable (by simp)) made
    · exact proper_of_bind (fun _ => proper_reservable (by simp)) made
    · exact proper_of_bind (fun _ => proper_unreservable (by simp)) made
    · obtain ⟨types, -, made⟩ := Outcome.bind_eq_ok.1 made
      split at made
      · exact proper_of_bind (refused _) made
      · exact proper_of_bind (fun _ => proper_unreservable (by simp)) made
    · obtain ⟨values, -, made⟩ := Outcome.bind_eq_ok.1 made
      split at made
      · exact proper_of_bind (refused _) made
      · refine proper_of_bind (fun _ => proper_reservable fun same => ?_) made
        obtain ⟨values, -, same⟩ := Outcome.map_eq_ok.1 same
        cases same
    · obtain ⟨fields, -, made⟩ := Outcome.bind_eq_ok.1 made
      split at made
      · exact proper_of_bind (refused _) made
      · exact proper_of_bind (fun _ => proper_unreservable (by simp)) made
    · exact proper_of_bind (refused _) made
  · obtain ⟨kind, never, -⟩ := Outcome.bind_eq_ok.1 made
    exact absurd never Outcome.throw_ne_ok

/-! ## References to types -/

/-- The names that references can give are names. -/
def Index.Named (index : Index) : Prop := ∀ n ∈ Keyed.names index, Lexer.isName n = true

/-- A reference by name leads to a type that is listed, of the kind it is listed with. -/
theorem namedRef_eq_ok {index : Index} {reference : Json} {name : String} {kind : TypeKind}
    (made : namedRef index reference = .ok (name, kind)) : Keyed.get? name index = some kind := by
  obtain ⟨v, -, made⟩ := Outcome.bind_eq_ok.1 made
  split at made
  · exact absurd made Outcome.throw_ne_ok
  · obtain ⟨v, -, made⟩ := Outcome.bind_eq_ok.1 made
    split at made
    · split at made
      · rename_i found
        cases made
        exact found
      · exact absurd made Outcome.throw_ne_ok
    · exact absurd made Outcome.throw_ne_ok

/-- A reference that is accepted can be written and names a listed type. -/
theorem typeRef_eq_ok {index : Index} (named : index.Named) {depth : Nat} {reference : Json}
    {type : TypeRef} {kind : TypeKind} (made : typeRef index depth reference = .ok (type, kind)) :
    type.wellFormed = true ∧ Keyed.get? type.name index = some kind := by
  induction depth generalizing reference type kind with
  | zero => exact absurd made Outcome.throw_ne_ok
  | succ depth ih =>
      obtain ⟨word, -, made⟩ := Outcome.bind_eq_ok.1 made
      split at made
      · obtain ⟨item, -, made⟩ := Outcome.bind_eq_ok.1 made
        split at made
        · exact absurd made Outcome.throw_ne_ok
        · obtain ⟨⟨inner, innerKind⟩, taken, made⟩ := Outcome.bind_eq_ok.1 made
          cases made
          have found := ih taken
          exact found
      · obtain ⟨item, -, made⟩ := Outcome.bind_eq_ok.1 made
        split at made
        · exact absurd made Outcome.throw_ne_ok
        · obtain ⟨⟨inner, innerKind⟩, taken, made⟩ := Outcome.bind_eq_ok.1 made
          dsimp only at made
          split at made
          · exact absurd made Outcome.throw_ne_ok
          · rename_i once
            cases made
            have found := ih taken
            refine ⟨?_, found.2⟩
            simp only [Bool.not_eq_true] at once
            simp [TypeRef.wellFormed, once, found.1]
      · obtain ⟨⟨name, found⟩, taken, made⟩ := Outcome.bind_eq_ok.1 made
        cases made
        have there := namedRef_eq_ok taken
        exact ⟨named name (Keyed.mem_names_of_get? there), there⟩

/-! ## Arguments and fields -/

/-- A type is listed and of a kind that values can be given for. -/
def Index.Takes (index : Index) (type : TypeRef) : Prop :=
  ∃ kind, Keyed.get? type.name index = some kind ∧ ¬(kind = .object ∨ kind = .interface ∨ kind = .union)

/-- An argument that is read has a well formed type that takes values. -/
theorem inputValue_eq_ok {index : Index} (named : index.Named) {what : String} {entry : Json}
    {v : InputValue} (made : inputValue index what entry = .ok v) :
    v.type.wellFormed = true ∧ index.Takes v.type := by
  obtain ⟨reference, -, made⟩ := Outcome.bind_eq_ok.1 made
  obtain ⟨⟨type, kind⟩, taken, made⟩ := Outcome.bind_eq_ok.1 made
  dsimp only at made
  split at made
  · exact absurd made Outcome.throw_ne_ok
  · rename_i input
    obtain ⟨given, -, made⟩ := Outcome.bind_eq_ok.1 made
    obtain ⟨default, -, made⟩ := Outcome.bind_eq_ok.1 made
    cases made
    obtain ⟨formed, known⟩ := typeRef_eq_ok named taken
    exact ⟨formed, kind, known, input⟩

/-- Entries under names come from making them, and no two have the same name. -/
theorem byName_eq_ok {α : Type} {make : Json → Step α} {entries : Json} {named : List (Json × α)}
    (made : byName make entries = .ok named) :
    (∀ p ∈ named, ∃ e, make e = .ok p.2) ∧ (named.map Prod.fst).Nodup := by
  obtain ⟨items, -, made⟩ := Outcome.bind_eq_ok.1 made
  obtain ⟨pairs, taken, made⟩ := Outcome.bind_eq_ok.1 made
  rw [Outcome.pure_eq_ok] at made
  subst made
  let key (v : Json) : String := v.kind ++ ":" ++ v.display
  let keyed := Keyed.ofPairs (pairs.map fun p => (key p.1, p))
  have stands : ∀ q ∈ keyed, q.1 = key q.2.1 ∧ q.2 ∈ pairs := by
    intro q member
    obtain ⟨p, there, rfl⟩ := List.mem_map.1 (Keyed.mem_ofPairs member)
    exact ⟨rfl, there⟩
  constructor
  · rintro p member
    obtain ⟨q, there, rfl⟩ := List.mem_map.1 member
    obtain ⟨e, -, makes⟩ := Outcome.exists_of_mem_mapM taken (stands q there).2
    obtain ⟨name, -, makes⟩ := Outcome.bind_eq_ok.1 makes
    obtain ⟨value, built, makes⟩ := Outcome.bind_eq_ok.1 makes
    obtain ⟨name, -, makes⟩ := Outcome.bind_eq_ok.1 makes
    rw [Outcome.pure_eq_ok] at makes
    exact ⟨e, makes ▸ built⟩
  · -- The keys are distinct, and a key is a function of the name.
    have distinct : (keyed.map Prod.fst).Nodup := Keyed.nodup_names_ofPairs _
    have same : keyed.map Prod.fst = ((keyed.map Prod.snd).map Prod.fst).map key := by
      rw [List.map_map, List.map_map]
      exact List.map_congr_left fun q member => (stands q member).1
    rw [same] at distinct
    exact List.Nodup.of_map key distinct

/-- Input values have the names of their entries. -/
theorem nodup_nameInputs {entries : List (Json × InputValue)} {values : List InputValue}
    (distinct : (entries.map Prod.fst).Nodup) (made : nameInputs entries = .ok values) :
    (values.map InputValue.name).Nodup := by
  have same : (values.map fun v => Json.str v.name) = entries.map Prod.fst := by
    refine Outcome.map_of_mapM (fun p v makes => ?_) made
    obtain ⟨text, checked, makes⟩ := Outcome.bind_eq_ok.1 makes
    cases makes
    exact (checkName_eq_ok checked).1.symm
  have split : (values.map fun v => Json.str v.name) = (values.map InputValue.name).map Json.str := by
    rw [List.map_map]
    rfl
  rw [← same, split] at distinct
  exact List.Nodup.of_map Json.str distinct

/-- Input values made of entries under names have different names, and can be written and given. -/
theorem nameInputs_eq_ok {index : Index} (named : index.Named) {what : String} {entries : Json}
    {pairs : List (Json × InputValue)} (taken : byName (inputValue index what) entries = .ok pairs)
    {values : List InputValue} (made : nameInputs pairs = .ok values) :
    (values.map InputValue.name).Nodup ∧
      ∀ a ∈ values, (Lexer.isName a.name = true ∧ a.type.wellFormed = true) ∧ index.Takes a.type := by
  refine ⟨nodup_nameInputs (byName_eq_ok taken).2 made, fun a member => ?_⟩
  obtain ⟨⟨name, v⟩, there, makes⟩ := Outcome.exists_of_mem_mapM made member
  obtain ⟨text, checked, makes⟩ := Outcome.bind_eq_ok.1 makes
  cases makes
  obtain ⟨e, built⟩ := (byName_eq_ok taken).1 _ there
  obtain ⟨formed, takes⟩ := inputValue_eq_ok named built
  exact ⟨⟨(checkName_eq_ok checked).2, formed⟩, takes⟩

/-- Arguments that are read have names of their own, and types that take values. -/
theorem argumentList_eq_ok {index : Index} (named : index.Named) {entries : Json}
    {arguments : List InputValue} (made : argumentList index entries = .ok arguments) :
    (arguments.map InputValue.name).Nodup ∧
      ∀ a ∈ arguments, (Lexer.isName a.name = true ∧ a.type.wellFormed = true) ∧ index.Takes a.type := by
  obtain ⟨values, taken, made⟩ := Outcome.bind_eq_ok.1 made
  exact nameInputs_eq_ok named taken made

/-- A field whose arguments are different and can be written, and whose type is listed and no input
object. -/
structure Fits (index : Index) (f : OutputField) : Prop where
  output : ∃ kind, Keyed.get? f.type.name index = some kind ∧ kind ≠ .input
  distinct : (f.arguments.map InputValue.name).Nodup
  arguments : ∀ a ∈ f.arguments, Lexer.isName a.name = true ∧ a.type.wellFormed = true
  takes : ∀ a ∈ f.arguments, index.Takes a.type

/-- A field that is read fits what is listed. -/
theorem outputField_eq_ok {index : Index} (named : index.Named) {entry : Json} {f : OutputField}
    (made : outputField index entry = .ok f) : Fits index f := by
  obtain ⟨reference, -, made⟩ := Outcome.bind_eq_ok.1 made
  obtain ⟨⟨type, kind⟩, taken, made⟩ := Outcome.bind_eq_ok.1 made
  dsimp only at made
  split at made
  · exact absurd made Outcome.throw_ne_ok
  · rename_i output
    obtain ⟨given, -, made⟩ := Outcome.bind_eq_ok.1 made
    split at made
    · exact absurd made Outcome.throw_ne_ok
    · obtain ⟨arguments, passed, made⟩ := Outcome.bind_eq_ok.1 made
      cases made
      obtain ⟨distinct, each⟩ := argumentList_eq_ok named passed
      exact ⟨⟨kind, (typeRef_eq_ok named taken).2, output⟩, distinct, fun a member => (each a member).1,
        fun a member => (each a member).2⟩

/-- The fields of a type have different names, each of them checked. -/
theorem outputFields_eq_ok {index : Index} (named : index.Named) {owner : String} {entry : Json}
    {fields : List OutputField} (made : outputFields index owner entry = .ok fields) :
    (fields.map OutputField.name).Nodup ∧
      ∀ f ∈ fields, Lexer.isName f.name = true ∧ Fits index f := by
  obtain ⟨pairs, taken, made⟩ := Outcome.bind_eq_ok.1 made
  rw [resolving, Outcome.mapError_eq_ok] at taken
  obtain ⟨given, -, taken⟩ := Outcome.bind_eq_ok.1 taken
  split at taken
  · exact absurd taken Outcome.throw_ne_ok
  · obtain ⟨each, distinct⟩ := byName_eq_ok taken
    constructor
    · have same : (fields.map fun f => Json.str f.name) = pairs.map Prod.fst := by
        refine Outcome.map_of_mapM (fun p f makes => ?_) made
        obtain ⟨text, checked, makes⟩ := Outcome.bind_eq_ok.1 makes
        cases makes
        exact (checkName_eq_ok checked).1.symm
      have split : (fields.map fun f => Json.str f.name) =
          (fields.map OutputField.name).map Json.str := by
        rw [List.map_map]
        rfl
      rw [← same, split] at distinct
      exact List.Nodup.of_map Json.str distinct
    · intro f member
      obtain ⟨⟨name, value⟩, there, makes⟩ := Outcome.exists_of_mem_mapM made member
      obtain ⟨text, checked, makes⟩ := Outcome.bind_eq_ok.1 makes
      cases makes
      obtain ⟨e, built⟩ := each _ there
      have fits := outputField_eq_ok named built
      exact ⟨(checkName_eq_ok checked).2, fits.output, fits.distinct, fits.arguments, fits.takes⟩

/-! ## Types -/

/-- What the parts of a listed type that is made are. -/
structure Made (index : Index) (l : Listed) (t : NamedType) : Prop where
  name : t.name = l.name
  output : l.kind ≠ .input → t.isOutput = true
  input : ¬(l.kind = .object ∨ l.kind = .interface ∨ l.kind = .union) → t.isInput = true
  object : l.kind = .object → t.outputFields?.isSome = true
  told : ∀ values fault, t.form = .enum values fault → fault = none
  fields : ∀ fields, t.outputFields? = some fields → (fields.map OutputField.name).Nodup ∧
    ∀ f ∈ fields, Lexer.isName f.name = true ∧ Fits index f
  inputs : ∀ fields oneOf, t.form = .input fields oneOf → (fields.map InputValue.name).Nodup ∧
    ∀ f ∈ fields, index.Takes f.type

/-- What is made of a listed type is that type, or none if every schema has it. -/
theorem resolve_eq_ok {index : Index} (named : index.Named) {l : Listed} {made? : Option NamedType}
    (made : resolve index l = .ok made?) :
    (l.outline = .standard ∧ made? = none) ∨ ∃ t, made? = some t ∧ Made index l t := by
  unfold resolve at made
  dsimp only at made
  split at made
  · rename_i outline
    cases made
    exact .inl ⟨outline, rfl⟩
  · rename_i outline
    cases made
    have kind : l.kind = .scalar := by rw [Listed.kind, outline]
    exact .inr ⟨_, rfl, rfl, fun _ => rfl, fun _ => rfl, fun is => absurd (kind.symm.trans is) (by decide),
      (fun _ _ is => nomatch is), (fun _ has => nomatch has), fun _ _ is => nomatch is⟩
  · rename_i entry outline
    obtain ⟨interfaces, -, made⟩ := Outcome.bind_eq_ok.1 made
    obtain ⟨fields, taken, made⟩ := Outcome.bind_eq_ok.1 made
    cases made
    have kind : l.kind = .object := by rw [Listed.kind, outline]
    refine .inr ⟨_, rfl, rfl, fun _ => rfl, fun other => absurd (.inl kind) other, fun _ => rfl,
      (fun _ _ is => nomatch is), fun fields' has => ?_, fun _ _ is => nomatch is⟩
    cases has
    exact outputFields_eq_ok named taken
  · rename_i entry outline
    obtain ⟨interfaces, -, made⟩ := Outcome.bind_eq_ok.1 made
    obtain ⟨fields, taken, made⟩ := Outcome.bind_eq_ok.1 made
    cases made
    have kind : l.kind = .interface := by rw [Listed.kind, outline]
    refine .inr ⟨_, rfl, rfl, fun _ => rfl, fun other => absurd (.inr (.inl kind)) other, fun _ => rfl,
      (fun _ _ is => nomatch is), fun fields' has => ?_, fun _ _ is => nomatch is⟩
    cases has
    exact outputFields_eq_ok named taken
  · rename_i types outline
    obtain ⟨members, -, made⟩ := Outcome.bind_eq_ok.1 made
    cases made
    have kind : l.kind = .union := by rw [Listed.kind, outline]
    exact .inr ⟨_, rfl, rfl, fun _ => rfl, fun other => absurd (.inr (.inr kind)) other,
      fun is => absurd (kind.symm.trans is) (by decide),
      (fun _ _ is => nomatch is), (fun _ has => nomatch has), fun _ _ is => nomatch is⟩
  · rename_i values outline
    cases made
    have kind : l.kind = .enum := by rw [Listed.kind, outline]
    refine .inr ⟨_, rfl, rfl, fun _ => rfl, fun _ => rfl, fun is => absurd (kind.symm.trans is) (by decide),
      fun _ _ is => ?_, (fun _ has => nomatch has), fun _ _ is => nomatch is⟩
    cases is
    rfl
  · rename_i fields oneOf outline
    obtain ⟨inputs, taken, made⟩ := Outcome.bind_eq_ok.1 made
    cases made
    have kind : l.kind = .input := by rw [Listed.kind, outline]
    refine .inr ⟨_, rfl, rfl, fun output => absurd kind output, fun _ => rfl,
      fun is => absurd (kind.symm.trans is) (by decide),
      (fun _ _ is => nomatch is), (fun _ has => nomatch has), fun _ _ is => ?_⟩
    cases is
    obtain ⟨entries, given, made⟩ := Outcome.bind_eq_ok.1 taken
    rw [resolving, Outcome.mapError_eq_ok] at given
    obtain ⟨distinct, each⟩ := nameInputs_eq_ok named given made
    exact ⟨distinct, fun f member => (each f member).2⟩

/-- What is known of listed types while their parts are looked up. -/
def indexOf (types : List Listed) : Index := types.map fun l => (l.name, l.kind)

theorem names_indexOf (types : List Listed) : Keyed.names (indexOf types) = types.map Listed.name := by
  rw [Keyed.names, indexOf, List.map_map]
  rfl

/-- A schema whose types are made of listed ones. -/
structure MadeOf (types : List Listed) (s : Schema) : Prop where
  distinct : (types.map Listed.name).Nodup
  proper : ∀ l ∈ types, Proper (l.name, l.outline)
  source : ∀ t ∈ s.types, ∃ l ∈ types, Made (indexOf types) l t
  kept : ∀ l ∈ types, l.outline ≠ .standard → ∃ t ∈ s.types, Made (indexOf types) l t
  roots : ∀ kind name, s.root? kind = some name → Keyed.get? name (indexOf types) = some .object

/-- The index has names only if what is listed is listed properly. -/
theorem named_indexOf {types : List Listed} (proper : ∀ l ∈ types, Proper (l.name, l.outline)) :
    (indexOf types).Named := by
  intro name member
  rw [names_indexOf] at member
  obtain ⟨l, there, rfl⟩ := List.mem_map.1 member
  exact (proper l there).named

/-- A schema whose types and roots were resolved is made of what was listed. -/
theorem madeOf_of_mapM {types : List Listed} (distinct : (types.map Listed.name).Nodup)
    (proper : ∀ l ∈ types, Proper (l.name, l.outline)) {resolved : List (Option NamedType)}
    (taken : types.mapM (resolve (indexOf types)) = .ok resolved) {s : Schema}
    (same : s.types = resolved.filterMap id)
    (roots : ∀ kind name, s.root? kind = some name → Keyed.get? name (indexOf types) = some .object) :
    MadeOf types s := by
  have named := named_indexOf proper
  refine ⟨distinct, proper, ?_, ?_, roots⟩
  · intro t member
    obtain ⟨_, there, rfl⟩ := List.mem_filterMap.1 (same ▸ member)
    obtain ⟨l, listed, makes⟩ := Outcome.exists_of_mem_mapM taken there
    rcases resolve_eq_ok named makes with ⟨-, never⟩ | ⟨u, it, made⟩
    · cases never
    · cases it
      exact ⟨l, listed, made⟩
  · intro l listed other
    obtain ⟨_, there, makes⟩ := Outcome.exists_mem_of_mapM taken listed
    rcases resolve_eq_ok named makes with ⟨standard, -⟩ | ⟨t, rfl, made⟩
    · exact absurd standard other
    · exact ⟨t, same ▸ List.mem_filterMap.2 ⟨some t, there, rfl⟩, made⟩

/-- A root is listed, and as an object. -/
theorem root_eq_ok {index : Index} {schema : Json} {key : String} {root? : Option String}
    (made : root index schema key = .ok root?) {name : String} (is : root? = some name) :
    Keyed.get? name index = some .object := by
  obtain ⟨reference, -, made⟩ := Outcome.bind_eq_ok.1 made
  split at made
  · cases made
    cases is
  · obtain ⟨given, kind, made⟩ := Outcome.map_eq_ok.1 made
    obtain ⟨⟨found, foundKind⟩, taken, kind⟩ := Outcome.bind_eq_ok.1 kind
    dsimp only at kind
    split at kind
    · rename_i object
      cases kind
      subst made
      cases is
      exact object ▸ namedRef_eq_ok taken
    · exact absurd kind Outcome.throw_ne_ok

/-- A schema that is read was made of what was listed. -/
theorem schemaOf_eq_ok {schema : Json} {s : Schema} (made : schemaOf schema = .ok s) :
    ∃ types, MadeOf types s := by
  obtain ⟨given, -, made⟩ := Outcome.bind_eq_ok.1 made
  obtain ⟨items, -, made⟩ := Outcome.bind_eq_ok.1 made
  obtain ⟨entries, taken, made⟩ := Outcome.bind_eq_ok.1 made
  let keyed := Keyed.ofPairs (entries.map fun l => (l.name, l))
  have stands : ∀ p ∈ keyed, p.1 = p.2.name ∧ p.2 ∈ entries := by
    intro p member
    obtain ⟨l, there, rfl⟩ := List.mem_map.1 (Keyed.mem_ofPairs member)
    exact ⟨rfl, there⟩
  have proper : ∀ l ∈ keyed.map Prod.snd, Proper (l.name, l.outline) := by
    intro l member
    obtain ⟨p, there, rfl⟩ := List.mem_map.1 member
    obtain ⟨entry, -, makes⟩ := Outcome.exists_of_mem_mapM taken (stands p there).2
    exact proper_listed makes
  have distinct : ((keyed.map Prod.snd).map Listed.name).Nodup := by
    have same : (keyed.map Prod.snd).map Listed.name = keyed.map Prod.fst := by
      rw [List.map_map]
      exact List.map_congr_left fun p member => (stands p member).1.symm
    rw [same]
    exact Keyed.nodup_names_ofPairs _
  obtain ⟨query, isQuery, made⟩ := Outcome.bind_eq_ok.1 made
  obtain ⟨mutation, isMutation, made⟩ := Outcome.bind_eq_ok.1 made
  obtain ⟨subscription, isSubscription, made⟩ := Outcome.bind_eq_ok.1 made
  have roots : ∀ t : Schema, t.query = query → t.mutation = mutation → t.subscription = subscription →
      ∀ kind name, t.root? kind = some name →
        Keyed.get? name (indexOf (keyed.map Prod.snd)) = some .object := by
    rintro t rfl rfl rfl kind name is
    cases kind with
    | query => exact root_eq_ok isQuery is
    | mutation => exact root_eq_ok isMutation is
    | subscription => exact root_eq_ok isSubscription is
  obtain ⟨directives, -, made⟩ := Outcome.bind_eq_ok.1 made
  dsimp only at made
  split at made
  · obtain ⟨items, -, made⟩ := Outcome.bind_eq_ok.1 made
    obtain ⟨directives, -, made⟩ := Outcome.bind_eq_ok.1 made
    obtain ⟨resolved, resolves, made⟩ := Outcome.bind_eq_ok.1 made
    cases made
    exact ⟨_, madeOf_of_mapM distinct proper resolves rfl (roots _ rfl rfl rfl)⟩
  · obtain ⟨directives, -, made⟩ := Outcome.bind_eq_ok.1 made
    obtain ⟨resolved, resolves, made⟩ := Outcome.bind_eq_ok.1 made
    cases made
    exact ⟨_, madeOf_of_mapM distinct proper resolves rfl (roots _ rfl rfl rfl)⟩

/-! ## What is known of names -/

namespace MadeOf

variable {types : List Listed} {s : Schema}

/-- A name listed for a type that every schema has is known as of the kind of that type. -/
theorem exists_standard (made : MadeOf types s) {l : Listed} (listed : l ∈ types)
    (outline : l.outline = .standard) :
    ∃ t ∈ Standard.types, s.find? l.name = some t ∧ standardKind? l.name = some l.kind := by
  obtain ⟨kind, found⟩ := Option.isSome_iff_exists.1 ((made.proper l listed).standard.1 outline)
  have known : l.kind = kind := by
    rw [Listed.kind, outline]
    simp only [found, Option.getD_some]
  obtain ⟨t, here, -⟩ := Option.map_eq_some_iff.1 found
  refine ⟨t, List.mem_of_find?_eq_some here, ?_, known ▸ found⟩
  rw [Schema.find?, here]

/-- Every name that a reference can give is known to the schema. -/
theorem find?_of_known (made : MadeOf types s) {name : String} {kind : TypeKind}
    (known : Keyed.get? name (indexOf types) = some kind) : (s.find? name).isSome = true := by
  have member := Keyed.mem_names_of_get? known
  rw [names_indexOf] at member
  obtain ⟨l, listed, rfl⟩ := List.mem_map.1 member
  by_cases outline : l.outline = .standard
  · obtain ⟨t, -, found, -⟩ := made.exists_standard listed outline
    rw [found]
    rfl
  · obtain ⟨t, there, is⟩ := made.kept l listed outline
    exact s.find?_of_mem (List.mem_map.2 ⟨t, there, is.name⟩)

/-- A type under a known name is one that every schema has, or is made of the type listed under it. -/
theorem cases_of_known (made : MadeOf types s) {name : String} {kind : TypeKind}
    (known : Keyed.get? name (indexOf types) = some kind) {t : NamedType} (found : s.find? name = some t) :
    (t ∈ Standard.types ∧ standardKind? name = some kind) ∨
      ∃ l ∈ types, l.kind = kind ∧ Made (indexOf types) l t := by
  have member := Keyed.mem_names_of_get? known
  rw [names_indexOf] at member
  obtain ⟨l, listed, rfl⟩ := List.mem_map.1 member
  have distinct : (Keyed.names (indexOf types)).Nodup := names_indexOf types ▸ made.distinct
  have entry : (l.name, l.kind) ∈ indexOf types := List.mem_map_of_mem listed
  have here : Keyed.get? l.name (indexOf types) = some l.kind := Keyed.get?_of_mem distinct entry
  have same : l.kind = kind := Option.some.inj (here.symm.trans known)
  by_cases outline : l.outline = .standard
  · obtain ⟨u, standard, is, of⟩ := made.exists_standard listed outline
    cases found.symm.trans is
    exact .inl ⟨standard, same ▸ of⟩
  · rcases Schema.mem_of_find? found with standard | declared
    · have reserved : (standardKind? l.name).isSome = true := by
        rw [← Schema.name_of_find? found]
        exact isSome_standardKind? standard
      exact absurd ((made.proper l listed).standard.2 reserved) outline
    · obtain ⟨l', listed', is⟩ := made.source t declared
      have alike : l'.name = l.name := is.name.symm.trans (Schema.name_of_find? found)
      have one : l' = l := List.inj_on_of_nodup_map made.distinct listed' listed alike
      exact .inr ⟨l, listed, same, one ▸ is⟩

/-- A name that is known to be of another kind is not that of an input object. -/
theorem isOutput_of_known (made : MadeOf types s) {name : String} {kind : TypeKind}
    (known : Keyed.get? name (indexOf types) = some kind) (output : kind ≠ .input) {t : NamedType}
    (found : s.find? name = some t) : t.isOutput = true := by
  rcases made.cases_of_known known found with ⟨standard, -⟩ | ⟨l, -, rfl, is⟩
  · exact List.all_eq_true.1 Standard.isOutput_types t standard
  · exact is.output output

/-- A schema that was made of what was listed is sound. -/
theorem sound (made : MadeOf types s) : s.Sound := by
  refine Schema.sound_of_types fun t member fields has => ?_
  obtain ⟨l, -, is⟩ := made.source t member
  obtain ⟨distinct, each⟩ := is.fields fields has
  refine ⟨distinct, fun f there => ?_⟩
  obtain ⟨named, fits⟩ := each f there
  obtain ⟨kind, known, -⟩ := fits.output
  exact ⟨named, made.find?_of_known known, fits.arguments⟩

end MadeOf

end Introspection

namespace Schema

/-- A schema that was introspected was made of what was listed. -/
theorem madeOf_ofIntrospection {result : Json} {s : Schema}
    (made : Schema.ofIntrospection result = .ok s) : ∃ types, Introspection.MadeOf types s := by
  obtain ⟨errors, -, made⟩ := Outcome.bind_eq_ok.1 made
  dsimp only at made
  split at made
  · obtain ⟨text, -, made⟩ := Outcome.bind_eq_ok.1 made
    obtain ⟨_, never, -⟩ := Outcome.bind_eq_ok.1 made
    exact absurd never Outcome.throw_ne_ok
  · obtain ⟨data, -, made⟩ := Outcome.bind_eq_ok.1 made
    split at made
    · split at made
      · exact absurd made Outcome.throw_ne_ok
      · split at made
        · exact absurd made Outcome.throw_ne_ok
        · split at made
          · exact Introspection.schemaOf_eq_ok made
          · exact absurd made Outcome.throw_ne_ok
    · exact absurd made Outcome.throw_ne_ok

/-- Every schema that an answer to the introspection query describes is sound. -/
theorem sound_ofIntrospection {result : Json} {s : Schema}
    (made : Schema.ofIntrospection result = .ok s) : s.Sound := by
  obtain ⟨types, madeOf⟩ := madeOf_ofIntrospection made
  exact madeOf.sound

/-- No field of a schema that an answer describes has an input object as its type. -/
theorem isOutput_ofIntrospection {result : Json} {s : Schema}
    (made : Schema.ofIntrospection result = .ok s) {name : String} {t u : NamedType}
    {fields : List OutputField} {f : OutputField} (found : s.find? name = some t)
    (has : t.outputFields? = some fields) (member : f ∈ fields) (inner : s.named? f.type = some u) :
    u.isOutput = true := by
  obtain ⟨types, madeOf⟩ := madeOf_ofIntrospection made
  rcases mem_of_find? found with standard | declared
  · have known := Standard.isStandard_of_field standard has member
    exact List.all_eq_true.1 Standard.isOutput_types u (mem_types_of_isStandard known inner)
  · obtain ⟨l, -, is⟩ := madeOf.source t declared
    obtain ⟨kind, known, output⟩ := ((is.fields fields has).2 f member).2.output
    exact madeOf.isOutput_of_known known output inner

end Schema

end QueryTools
