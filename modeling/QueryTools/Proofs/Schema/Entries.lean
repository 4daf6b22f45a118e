import QueryTools.Proofs.Schema.Distinct
import QueryTools.Proofs.Schema.Tellable
import QueryTools.Proofs.Schema.Telling
import QueryTools.Schema.SelfDescription

/-!
# The entries of a description are understood

What a schema tells of its references, arguments, fields and enum values is read as what it tells of.  An
entry for an argument or an input field may be left out if it is deprecated; nothing else is lost.

Main statements:

* `Introspection.Knows.anyTypeRef` -- references that tell all wrappers;
* `Introspection.Knows.argumentList`, `Introspection.Knows.inputFields`,
  `Introspection.Knows.outputFields` -- arguments and fields;
* `Introspection.enumValues_of_forall` -- values of enums.
-/

namespace QueryTools

open Lexer

/-! ## Names -/

namespace Text

/-- The characters of names stand for themselves between quotes. -/
theorem quoteChar_name : (List.range 0x80).all (fun n =>
    !isNameContinue (Char.ofNat n) || (quoteChar '\'' (Char.ofNat n) == [Char.ofNat n]
      && Char.ofNat n != '\'')) = true := by
  decide +kernel

/-- A character of a name is shown as it is. -/
theorem quoteChar_of_isNameContinue {c : Char} (goes : isNameContinue c = true) :
    quoteChar '\'' c = [c] ∧ c ≠ '\'' := by
  have small : c.toNat < 0x80 := by
    unfold isNameContinue Char.isAlphanum Char.isAlpha Char.isUpper Char.isLower Char.isDigit at goes
    simp only [Bool.or_eq_true, Bool.and_eq_true, decide_eq_true_eq, beq_iff_eq] at goes
    have bound : ∀ d : Char, c ≤ d → d.toNat < 0x80 → c.toNat < 0x80 := by
      intro d below small
      have less : c.toNat ≤ d.toNat := below
      omega
    rcases goes with ((⟨-, upper⟩ | ⟨-, lower⟩) | ⟨-, digit⟩) | rfl
    · exact bound 'Z' upper (by decide)
    · exact bound 'z' lower (by decide)
    · exact bound '9' digit (by decide)
    · decide
  have all := List.all_eq_true.1 quoteChar_name c.toNat (List.mem_range.2 small)
  rw [Char.ofNat_toNat, goes] at all
  simpa using all

/-- A name is quoted as it is. -/
theorem quoted_of_isName {name : String} (named : isName name = true) :
    quoted name = "'" ++ name ++ "'" := by
  have goes : ∀ c ∈ name.toList, isNameContinue c = true := by
    unfold isName at named
    split at named
    · cases named
    · rename_i c rest spelled
      rw [Bool.and_eq_true, List.all_eq_true] at named
      rw [spelled]
      intro d member
      rcases List.mem_cons.1 member with rfl | later
      · exact isNameContinue_of_isNameStart named.1
      · exact named.2 d later
  have single : quoteFor name.toList = '\'' := by
    have none : name.toList.contains '\'' = false := by
      rw [Bool.eq_false_iff, ne_eq, List.contains_iff_mem]
      exact fun member => (quoteChar_of_isNameContinue (goes _ member)).2 rfl
    rw [quoteFor, none]
    rfl
  have inside : name.toList.flatMap (quoteChar '\'') = name.toList := by
    rw [List.flatMap_congr fun c member => (quoteChar_of_isNameContinue (goes c member)).1]
    exact List.flatMap_singleton' _
  apply String.toList_inj.1
  rw [quoted, String.toList_ofList, quoteChars]
  simp only [single, inside, String.toList_append]
  rfl

end Text

namespace Introspection

/-- A name passes as one. -/
theorem checkName_of_isName {name : String} (named : isName name = true) :
    checkName (.str name) = .ok name := by
  unfold isName at named
  unfold checkName
  cases spelled : name.toList with
  | nil => simp [spelled] at named
  | cons c rest =>
      simp only [spelled, Bool.and_eq_true] at named
      simp [spelled, named.1, named.2]

/-- A name passes as that of an enum value if it is none of the three that are kept. -/
theorem checkEnumValueName_of_isName {name : String} (named : isName name = true)
    (free : ["true", "false", "null"].contains name = false) :
    checkEnumValueName (.str name) = .ok name := by
  refine Outcome.bind_eq_ok.2 ⟨_, checkName_of_isName named, ?_⟩
  rw [free]
  rfl

theorem ne_empty_of_isName {name : String} (named : isName name = true) : name ≠ "" := by
  rintro rfl
  cases named

/-! ## Entries under names -/

section Entries

variable {α β : Type} {make : Json → Step α} {entry : β → Json} {value : β → α} {xs : List β}

/-- Entries with different names are each made what they stand for. -/
theorem byName_of_forall (name : β → String) (distinct : (xs.map name).Nodup)
    (named : ∀ x ∈ xs, isName (name x) = true)
    (own : ∀ x ∈ xs, member "name" (entry x) = .ok (.str (name x)))
    (makes : ∀ x ∈ xs, make (entry x) = .ok (value x)) :
    byName make (.arr (xs.map entry)) = .ok (xs.map fun x => (.str (name x), value x)) := by
  let key (v : Json) : String := v.kind ++ ":" ++ v.display
  have pairs : (xs.map entry).mapM (fun e => do
      let name ← member "name" e
      let made ← make e
      pure (← name.hashable.mapError .access, made)) =
        (.ok (xs.map fun x => (Json.str (name x), value x)) : Step (List (Json × α))) := by
    refine Outcome.mapM_map_of_forall fun x member => ?_
    refine Outcome.bind_eq_ok.2 ⟨_, own x member, ?_⟩
    refine Outcome.bind_eq_ok.2 ⟨_, makes x member, ?_⟩
    rfl
  have keys : ∀ x ∈ xs, key (.str (name x)) = "str:'" ++ name x ++ "'" := by
    intro x member
    simp only [key, Json.kind, Json.display, Text.quoted_of_isName (named x member)]
    simp only [← String.append_assoc]
    rfl
  have once : (Keyed.names ((xs.map fun x => (Json.str (name x), value x)).map fun p => (key p.1, p))).Nodup := by
    rw [Keyed.names, List.map_map, List.map_map]
    have same : List.map ((Prod.fst ∘ fun p : Json × α => (key p.1, p)) ∘
        fun x => (Json.str (name x), value x)) xs = (xs.map name).map fun n => "str:'" ++ n ++ "'" := by
      rw [List.map_map]
      exact List.map_congr_left keys
    rw [same]
    refine distinct.map fun a b same => ?_
    have inner : "str:'" ++ a = "str:'" ++ b := (String.append_left_inj _).1 same
    exact (String.append_right_inj _).1 inner
  refine Outcome.bind_eq_ok.2 ⟨_, rfl, ?_⟩
  refine Outcome.bind_eq_ok.2 ⟨_, pairs, ?_⟩
  rw [Outcome.pure_eq_ok]
  show (Keyed.ofPairs ((xs.map fun x => (Json.str (name x), value x)).map fun p => (key p.1, p))).map
    Prod.snd = _
  rw [Keyed.ofPairs_of_nodup once, List.map_map]
  exact List.map_id _

end Entries

/-! ## References to types -/

/-- An index has the types of a schema under the given names. -/
structure Knows (index : Index) (s : Schema) (order : List String) : Prop where
  kind : ∀ name ∈ order, ∃ t, s.find? name = some t ∧ Keyed.get? name index = some t.form.kind
  named : ∀ name ∈ order, Lexer.isName name = true

variable {index : Index} {s : Schema} {order : List String} {q : Inquiry}

/-- A reference to a type that was told of is resolved to that type. -/
theorem Knows.namedRef (knows : Knows index s order) {name : String} (told : name ∈ order)
    {t : NamedType} (found : s.find? name = some t) {reference : Json}
    (own : reference.get? "name" = some (.str name)) :
    namedRef index reference = .ok (name, t.form.kind) := by
  have present : (Json.str name).isTruthy = true := by
    simp [Json.isTruthy, ne_empty_of_isName (knows.named name told)]
  obtain ⟨u, same, known⟩ := knows.kind name told
  rw [found] at same
  cases same
  refine Outcome.bind_eq_ok.2 ⟨_, optional_of_get? own, ?_⟩
  rw [present]
  refine Outcome.bind_eq_ok.2 ⟨.str name, rfl, ?_⟩
  simp only [known]
  rfl

theorem isTruthy_reference (room : Nat) (type : TypeRef) :
    (Inquiry.reference s room type).isTruthy = true := by
  cases type <;> cases room <;> rfl

/-- A wrapper is followed one level further than what it wraps. -/
theorem wrapperDepth_lt_wrapper (word : String) (inner : Json) :
    wrapperDepth inner < wrapperDepth (Inquiry.wrapper word (some inner)) := by
  have inside : Keyed.get? "ofType" [("kind", Json.str word), ("name", .null), ("ofType", inner)] =
      some inner := rfl
  exact wrapperDepth_lt inside

/-- A reference that tells all wrappers of a type is as deep as it has wrappers. -/
theorem wraps_lt_wrapperDepth {room : Nat} {type : TypeRef} (fits : type.wraps ≤ room) :
    type.wraps < wrapperDepth (Inquiry.reference s room type) := by
  induction type generalizing room with
  | named name => exact wrapperDepth_pos _
  | list item ih | nonNull item ih =>
      cases room with
      | zero => simp [TypeRef.wraps] at fits
      | succ room =>
          simp only [TypeRef.wraps, Nat.add_le_add_iff_right] at fits
          have inner := ih fits
          simp only [TypeRef.wraps]
          exact Nat.lt_of_le_of_lt inner (wrapperDepth_lt_wrapper _ _)

/-- A reference that tells all wrappers of a type is read as that type. -/
theorem Knows.typeRef (knows : Knows index s order) {type : TypeRef} (formed : type.wellFormed = true)
    (told : type.name ∈ order) {t : NamedType} (found : s.named? type = some t) {room depth : Nat}
    (fits : type.wraps ≤ room) (deep : type.wraps < depth) :
    typeRef index depth (Inquiry.reference s room type) = .ok (type, t.form.kind) := by
  induction type generalizing room depth with
  | named name =>
      obtain ⟨depth, rfl⟩ := Nat.exists_eq_add_one.2 deep
      have found : s.find? name = some t := found
      have word : (Inquiry.reference s room (.named name)).get? "kind" =
          some (.str (Inquiry.kindWord t.form.kind)) := by
        rw [Inquiry.reference]
        show some (Json.ofOption _ (s.find? name)) = _
        rw [found]
        rfl
      refine Outcome.bind_eq_ok.2 ⟨_, optional_of_get? word, ?_⟩
      have own : (Inquiry.namedReference s (room != 0) name).get? "name" = some (.str name) := rfl
      have inner := knows.namedRef told found own
      rw [Inquiry.reference]
      cases is : t.form.kind <;> rw [is] at inner <;> exact Outcome.bind_eq_ok.2 ⟨_, inner, rfl⟩
  | list item ih =>
      obtain ⟨depth, rfl⟩ := Nat.exists_eq_add_one.2 (Nat.zero_lt_of_lt deep)
      cases room with
      | zero => simp [TypeRef.wraps] at fits
      | succ room =>
          simp only [TypeRef.wraps, Nat.add_le_add_iff_right, Nat.add_lt_add_iff_right] at fits deep
          refine Outcome.bind_eq_ok.2 ⟨.str "LIST", rfl, ?_⟩
          refine Outcome.bind_eq_ok.2 ⟨Inquiry.reference s room item, rfl, ?_⟩
          rw [isTruthy_reference]
          exact Outcome.bind_eq_ok.2 ⟨_, ih formed told found fits deep, rfl⟩
  | nonNull type ih =>
      rw [TypeRef.wellFormed, Bool.and_eq_true, Bool.not_eq_true'] at formed
      obtain ⟨depth, rfl⟩ := Nat.exists_eq_add_one.2 (Nat.zero_lt_of_lt deep)
      cases room with
      | zero => simp [TypeRef.wraps] at fits
      | succ room =>
          simp only [TypeRef.wraps, Nat.add_le_add_iff_right, Nat.add_lt_add_iff_right] at fits deep
          refine Outcome.bind_eq_ok.2 ⟨.str "NON_NULL", rfl, ?_⟩
          refine Outcome.bind_eq_ok.2 ⟨Inquiry.reference s room type, rfl, ?_⟩
          rw [isTruthy_reference]
          refine Outcome.bind_eq_ok.2 ⟨_, ih formed.2 told found fits deep, ?_⟩
          simp only [formed.1]
          rfl

/-- A type with no more wrappers than were asked for is read as it is. -/
theorem Knows.anyTypeRef (knows : Knows index s order) {type : TypeRef}
    (formed : type.wellFormed = true) (told : type.name ∈ order) {t : NamedType}
    (found : s.named? type = some t) {room : Nat} (fits : type.wraps ≤ room) :
    anyTypeRef index (Inquiry.reference s room type) = .ok (type, t.form.kind) :=
  knows.typeRef formed told found fits (wraps_lt_wrapperDepth fits)

/-! ## Arguments and fields -/

/-- What is told of a value that may be missing is read as that value. -/
theorem given?_of_get? {v : Json} {key : String} {value : Option Json}
    (found : v.get? key = some (value.getD .null)) (said : ∀ x, value = some x → x.isNull = false) :
    given? v key = value := by
  rw [given?, found]
  cases value with
  | none => rfl
  | some x => simp [said x rfl]

/-- What is told of a text that may be missing is read as that text. -/
theorem text?_of_get? {v : Json} {key : String} {text : Option String}
    (found : v.get? key = some (.ofOption .str text)) : text? v key = text := by
  rw [text?, given?, found]
  cases text <;> rfl

/-- A default that is told as it is written is read as it was. -/
theorem defaultLiteral_of_written {default : Option Literal}
    (written : ∀ l, default = some l → l.Written Parser.nestingLimit) :
    defaultLiteral (.ofOption (fun l : Literal => .str l.text) default) = .ok default := by
  cases default with
  | none => rfl
  | some l =>
      have parsed := Literal.parse_text (written l rfl)
      show (some <$> Literal.parse l.text).mapError _ = _
      rw [parsed]
      rfl

/-- Whether an argument or an input field is told although it may be deprecated. -/
def shows (q : Inquiry) (v : InputValue) : Bool := q.extended || v.deprecation.isNone

/-- Without deprecations all arguments are shown. -/
theorem filter_shows {vs : List InputValue} (undeprecated : ∀ v ∈ vs, v.deprecation = none) :
    vs.filter (shows q) = vs := by
  refine List.filter_eq_self.2 fun v member => ?_
  rw [shows, undeprecated v member]
  exact Bool.or_true _

/-- A value that an inquiry takes has an input type with no more wrappers than were asked for. -/
theorem exists_of_takes {v : InputValue} (takes : q.takes s v = true) :
    ∃ t, s.named? v.type = some t ∧ t.isInput = true ∧ v.type.wraps ≤ q.wrappers := by
  rw [Inquiry.takes, Bool.and_eq_true, decide_eq_true_eq] at takes
  obtain ⟨t, found, input⟩ := (Option.any_eq_true _ _).1 takes.1
  exact ⟨t, found, input, takes.2⟩

/-- An argument or an input field that is told is read as it is. -/
theorem Knows.inputValue (knows : Knows index s order) {v : InputValue} (tellable : v.Tellable)
    (takes : q.takes s v = true) (told : v.type.name ∈ order) (shown : shows q v = true)
    (what : String) : inputValue index what (q.inputValue s v) = .ok { v with name := "" } := by
  obtain ⟨t, found, input, fits⟩ := exists_of_takes takes
  have type : member "type" (q.inputValue s v) = .ok (Inquiry.reference s q.wrappers v.type) :=
    member_of_get? rfl
  have default : optional "defaultValue" (q.inputValue s v) =
      .ok (.ofOption (fun l : Literal => .str l.text) v.default) := optional_of_get? rfl
  have description : given? (q.inputValue s v) "description" = v.description :=
    given?_of_get? rfl tellable.described
  have deprecation : text? (q.inputValue s v) "deprecationReason" = v.deprecation := by
    unfold Inquiry.inputValue
    cases asked : q.extended with
    | true => exact text?_of_get? rfl
    | false =>
        rw [shows, asked, Bool.false_or, Option.isNone_iff_eq_none] at shown
        rw [shown]
        rfl
  have kind : ¬(t.form.kind = .object ∨ t.form.kind = .interface ∨ t.form.kind = .union) := by
    unfold NamedType.isInput at input
    cases is : t.form <;> simp_all [TypeForm.kind]
  refine Outcome.bind_eq_ok.2 ⟨_, type, ?_⟩
  refine Outcome.bind_eq_ok.2 ⟨_, knows.anyTypeRef tellable.formed told found fits, ?_⟩
  dsimp only
  rw [if_neg kind]
  refine Outcome.bind_eq_ok.2 ⟨_, default, ?_⟩
  refine Outcome.bind_eq_ok.2 ⟨_, defaultLiteral_of_written tellable.written, ?_⟩
  rw [description, deprecation]
  rfl

/-- Arguments with names are given their names. -/
theorem nameInputs_of_forall {vs : List InputValue} (named : ∀ v ∈ vs, Lexer.isName v.name = true) :
    nameInputs (vs.map fun v => (.str v.name, { v with name := "" })) = .ok vs := by
  have all : nameInputs (vs.map fun v => (.str v.name, { v with name := "" })) = .ok (vs.map id) := by
    refine Outcome.mapM_map_of_forall fun v member => ?_
    exact Outcome.bind_eq_ok.2 ⟨_, checkName_of_isName (named v member), rfl⟩
  rw [List.map_id] at all
  exact all

section Inputs

variable {vs : List InputValue} (knows : Knows index s order) (tellable : InputValue.TellableAll vs)
  (takes : ∀ v ∈ vs, q.takes s v = true) (told : ∀ v ∈ vs, v.type.name ∈ order)
include knows tellable takes told

/-- The arguments that are shown are read under their names. -/
theorem Knows.byName_inputValues (what : String) :
    byName (Introspection.inputValue index what) (q.inputValues s vs) =
      .ok ((vs.filter (shows q)).map fun v => (.str v.name, { v with name := "" })) := by
  refine byName_of_forall InputValue.name ?_ ?_ (fun v _ => member_of_get? rfl) ?_
  · exact tellable.distinct.sublist (List.filter_sublist.map _)
  · exact fun v member => (tellable.each v (List.mem_filter.1 member).1).named
  · intro v member
    obtain ⟨own, shown⟩ := List.mem_filter.1 member
    exact knows.inputValue (tellable.each v own) (takes v own) (told v own) shown what

/-- Arguments are read as those that are told. -/
theorem Knows.argumentList :
    argumentList index (q.inputValues s vs) = .ok (vs.filter (shows q)) := by
  refine Outcome.bind_eq_ok.2 ⟨_, knows.byName_inputValues tellable takes told "arguments", ?_⟩
  exact nameInputs_of_forall fun v member => (tellable.each v (List.mem_filter.1 member).1).named

/-- The fields of an input object are read as those that are told. -/
theorem Knows.inputFields (owner : String) :
    inputFields index owner (q.inputValues s vs) = .ok (vs.filter (shows q)) := by
  have made := knows.byName_inputValues tellable takes told "input fields"
  refine Outcome.bind_eq_ok.2 ⟨_, Outcome.mapError_eq_ok.2 made, ?_⟩
  exact nameInputs_of_forall fun v member => (tellable.each v (List.mem_filter.1 member).1).named

end Inputs

/-- A field that is told is read with the arguments that are told. -/
theorem Knows.outputField (knows : Knows index s order) {f : OutputField} (tellable : f.Tellable)
    (gives : q.gives s f = true) (told : f.type.name ∈ order)
    (arguments : ∀ a ∈ f.arguments, a.type.name ∈ order) :
    outputField index (q.outputField s f) =
      .ok { f with name := "", arguments := f.arguments.filter (shows q) } := by
  simp only [Inquiry.gives, Bool.and_eq_true, decide_eq_true_eq, List.all_eq_true] at gives
  obtain ⟨⟨output, fits⟩, takes⟩ := gives
  obtain ⟨t, found, output⟩ := (Option.any_eq_true _ _).1 output
  have type : member "type" (q.outputField s f) = .ok (Inquiry.reference s q.wrappers f.type) :=
    member_of_get? rfl
  have args : optional "args" (q.outputField s f) = .ok (q.inputValues s f.arguments) :=
    optional_of_get? rfl
  have description : given? (q.outputField s f) "description" = f.description :=
    given?_of_get? rfl tellable.described
  have deprecation : text? (q.outputField s f) "deprecationReason" = f.deprecation :=
    text?_of_get? rfl
  have kind : t.form.kind ≠ .input := by
    unfold NamedType.isOutput at output
    cases is : t.form <;> simp_all [TypeForm.kind]
  refine Outcome.bind_eq_ok.2 ⟨_, type, ?_⟩
  refine Outcome.bind_eq_ok.2 ⟨_, knows.anyTypeRef tellable.formed told found fits, ?_⟩
  dsimp only
  rw [if_neg kind]
  refine Outcome.bind_eq_ok.2 ⟨_, args, ?_⟩
  refine Outcome.bind_eq_ok.2 ⟨_, knows.argumentList tellable.arguments takes arguments, ?_⟩
  rw [description, deprecation]
  rfl

/-- The fields of a type are read as they are where none of their arguments is kept back. -/
theorem Knows.outputFields (knows : Knows index s order) {fields : List OutputField}
    (distinct : (fields.map OutputField.name).Nodup) (tellable : ∀ f ∈ fields, f.Tellable)
    (gives : ∀ f ∈ fields, q.gives s f = true)
    (told : ∀ f ∈ fields, f.type.name ∈ order ∧ ∀ a ∈ f.arguments, a.type.name ∈ order)
    (undeprecated : ∀ f ∈ fields, ∀ a ∈ f.arguments, a.deprecation = none) {entry : Json}
    (has : entry.get? "fields" = some (.arr (fields.map (q.outputField s)))) (owner : String) :
    outputFields index owner entry = .ok fields := by
  have made : byName (Introspection.outputField index) (.arr (fields.map (q.outputField s))) =
      .ok (fields.map fun f => (.str f.name, { f with name := "" })) := by
    refine byName_of_forall OutputField.name distinct (fun f member => (tellable f member).named)
      (fun f _ => member_of_get? rfl) fun f member => ?_
    have read := knows.outputField (tellable f member) (gives f member) (told f member).1 (told f member).2
    rw [filter_shows (undeprecated f member)] at read
    exact read
  have all : Introspection.outputFields index owner entry = .ok (fields.map id) := by
    refine Outcome.bind_eq_ok.2 ⟨fields.map fun f => (.str f.name, { f with name := "" }), ?_, ?_⟩
    · refine Outcome.mapError_eq_ok.2 ?_
      exact Outcome.bind_eq_ok.2 ⟨_, optional_of_get? has, made⟩
    · refine Outcome.mapM_map_of_forall fun f member => ?_
      exact Outcome.bind_eq_ok.2 ⟨_, checkName_of_isName (tellable f member).named, rfl⟩
  rw [List.map_id] at all
  exact all

/-! ## Members of types -/

/-- A reference to a type of a kind is read as its name. -/
theorem Knows.ofKind (knows : Knows index s order) {name : String} {kind : TypeKind}
    (is : Inquiry.names s kind name = true) (told : name ∈ order) {reference : Json}
    (own : reference.get? "name" = some (.str name)) (word : String) :
    ofKind index kind word reference = .ok name := by
  obtain ⟨t, found, same⟩ := (Option.any_eq_true _ _).1 is
  have kind : t.form.kind = kind := eq_of_beq same
  refine Outcome.bind_eq_ok.2 ⟨_, knows.namedRef told found own, ?_⟩
  dsimp only
  rw [if_pos kind]
  rfl

/-- References to types of a kind are read as their names. -/
theorem Knows.mapM_ofKind (knows : Knows index s order) {names : List String} {kind : TypeKind}
    (are : ∀ name ∈ names, Inquiry.names s kind name = true) (told : ∀ name ∈ names, name ∈ order)
    (more : Bool) (word : String) :
    (names.map (Inquiry.namedReference s more)).mapM (Introspection.ofKind index kind word) = .ok names := by
  have each : ∀ name ∈ names,
      Introspection.ofKind index kind word (Inquiry.namedReference s more name) = .ok (id name) :=
    fun name member => knows.ofKind (are name member) (told name member) rfl word
  have all := Outcome.mapM_map_of_forall each
  rw [List.map_id] at all
  exact all

/-- The interfaces of a type are read as they are told. -/
theorem Knows.interfaces (knows : Knows index s order) {names : List String}
    (are : ∀ name ∈ names, Inquiry.names s .interface name = true) (told : ∀ name ∈ names, name ∈ order)
    {entry : Json} (has : entry.get? "interfaces" = some (q.references s names)) (optionalHere : Bool) :
    interfaces index entry optionalHere = .ok names := by
  refine Outcome.bind_eq_ok.2 ⟨_, optional_of_get? has, ?_⟩
  exact Outcome.bind_eq_ok.2 ⟨_, rfl, knows.mapM_ofKind are told _ _⟩

/-- The values of an enum are read as they are. -/
theorem enumValues_of_forall {values : List EnumValue} (distinct : (values.map EnumValue.name).Nodup)
    (each : ∀ v ∈ values, Lexer.isName v.name = true ∧
      ["true", "false", "null"].contains v.name = false) :
    enumValues (.arr (values.map Inquiry.enumValue)) = .ok values := by
  have entries : (values.map Inquiry.enumValue).mapM (fun e => do
      let name ← (← member "name" e).hashable.mapError .access
      pure (name, e)) =
        (.ok (values.map fun v => (Json.str v.name, Inquiry.enumValue v)) : Step (List (Json × Json))) := by
    refine Outcome.mapM_map_of_forall fun v _ => ?_
    exact Outcome.bind_eq_ok.2 ⟨.str v.name, member_of_get? rfl, rfl⟩
  have once : (Keyed.names (values.map fun v => (v.name, v))).Nodup := by
    rw [Keyed.names, List.map_map]
    exact distinct
  refine Outcome.bind_eq_ok.2 ⟨_, rfl, ?_⟩
  refine Outcome.bind_eq_ok.2 ⟨_, entries, ?_⟩
  refine Outcome.bind_eq_ok.2 ⟨values.map fun v => (v.name, v), ?_, ?_⟩
  · refine Outcome.mapM_map_of_forall fun v member => ?_
    obtain ⟨named, free⟩ := each v member
    have description : text? (Inquiry.enumValue v) "description" = v.description := text?_of_get? rfl
    have deprecation : text? (Inquiry.enumValue v) "deprecationReason" = v.deprecation :=
      text?_of_get? rfl
    refine Outcome.bind_eq_ok.2 ⟨_, checkEnumValueName_of_isName named free, ?_⟩
    rw [description, deprecation]
    rfl
  · rw [Outcome.pure_eq_ok, Keyed.ofPairs_of_nodup once, List.map_map]
    exact List.map_id _

/-! ## Directives and roots -/

/-- A directive as far as it is told. -/
def toldDirective (q : Inquiry) (d : DirectiveType) : DirectiveType :=
  { d with
    arguments := d.arguments.filter (shows q), repeatable := q.extended && d.repeatable
    deprecation := none }

/-- A directive is read as far as it is told. -/
theorem Knows.directiveType (knows : Knows index s order) {d : DirectiveType} (tellable : d.Tellable)
    (takes : ∀ a ∈ d.arguments, q.takes s a = true) (told : ∀ a ∈ d.arguments, a.type.name ∈ order) :
    directiveType index (q.directive s d) = .ok (toldDirective q d) := by
  have args : optional "args" (q.directive s d) = .ok (q.inputValues s d.arguments) :=
    optional_of_get? rfl
  have locations : optional "locations" (q.directive s d) = .ok (.ofStrings d.locations) :=
    optional_of_get? rfl
  have description : text? (q.directive s d) "description" = d.description := text?_of_get? rfl
  have repeatable : flag (q.directive s d) "isRepeatable" = (q.extended && d.repeatable) := by
    unfold Inquiry.directive
    cases q.extended <;> rfl
  have deprecation : text? (q.directive s d) "deprecationReason" = none := by
    unfold Inquiry.directive
    cases q.extended <;> rfl
  have places : (d.locations.map Json.str).mapM (location d.name) = .ok d.locations := by
    have each : ∀ place ∈ d.locations, location d.name (.str place) = .ok (id place) := by
      intro place member
      rw [location, if_pos (tellable.places place member)]
      rfl
    have all := Outcome.mapM_map_of_forall each
    rw [List.map_id] at all
    exact all
  have read := knows.byName_inputValues tellable.arguments takes told "arguments"
  have named := nameInputs_of_forall fun v (member : v ∈ d.arguments.filter (shows q)) =>
    (tellable.arguments.each v (List.mem_filter.1 member).1).named
  refine Outcome.bind_eq_ok.2 ⟨_, args, ?_⟩
  refine Outcome.bind_eq_ok.2 ⟨_, locations, ?_⟩
  refine Outcome.bind_eq_ok.2 ⟨.str d.name, member_of_get? rfl, ?_⟩
  refine Outcome.bind_eq_ok.2 ⟨_, rfl, ?_⟩
  refine Outcome.bind_eq_ok.2 ⟨_, read, ?_⟩
  refine Outcome.bind_eq_ok.2 ⟨_, checkName_of_isName tellable.named, ?_⟩
  refine Outcome.bind_eq_ok.2 ⟨_, places, ?_⟩
  refine Outcome.bind_eq_ok.2 ⟨_, named, ?_⟩
  rw [description, repeatable, deprecation]
  rfl

/-- The root of a kind is read as it is. -/
theorem Knows.root (knows : Knows index s order) {kind : OperationKind}
    (is : ∀ name, s.root? kind = some name → name ∈ order ∧ Inquiry.names s .object name = true)
    {schema : Json} {key : String} (has : schema.get? key = some (Inquiry.root s kind)) :
    root index schema key = .ok (s.root? kind) := by
  refine Outcome.bind_eq_ok.2 ⟨_, optional_of_get? has, ?_⟩
  unfold Inquiry.root
  cases starts : s.root? kind with
  | none => rfl
  | some name =>
      obtain ⟨told, object⟩ := is name starts
      have read : Introspection.ofKind index .object "Object"
          (.obj [("name", .str name), ("kind", .str (Inquiry.kindWord .object))]) = .ok name :=
        knows.ofKind object told rfl "Object"
      exact Outcome.map_eq_ok.2 ⟨name, read, rfl⟩

end Introspection

end QueryTools
