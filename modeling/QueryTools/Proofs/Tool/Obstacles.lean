import QueryTools.Proofs.Outcome
import QueryTools.Proofs.Schema.Distinct
import QueryTools.Tool.Basic

/-!
# What keeps a tool from being made

The shapes of parameters are made by a walk through the input objects of their values, and so are the
values of defaults; fields are selected by a walk through the objects of a result, past the defaults of
their arguments.  Two things can be met there that keep a tool from being made: an enum whose values
cannot be told, and a default that gives a value where none can be given.

Main statements:

* `Synthesizer.cases_of_obstacle?` -- what was met is one of the two, in a type of the schema;
* `Schema.misuse?_eq_none` -- no constant misuses a type where all types of inputs can be given values.
-/

namespace QueryTools

/-! ## Walks through input objects -/

namespace Shape

variable {s : Schema}

/-- What a walk finds is in the form of a type, or in the declaration of a field of an input object. -/
theorem cases_of_findOfNamed? {α : Type} {inForm : TypeForm → Option α}
    {inField : InputValue → Option α} {depth : Nat} {name : String} {x : α}
    (found : findOfNamed? s inForm inField depth name = some x) :
    (∃ name t, s.find? name = some t ∧ inForm t.form = some x) ∨
      ∃ name t fields oneOf f, s.find? name = some t ∧ t.form = .input fields oneOf ∧ f ∈ fields ∧
        inField f = some x := by
  induction depth generalizing name with
  | zero => cases found
  | succ depth ih =>
      rw [findOfNamed?] at found
      cases known : s.find? name with
      | none =>
          rw [known] at found
          cases found
      | some t =>
          cases form : t.form with
          | input fields oneOf =>
              simp only [known, Option.map_some, form] at found
              obtain ⟨f, member, here⟩ := List.exists_of_findSome?_eq_some found
              rcases Option.or_eq_some_iff.1 here with own | ⟨-, deeper⟩
              · exact .inr ⟨name, t, fields, oneOf, f, known, form, member, own⟩
              · exact ih deeper
          | _ =>
              simp only [known, Option.map_some, form] at found
              exact .inl ⟨name, t, known, by rw [form]; exact found⟩

/-- What keeps the shapes of parameters from being made is an enum whose values cannot be told, or the
default of a field of an input object that gives a value where none can be given. -/
theorem cases_of_obstacle? {depth : Nat} {parameters : List Parameter} {failure : Failure}
    (met : obstacle? s depth parameters = some failure) :
    (∃ name t values text, s.find? name = some t ∧ t.form = .enum values (some text) ∧
        failure = .untoldValues text) ∨
      ∃ name t fields oneOf f kind type, s.find? name = some t ∧ t.form = .input fields oneOf ∧
        f ∈ fields ∧ s.misusedDefault? f = some (kind, type) ∧
        failure = .roots (.defaultOfOutput kind type) := by
  obtain ⟨p, -, found⟩ := List.exists_of_findSome?_eq_some met
  rcases cases_of_findOfNamed? found with ⟨name, t, known, untold⟩ |
    ⟨name, t, fields, oneOf, f, known, form, member, misused⟩
  · obtain ⟨text, fault, rfl⟩ := Option.map_eq_some_iff.1 untold
    cases form : t.form with
    | enum values fault? =>
        rw [form] at fault
        cases fault
        exact .inl ⟨name, t, values, text, known, form, rfl⟩
    | _ =>
        rw [form] at fault
        cases fault
  · obtain ⟨⟨kind, type⟩, default, rfl⟩ := Option.map_eq_some_iff.1 misused
    exact .inr ⟨name, t, fields, oneOf, f, kind, type, known, form, member, default, rfl⟩

end Shape

/-! ## Walks through results -/

namespace Operation

variable {s : Schema}

/-- A fault in arguments is one in the default of an argument. -/
theorem exists_of_misusedArgument? {arguments : List InputValue} {found : TypeKind × String}
    (met : misusedArgument? s arguments = some found) :
    ∃ a ∈ arguments, s.misusedDefault? a = some found := by
  induction arguments with
  | nil => cases met
  | cons a rest ih =>
      have later : misusedArgument? s rest = some found →
          ∃ b ∈ a :: rest, s.misusedDefault? b = some found := by
        intro deeper
        obtain ⟨b, member, misused⟩ := ih deeper
        exact ⟨b, List.mem_cons_of_mem a member, misused⟩
      rw [misusedArgument?] at met
      split at met
      · rcases Option.or_eq_some_iff.1 met with own | ⟨-, deeper⟩
        · exact ⟨a, List.mem_cons_self, own⟩
        · split at deeper
          · cases deeper
          · exact later deeper
      · exact later met

/-- A default that is met among the fields of a type belongs to one of them, or to one of a type of the
schema that was entered. -/
theorem exists_of_misusedField? {levels : Nat} {path : List String} {fields : List OutputField}
    {found : TypeKind × String} (met : misusedField? s levels path fields = some found) :
    ∃ own, (own = fields ∨ ∃ name t, s.find? name = some t ∧ t.outputFields? = some own) ∧
      ∃ f ∈ own, ∃ a ∈ f.arguments, s.misusedDefault? a = some found := by
  induction levels using Nat.strongRecOn generalizing path fields with
  | ind levels ih =>
      rw [misusedField?] at met
      obtain ⟨f, member, here⟩ := List.exists_of_findSome?_eq_some met
      rcases Option.or_eq_some_iff.1 here with own | ⟨-, deeper⟩
      · obtain ⟨a, given, misused⟩ := exists_of_misusedArgument? own
        exact ⟨fields, .inl rfl, f, member, a, given, misused⟩
      · split at deeper
        · split at deeper
          · cases deeper
          · rename_i t known
            split at deeper
            · cases deeper
            · rename_i inner has
              split at deeper
              · cases deeper
              · rename_i n
                split at deeper
                · cases deeper
                · obtain ⟨own, source, inside⟩ := ih n (Nat.lt_succ_self n) deeper
                  refine ⟨own, .inr ?_, inside⟩
                  rcases source with rfl | further
                  · exact ⟨_, t, known, has⟩
                  · exact further
        · cases deeper

/-- The document that is made is the one of the operation. -/
theorem eq_document_of_makeDocument {depth : Nat} {o : Operation} {text : String}
    (made : o.makeDocument s depth = .ok text) : text = o.document s depth := by
  unfold makeDocument at made
  split at made
  · cases made
  · cases made
    rfl

/-- What keeps a document from being made is the default of an argument in a type of the schema. -/
theorem exists_of_makeDocument_eq_error {depth : Nat} {o : Operation} {fault : RootFault}
    (failed : o.makeDocument s depth = .error fault) :
    ∃ name t v kind type, s.find? name = some t ∧ v ∈ t.inputValues ∧
      s.misusedDefault? v = some (kind, type) ∧ fault = .defaultOfOutput kind type := by
  unfold makeDocument at failed
  split at failed
  · rename_i kind type met
    cases failed
    obtain ⟨t, inner, within⟩ := Option.bind_eq_some_iff.1 met
    obtain ⟨fields, has, walk⟩ := Option.bind_eq_some_iff.1 within
    obtain ⟨result, -, known⟩ := Option.bind_eq_some_iff.1 inner
    obtain ⟨own, source, f, member, a, given, misused⟩ := exists_of_misusedField? walk
    rcases source with rfl | ⟨name, u, found, holds⟩
    · have asked := NamedType.mem_inputValues_of_argument has member given
      exact ⟨_, t, a, kind, type, known, asked, misused, rfl⟩
    · have asked := NamedType.mem_inputValues_of_argument holds member given
      exact ⟨name, u, a, kind, type, found, asked, misused, rfl⟩
  · cases failed

end Operation

namespace Synthesizer

variable {y : Synthesizer} {s : Schema} {o : Operation} {f : Failure}

/-- What keeps a tool from being made is that its operation has no name, or an obstacle. -/
theorem cases_of_synthesize (failed : y.synthesize s o = .error f) :
    (o.name = "" ∧ f = .unnamedOperation) ∨ y.obstacle? s o = some f := by
  unfold synthesize at failed
  split at failed
  · rename_i unnamed
    cases failed
    exact .inl ⟨unnamed, rfl⟩
  · split at failed
    · rename_i failure met
      cases failed
      exact .inr met
    · cases failed

/-- An obstacle is an enum whose values cannot be told, or a default among the inputs of a type that gives
a value where none can be given. -/
theorem cases_of_obstacle? (met : y.obstacle? s o = some f) :
    (∃ name t values text, s.find? name = some t ∧ t.form = .enum values (some text) ∧
        f = .untoldValues text) ∨
      ∃ name t v kind type, s.find? name = some t ∧ v ∈ t.inputValues ∧
        s.misusedDefault? v = some (kind, type) ∧ f = .roots (.defaultOfOutput kind type) := by
  unfold obstacle? at met
  split at met
  · rename_i fault failed
    cases met
    obtain ⟨name, t, v, kind, type, found, asked, misused, rfl⟩ :=
      Operation.exists_of_makeDocument_eq_error failed
    exact .inr ⟨name, t, v, kind, type, found, asked, misused, rfl⟩
  · rcases Shape.cases_of_obstacle? met with untold |
      ⟨name, t, fields, oneOf, v, kind, type, found, form, member, misused, same⟩
    · exact .inl untold
    · have asked : v ∈ t.inputValues := by
        rw [NamedType.inputValues, form]
        exact member
      exact .inr ⟨name, t, v, kind, type, found, asked, misused, same⟩

end Synthesizer

/-! ## Constants -/

/-- The items of a list are of the type that the wrappers stand around. -/
theorem TypeRef.name_of_item? {type item : TypeRef} (inner : type.item? = some item) :
    item.name = type.name := by
  induction type with
  | named name => cases inner
  | list content _ =>
      cases inner
      rfl
  | nonNull content ih => exact ih inner

namespace Schema

variable {s : Schema}

/-- Values can be given for a type, as far as it is known. -/
def TakesValues (s : Schema) (type : TypeRef) : Prop :=
  ∀ t, s.named? type = some t → t.isInput = true

/-- Values can be given for the types of the fields of input objects. -/
def InputsTakeValues (s : Schema) : Prop :=
  ∀ name t fields oneOf, s.find? name = some t → t.form = .input fields oneOf →
    ∀ f ∈ fields, s.TakesValues f.type

/-- A type that takes values is none that is put out. -/
theorem outputType?_eq_none {type : TypeRef} (takes : s.TakesValues type) :
    s.outputType? type.name = none := by
  unfold outputType?
  cases known : s.find? type.name with
  | none => rfl
  | some t => simp only [takes t known, if_true]

/-- Fields that are given misuse nothing if none of the values does. -/
theorem misuseGiven?_eq_none {given : Keyed (Option (TypeKind × String) × Bool)}
    (fits : ∀ p ∈ given, p.2.1 = none) (fields : List InputValue) :
    misuseGiven? given fields = none := by
  induction fields with
  | nil => rfl
  | cons f rest ih =>
      rw [misuseGiven?]
      cases found : Keyed.get? f.name given with
      | none => simp only [ih, ite_self]
      | some p =>
          obtain ⟨misused, fit⟩ := p
          have none : misused = none := fits _ (Keyed.mem_of_get? found)
          subst none
          cases fit
          · rfl
          · exact ih

mutual

/-- No constant misuses a type that takes values, if the fields of all input objects do. -/
theorem misuse?_eq_none (inputs : s.InputsTakeValues) {type : TypeRef} (takes : s.TakesValues type) :
    ∀ v, s.misuse? type v = none
  | .null => rfl
  | .list items => by
      rw [misuse?]
      cases inner : type.item? with
      | none => exact outputType?_eq_none takes
      | some item =>
          have same := TypeRef.name_of_item? inner
          have inside : s.TakesValues item := by
            intro t known
            exact takes t (by rw [named?, ← same]; exact known)
          exact misuseItems?_eq_none inputs inside items
  | .object given => by
      rw [misuse?]
      split
      · rename_i name description fields oneOf known
        split
        · rfl
        · refine misuseGiven?_eq_none (fun p member => ?_) fields
          exact misuseFields_eq_none inputs (inputs _ _ fields oneOf known rfl) given p
            (Keyed.mem_ofPairs member)
      · exact outputType?_eq_none takes
  | .variable _ => outputType?_eq_none takes
  | .int _ => outputType?_eq_none takes
  | .float _ => outputType?_eq_none takes
  | .string _ _ => outputType?_eq_none takes
  | .boolean _ => outputType?_eq_none takes
  | .enum _ => outputType?_eq_none takes

/-- Items misuse no type that takes values. -/
theorem misuseItems?_eq_none (inputs : s.InputsTakeValues) {item : TypeRef}
    (takes : s.TakesValues item) : ∀ items, s.misuseItems? item items = none
  | [] => rfl
  | v :: rest => by
      rw [misuseItems?, misuse?_eq_none inputs takes v]
      simp only [misuseItems?_eq_none inputs takes rest, ite_self]

/-- Given fields misuse no type that takes values. -/
theorem misuseFields_eq_none (inputs : s.InputsTakeValues) {fields : List InputValue}
    (takes : ∀ f ∈ fields, s.TakesValues f.type) :
    ∀ given, ∀ p ∈ s.misuseFields fields given, p.2.1 = none
  | [] => nofun
  | (name, v) :: rest => by
      intro p member
      rw [misuseFields] at member
      split at member
      · rename_i f found
        rcases List.mem_cons.1 member with rfl | later
        · exact misuse?_eq_none inputs (takes f (List.mem_of_find?_eq_some found)) v
        · exact misuseFields_eq_none inputs takes rest p later
      · exact misuseFields_eq_none inputs takes rest p member

end

/-- No default misuses its type if that takes values. -/
theorem misusedDefault?_eq_none (inputs : s.InputsTakeValues) {v : InputValue}
    (takes : s.TakesValues v.type) : s.misusedDefault? v = none := by
  unfold misusedDefault?
  cases v.default with
  | none => rfl
  | some literal => exact misuse?_eq_none inputs takes literal

end Schema

end QueryTools
