import QueryTools.Proofs.Input.Legal
import QueryTools.Proofs.Schema.Distinct
import QueryTools.Proofs.Shape.Taking

/-!
# What is sent on for a value

A value goes to the endpoint nearly as it was given: members that are not declared are left out, and
the others come in the order of their declaration; a whole number becomes a fraction where one is
expected.  Below the last input object that the budget admits nothing is changed.

Main statement: `Schema.admitsAll_sendAll` -- of members that a tool takes, what is sent on is admitted
too, and holds none that are not declared.
-/

namespace QueryTools

/-- The value that is sent on for a reference, given what is sent on for named types. -/
def TypeRef.send (inner : String → Json → Json) : TypeRef → Json → Json
  | .named name => inner name
  | .list item => Shape.sendItems (item.send inner)
  | .nonNull type => type.send inner

/-- A reference sends on null as null and nothing else so, if named types do. -/
theorem TypeRef.isNull_send {inner : String → Json → Json}
    (named : ∀ name v, (inner name v).isNull = v.isNull) (type : TypeRef) (v : Json) :
    (type.send inner v).isNull = v.isNull := by
  induction type with
  | named name => exact named name v
  | list item ih => cases v <;> rfl
  | nonNull type ih => exact ih

namespace Schema

/-- The members that are sent on for parameters: those that were given, in the order of the
parameters. -/
def sendMembers (send : TypeRef → Json → Json) (ps : List Parameter) (members : Keyed Json) :
    Keyed Json :=
  ps.filterMap fun p => (Keyed.get? p.name members).map fun v => (p.name, send p.type v)

/-- The value that is sent on for a named type: whole numbers become fractions where a fraction is
expected, and members that are not declared are left out. -/
def sendNamed (s : Schema) : Nat → String → Json → Json
  | 0, _, v => v
  | depth + 1, name, v =>
    match (s.find? name).map NamedType.form with
    | some (.scalar _) => if name = "Float" then Shape.asFraction v else v
    | some (.input fields _) =>
      match v with
      | .obj members =>
        let send (type : TypeRef) (v : Json) : Json := type.send (sendNamed s depth) v
        .obj (sendMembers send (fields.map s.parameter) members)
      | v => v
    | _ => v

/-- The value that is sent on for a type. -/
def send (s : Schema) (depth : Nat) (type : TypeRef) (v : Json) : Json :=
  type.send (s.sendNamed depth) v

/-- The members that are sent on for the parameters of an operation. -/
def sendAll (s : Schema) (depth : Nat) (ps : List Parameter) (members : Keyed Json) : Keyed Json :=
  sendMembers (s.send depth) ps members

/-! ## Null, and where nothing is changed -/

/-- What is sent is null just if what was given is. -/
theorem isNull_sendNamed (s : Schema) (depth : Nat) (name : String) (v : Json) :
    (s.sendNamed depth name v).isNull = v.isNull := by
  cases depth with
  | zero => rfl
  | succ depth =>
      simp only [sendNamed]
      split
      · split
        · cases v <;> rfl
        · rfl
      · split
        · rfl
        · rfl
      · rfl

/-- Null is sent on as null, and nothing else is. -/
theorem isNull_send (s : Schema) (depth : Nat) (type : TypeRef) (v : Json) :
    (s.send depth type v).isNull = v.isNull :=
  type.isNull_send (s.isNull_sendNamed depth) v

theorem send_null (s : Schema) (depth : Nat) (type : TypeRef) : s.send depth type .null = .null :=
  Json.eq_null_of_isNull (s.isNull_send depth type .null)

/-- Where no input object may be entered a value is sent on as it is. -/
theorem send_zero (s : Schema) (type : TypeRef) (v : Json) : s.send 0 type v = v := by
  unfold send
  induction type generalizing v with
  | named name => rfl
  | list item ih =>
      rw [TypeRef.send]
      cases v with
      | arr vs =>
          have same : vs.map (item.send (s.sendNamed 0)) = vs :=
            (List.map_congr_left fun x _ => ih x).trans (List.map_id' vs)
          rw [Shape.sendItems, same]
      | _ => rfl
  | nonNull type ih => exact ih v

/-! ## Members -/

/-- What is sent has the names of parameters, in their order. -/
theorem names_sendAll (s : Schema) (depth : Nat) (ps : List Parameter) (members : Keyed Json) :
    (Keyed.names (s.sendAll depth ps members)).Sublist (ps.map Parameter.name) := by
  have sent := Keyed.names_filterMap_sublist Parameter.name
    (fun p => (Keyed.get? p.name members).map (s.send depth p.type)) ps
  simpa only [sendAll, sendMembers, Option.map_map, Function.comp_def] using sent

/-- Sent arguments have each name once. -/
theorem ofPairs_sendAll (s : Schema) (depth : Nat) {ps : List Parameter}
    (distinct : (ps.map Parameter.name).Nodup) (members : Keyed Json) :
    Keyed.ofPairs (s.sendAll depth ps members) = s.sendAll depth ps members :=
  Keyed.ofPairs_of_nodup ((s.names_sendAll depth ps members).nodup distinct)

/-- What is sent on for a parameter is made of what was given for it. -/
theorem get?_sendAll (s : Schema) (depth : Nat) {ps : List Parameter}
    (distinct : (ps.map Parameter.name).Nodup) {p : Parameter} (member : p ∈ ps) (members : Keyed Json) :
    Keyed.get? p.name (s.sendAll depth ps members) =
      (Keyed.get? p.name members).map (s.send depth p.type) := by
  have found := Keyed.get?_filterMap distinct
    (fun p => (Keyed.get? p.name members).map (s.send depth p.type)) member
  simpa only [sendAll, sendMembers, Option.map_map, Function.comp_def] using found

/-- Only members that are declared are sent on. -/
theorem declared_sendAll (s : Schema) (depth : Nat) (ps : List Parameter) (members : Keyed Json) :
    ((s.sendAll depth ps members).all fun m => ps.any fun p => p.name == m.1) = true := by
  refine List.all_eq_true.2 fun pair sent => ?_
  obtain ⟨p, member, makes⟩ := List.mem_filterMap.1 sent
  obtain ⟨v, -, rfl⟩ := Option.map_eq_some_iff.1 makes
  exact List.any_eq_true.2 ⟨p, member, beq_self_eq_true _⟩

/-! ## What is sent on is admitted -/

/-- A scalar that is taken is legal as it is sent. -/
theorem admitsScalar_send {name : String} {v : Json}
    (taken : Latitude.taken.admitsScalar name v = true) :
    Latitude.sent.admitsScalar name (if name = "Float" then Shape.asFraction v else v) = true := by
  by_cases fraction : name = "Float"
  · subst fraction
    rw [if_pos rfl]
    cases v with
    | int n => rfl
    | _ => exact taken
  · rw [if_neg fraction]
    exact taken

/-- A value of a type is legal as it is sent, if those of named types are. -/
theorem admits_send_of_named {s : Schema} {depth : Nat}
    (named : ∀ name v, s.admitsNamed .taken depth name v = true →
      s.admitsNamed .sent depth name (s.sendNamed depth name v) = true)
    {type : TypeRef} {v : Json} (taken : s.admits .taken depth type v = true) :
    s.admits .sent depth type (s.send depth type v) = true := by
  unfold admits at taken ⊢
  by_cases exempt : depth = 0
  · rw [exempt]
    rfl
  have below : (depth == 0) = false := beq_eq_false_iff_ne.2 exempt
  rw [below, Bool.false_or] at taken ⊢
  have kept := s.isNull_sendNamed depth
  unfold send
  induction type generalizing v with
  | named name =>
      rcases Bool.or_eq_true_iff.1 taken with null | admitted
      · exact Bool.or_eq_true_iff.2 (.inl ((kept name v).trans null))
      · exact Bool.or_eq_true_iff.2 (.inr (named name v admitted))
  | list item ih =>
      cases v with
      | arr vs =>
          rw [TypeRef.send, Shape.sendItems]
          refine Bool.or_eq_true_iff.2 (.inr ?_)
          have each := List.all_eq_true.1 ((Bool.or_eq_true_iff.1 taken).resolve_left Bool.false_ne_true)
          refine List.all_eq_true.2 (List.forall_mem_map.2 fun x member => ?_)
          obtain ⟨present, admitted⟩ := Bool.and_eq_true_iff.1 (each x member)
          refine Bool.and_eq_true_iff.2 ⟨?_, ih admitted⟩
          rw [item.isNull_send kept]
          exact present
      | null => rfl
      | _ => cases taken
  | nonNull type ih =>
      obtain ⟨present, admitted⟩ := Bool.and_eq_true_iff.1 taken
      refine Bool.and_eq_true_iff.2 ⟨?_, ih admitted⟩
      rw [TypeRef.send, type.isNull_send kept]
      exact present

/-- Arguments are legal as they are sent, if the values of named types are. -/
theorem admitsAll_sendAll_of_named {s : Schema} {depth : Nat}
    (named : ∀ name v, s.admitsNamed .taken depth name v = true →
      s.admitsNamed .sent depth name (s.sendNamed depth name v) = true)
    {ps : List Parameter} (distinct : (ps.map Parameter.name).Nodup) {members : Keyed Json}
    (taken : s.admitsAll .taken depth ps members = true) :
    s.admitsAll .sent depth ps (s.sendAll depth ps members) = true := by
  unfold admitsAll Latitude.admitsMembers at taken ⊢
  have each := List.all_eq_true.1 (Bool.and_eq_true_iff.1 taken).2
  refine Bool.and_eq_true_iff.2 ⟨?_, List.all_eq_true.2 fun p member => ?_⟩
  · exact Bool.or_eq_true_iff.2 (.inr (s.declared_sendAll depth ps members))
  · have here := each p member
    rw [s.get?_sendAll depth distinct member]
    cases found : Keyed.get? p.name members with
    | none =>
        rw [found] at here
        exact here
    | some v =>
        rw [found] at here
        rcases Bool.or_eq_true_iff.1 here with null | admitted
        · refine Bool.or_eq_true_iff.2 (.inl ?_)
          rw [s.isNull_send]
          exact null
        · exact Bool.or_eq_true_iff.2 (.inr (admits_send_of_named named admitted))

/-- A value of a named type that is taken is legal as it is sent. -/
theorem admitsNamed_sendNamed {s : Schema} (distinct : s.Distinct) (depth : Nat) (name : String)
    (v : Json) (taken : s.admitsNamed .taken depth name v = true) :
    s.admitsNamed .sent depth name (s.sendNamed depth name v) = true := by
  induction depth generalizing name v with
  | zero => rfl
  | succ depth ih =>
      simp only [admitsNamed_succ, sendNamed] at taken ⊢
      cases found : s.find? name with
      | none => simp [found] at taken
      | some t =>
          simp only [found, Option.map_some] at taken ⊢
          cases form : t.form with
          | scalar specified =>
              simp only [form] at taken ⊢
              exact admitsScalar_send taken
          | enum values fault =>
              simp only [form] at taken ⊢
              exact taken
          | input fields oneOf =>
              simp only [form] at taken ⊢
              cases v with
              | obj members =>
                  have names : ((fields.map s.parameter).map Parameter.name).Nodup := by
                    rw [List.map_map]
                    exact (distinct name t found).inputs fields oneOf form
                  have all := admitsAll_sendAll_of_named ih names (Bool.and_eq_true_iff.1 taken).1
                  refine Bool.and_eq_true_iff.2 ⟨all, ?_⟩
                  have exempt : Latitude.sent.manyOfOne = true := rfl
                  rw [exempt, Bool.or_true, Bool.true_or]
              | _ => cases taken
          | _ => simp [form] at taken

/-- What is sent on for members that a tool takes is admitted, and nothing of it is undeclared. -/
theorem admitsAll_sendAll {s : Schema} (distinct : s.Distinct) {depth : Nat} {ps : List Parameter}
    (names : (ps.map Parameter.name).Nodup) {members : Keyed Json}
    (taken : s.admitsAll .taken depth ps members = true) :
    s.admitsAll .sent depth ps (s.sendAll depth ps members) = true :=
  admitsAll_sendAll_of_named (admitsNamed_sendNamed distinct depth) names taken

end Schema

end QueryTools
