import QueryTools.Proofs.Building
import QueryTools.Proofs.Tool.Selecting
import QueryTools.Proofs.Schema.Retelling

/-!
# Tools do not depend on where a schema comes from

A schema can be read from its text, or from what it tells of itself.  The second may know less: neither
where scalars are specified nor, if the query does not ask, of which input objects one field must be given.
No part of a tool depends on that, so the same tools are made of both.

Main statements:

* `Schema.Matches.synthesize` -- the same tool is made of each operation;
* `Schema.Matches.build` -- the same set of tools is built under all settings;
* `Schema.build_of_selfDescription` -- a text and what its schema tells of itself give the same set.
-/

namespace QueryTools

/-! ## What is told of a type -/

namespace Inquiry

variable (q : Inquiry) (t : NamedType)

theorem name_told : (q.told t).name = t.name := rfl

theorem isLeaf_told : (q.told t).isLeaf = t.isLeaf := by
  obtain ⟨name, said, form⟩ := t
  cases form <;> rfl

theorem isInput_told : (q.told t).isInput = t.isInput := by
  obtain ⟨name, said, form⟩ := t
  cases form <;> rfl

theorem outputFields?_told : (q.told t).outputFields? = t.outputFields? := by
  obtain ⟨name, said, form⟩ := t
  cases form <;> rfl

theorem inputValues_told : (q.told t).inputValues = t.inputValues := by
  obtain ⟨name, said, form⟩ := t
  cases form <;> rfl

theorem enumFault?_told : Shape.enumFault? (q.told t).form = Shape.enumFault? t.form := by
  obtain ⟨name, said, form⟩ := t
  cases form <;> rfl

end Inquiry

/-! ## Schemas that count the same defaults -/

namespace Schema

/-- A schema retells another, and all defaults count the same in both. -/
structure Matches (q : Inquiry) (s s' : Schema) : Prop extends s.Retells q s' where
  defaults : ∀ name t, s.find? name = some t → ∀ v ∈ t.inputValues,
    s'.declaredDefault v = s.declaredDefault v

end Schema

namespace Standard

/-- Whether an input has no default, or the default that inputs of the introspection types have. -/
def withholds (v : InputValue) : Bool :=
  match v.default with
  | none => true
  | some (.boolean false) => v.type == required "Boolean"
  | _ => false

/-- No input of the types that every schema has brings another default than that. -/
theorem withholds_types : types.all (fun t => t.inputValues.all withholds) = true := by decide +kernel

/-- Defaults of the types that every schema has fit their types. -/
theorem isSome_coerce (s : Schema) {t : NamedType} (member : t ∈ types) {v : InputValue}
    (asked : v ∈ t.inputValues) {l : Literal} (given : v.default = some l) :
    (s.coerce v.type l).isSome = true := by
  have holds := List.all_eq_true.1 (List.all_eq_true.1 withholds_types t member) v asked
  rw [withholds, given] at holds
  split at holds
  · rename_i never
    cases never
  · rename_i is
    cases is
    rw [eq_of_beq holds]
    rfl
  · cases holds

end Standard

namespace Schema

variable {q : Inquiry} {s s' : Schema}

namespace Retells

/-- The defaults count the same where those of the declared types fit. -/
theorem matches_of_fits (retells : s.Retells q s')
    (fits : ∀ t ∈ s.types, ∀ v ∈ t.inputValues, ∀ l, v.default = some l →
      (s.coerce v.type l).isSome = true) : s.Matches q s' := by
  refine ⟨retells, fun name t found v asked => ?_⟩
  rcases mem_of_find? found with standard | declared
  · exact retells.declaredDefault fun l given => Standard.isSome_coerce s standard asked given
  · exact retells.declaredDefault fun l given => fits t declared v asked l given

/-- A schema can be used if what is told of it can. -/
theorem usable (retells : s.Retells q s') (usable : s'.Usable) : s.Usable := by
  have types : ∀ name t, s.find? name = some t → (q.told t).Usable s' := by
    intro name t found
    refine usable.types name _ ?_
    rw [retells.find, found, Option.map_some]
  constructor
  · intro kind t starts
    obtain ⟨name, is, found⟩ := Option.bind_eq_some_iff.1 starts
    have told : (s'.root? kind).bind s'.find? = some (q.told t) := by
      rw [retells.root, is, Option.bind_some, retells.find, found, Option.map_some]
    rw [← q.outputFields?_told]
    exact usable.roots kind _ told
  · intro name t found
    obtain ⟨takes, told⟩ := types name t found
    refine ⟨fun v asked u known => ?_, ?_⟩
    · have there : s'.named? v.type = some (q.told u) := by
        rw [retells.named?, known, Option.map_some]
      rw [← q.isInput_told]
      exact takes v (by rwa [q.inputValues_told]) _ there
    · rw [NamedType.Told, q.enumFault?_told] at told
      exact told

end Retells

namespace Matches

/-! ## Descriptions and documents -/

/-- A named type is printed as in the schema that is told. -/
theorem namedOutput (same : s.Matches q s') (below : Nat) :
    Operation.namedOutput s' below = Operation.namedOutput s below := by
  induction below with
  | zero =>
      funext name
      unfold Operation.namedOutput
      rw [same.find]
      cases s.find? name with
      | none => rfl
      | some t =>
          obtain ⟨name, said, form⟩ := t
          cases form <;> rfl
  | succ below ih =>
      funext name
      unfold Operation.namedOutput
      rw [same.find]
      cases s.find? name with
      | none => rfl
      | some t =>
          obtain ⟨name, said, form⟩ := t
          cases form with
          | object interfaces fields | interface interfaces fields =>
              simp only [Option.map_some, Inquiry.told, ih]
          | _ => rfl

/-- An operation is described as in the schema that is told. -/
theorem describe (same : s.Matches q s') (o : Operation) : o.describe s' = o.describe s := by
  have output : ∀ type, Operation.outputText s' Operation.outputDepth type =
      Operation.outputText s Operation.outputDepth type := by
    intro type
    unfold Operation.outputText Operation.outputDepth
    simp only [same.namedOutput]
  unfold Operation.describe
  simp only [output]

/-- The same fields need no arguments. -/
theorem needsNoArguments (same : s.Matches q s') {name : String} {t : NamedType}
    (found : s.find? name = some t) {fields : List OutputField} (has : t.outputFields? = some fields)
    {f : OutputField} (own : f ∈ fields) :
    Operation.needsNoArguments s' f = Operation.needsNoArguments s f := by
  have each : ∀ a ∈ f.arguments, s'.declaredDefault a = s.declaredDefault a :=
    fun a given => same.defaults name t found a (NamedType.mem_inputValues_of_argument has own given)
  unfold Operation.needsNoArguments
  rw [Bool.not_inj_iff, Bool.eq_iff_iff, List.any_eq_true, List.any_eq_true]
  exact exists_congr fun a => and_congr_right fun given => by rw [each a given]

/-- The same is selected of a field where the same is selected of the types inside. -/
theorem choice (same : s.Matches q s') {levels : Nat}
    (inside : ∀ n, levels = n + 1 → ∀ path name t fields, s.find? name = some t →
      t.outputFields? = some fields →
      Operation.selectFields s' n path fields = Operation.selectFields s n path fields)
    (path : List String) (f : OutputField) :
    Operation.choice s' levels path f = Operation.choice s levels path f := by
  unfold Operation.choice
  rw [same.named?]
  cases found : s.named? f.type with
  | none => rfl
  | some t =>
      simp only [Option.map_some, q.isLeaf_told, q.outputFields?_told, q.name_told]
      cases has : t.outputFields? with
      | none => rfl
      | some fields =>
          cases levels with
          | zero => rfl
          | succ n => simp only [inside n rfl (t.name :: path) _ t fields found has]

/-- The same fields are selected where they are inside them. -/
theorem selectFields_of_inside (same : s.Matches q s') {levels : Nat}
    (inside : ∀ n, levels = n + 1 → ∀ path name t fields, s.find? name = some t →
      t.outputFields? = some fields →
      Operation.selectFields s' n path fields = Operation.selectFields s n path fields)
    (path : List String) {name : String} {t : NamedType} (found : s.find? name = some t)
    {fields : List OutputField} (has : t.outputFields? = some fields) :
    Operation.selectFields s' levels path fields = Operation.selectFields s levels path fields := by
  have chosen : Operation.chosen s' levels path fields = Operation.chosen s levels path fields := by
    unfold Operation.chosen
    rw [List.filter_congr fun f own => same.needsNoArguments found has own]
    exact List.filterMap_congr fun f _ => same.choice inside path f
  rw [Operation.selectFields_eq, Operation.selectFields_eq, chosen]

/-- The same fields of a type are selected, whatever was entered before. -/
theorem selectFields (same : s.Matches q s') (levels : Nat) :
    ∀ path name t fields, s.find? name = some t → t.outputFields? = some fields →
      Operation.selectFields s' levels path fields = Operation.selectFields s levels path fields := by
  induction levels with
  | zero =>
      intro path name t fields found has
      exact same.selectFields_of_inside (fun n never => by cases never) path found has
  | succ levels ih =>
      intro path name t fields found has
      refine same.selectFields_of_inside (fun n is => ?_) path found has
      cases is
      exact ih

/-- The same document is made for an operation. -/
theorem document (same : s.Matches q s') (depth : Nat) (o : Operation) :
    o.document s' depth = o.document s depth := by
  have output : Operation.selectOutput s' depth = Operation.selectOutput s depth := by
    funext type
    unfold Operation.selectOutput
    rw [same.named?]
    cases found : s.named? type with
    | none => rfl
    | some t =>
        simp only [Option.map_some, q.isLeaf_told, q.outputFields?_told, q.name_told]
        cases has : t.outputFields? with
        | none => rfl
        | some fields => simp only [same.selectFields (depth - 1) [t.name] _ t fields found has]
  unfold Operation.document Operation.definition
  rw [output]

/-! ## Shapes -/

/-- A named type has the same shape. -/
theorem ofNamed (same : s.Matches q s') (depth : Nat) : Shape.ofNamed s' depth = Shape.ofNamed s depth := by
  induction depth with
  | zero => rfl
  | succ depth ih =>
      funext name
      unfold Shape.ofNamed
      rw [same.find]
      cases found : s.find? name with
      | none => rfl
      | some t =>
          have defaults := same.defaults name t found
          obtain ⟨name, said, form⟩ := t
          cases form with
          | input fields oneOf =>
              simp only [Option.map_some, Inquiry.told]
              congr 1
              refine List.map_congr_left fun f own => ?_
              simp only [defaults f own, ih]
          | _ => rfl

/-- Parameters have the same fields. -/
theorem fieldsOf (same : s.Matches q s') (depth : Nat) (parameters : List Parameter) :
    Shape.fieldsOf s' depth parameters = Shape.fieldsOf s depth parameters := by
  unfold Shape.fieldsOf Shape.ofType
  rw [same.ofNamed]

/-! ## Tools -/

/-- The same tool is made of each operation. -/
theorem synthesize (same : s.Matches q s') (usable : s'.Usable) (y : Synthesizer) (o : Operation) :
    y.synthesize s' o = y.synthesize s o := by
  have fields : y.fields s' o = y.fields s o := by
    unfold Synthesizer.fields
    rw [same.fieldsOf]
  have description : y.description s' o = y.description s o := by
    unfold Synthesizer.description
    rw [same.describe, same.document]
  unfold Synthesizer.synthesize
  rw [usable.obstacle?_eq_none, (same.usable usable).obstacle?_eq_none, fields, description,
    same.document]

/-- The same fields are declared at the roots. -/
theorem declared (same : s.Matches q s') (kind : OperationKind) : s'.declared kind = s.declared kind := by
  unfold Schema.declared
  rw [same.root]
  cases s.root? kind with
  | none => rfl
  | some name =>
      rw [Option.bind_some, Option.bind_some, same.find]
      cases s.find? name with
      | none => rfl
      | some t => rw [Option.map_some, Option.bind_some, Option.bind_some, q.outputFields?_told]

/-- The same operation is made of a field. -/
theorem operation (same : s.Matches q s') {kind : OperationKind} {f : OutputField}
    (own : f ∈ s.declared kind) : s'.operation kind f = s.operation kind f := by
  have parameters : f.arguments.map s'.parameter = f.arguments.map s.parameter := by
    unfold Schema.declared at own
    cases listed : ((s.root? kind).bind s.find?).bind NamedType.outputFields? with
    | none =>
        rw [listed] at own
        cases own
    | some fields =>
        rw [listed] at own
        obtain ⟨t, starts, has⟩ := Option.bind_eq_some_iff.1 listed
        obtain ⟨name, -, found⟩ := Option.bind_eq_some_iff.1 starts
        refine List.map_congr_left fun a given => ?_
        have default := same.defaults name t found a (NamedType.mem_inputValues_of_argument has own given)
        unfold Schema.parameter
        rw [default]
  unfold Schema.operation
  rw [parameters]

/-- The same operations are made of the fields that are listed of a kind. -/
theorem map_operation (same : s.Matches q s') {kinds : List OperationKind} {kind : OperationKind}
    {fields retold : List OutputField} (asks : s.FieldsAsked kinds kind fields)
    (told : s'.FieldsAsked kinds kind retold) :
    retold.map (s'.operation kind) = fields.map (s.operation kind) := by
  by_cases offered : kind ∈ kinds
  · have here := declared_of_rootFields (asks.asked offered)
    have there := (declared_of_rootFields (told.asked offered)).trans (same.declared kind)
    rw [here, there]
    exact List.map_congr_left fun f own => same.operation own
  · rw [asks.unasked offered, told.unasked offered]
    rfl

/-- The same operations are offered. -/
theorem operations (same : s.Matches q s') (usable : s'.Usable) (kinds : List OperationKind) :
    s'.operations kinds = s.operations kinds := by
  obtain ⟨os, listed⟩ := (same.usable usable).exists_operations kinds
  obtain ⟨os', told⟩ := usable.exists_operations kinds
  rw [listed, told]
  obtain ⟨queries, mutations, queried, changed, rfl⟩ := operations_eq_ok listed
  obtain ⟨queries', mutations', queried', changed', rfl⟩ := operations_eq_ok told
  rw [same.map_operation queried queried', same.map_operation changed changed']

/-- The same becomes of each operation, and the same tools are collected. -/
theorem collect (same : s.Matches q s') (usable : s'.Usable) (settings : Settings)
    (reserved : List String) (done : Keyed Tool) (os : List Operation) :
    (ToolRules.ofSettings settings reserved).collect s' done os =
      (ToolRules.ofSettings settings reserved).collect s done os := by
  have fate : ∀ o, (ToolRules.ofSettings settings reserved).fate s' o =
      (ToolRules.ofSettings settings reserved).fate s o := by
    intro o
    have made : (ToolRules.ofSettings settings reserved).make s' o =
        (ToolRules.ofSettings settings reserved).make s o := same.synthesize usable _ o
    unfold ToolRules.fate
    rw [made]
  induction os generalizing done with
  | nil => rfl
  | cons o rest ih =>
      unfold ToolRules.collect
      rw [fate]
      simp only [ih]

/-- The same set of tools is built under all settings. -/
theorem build (same : s.Matches q s') (usable : s'.Usable) (settings : Settings)
    (reserved : List String) (before : Keyed Tool) :
    (⟨.ofSettings settings reserved, before⟩ : Toolset).build s' =
      (⟨.ofSettings settings reserved, before⟩ : Toolset).build s := by
  have computed : (ToolRules.ofSettings settings reserved).compute s' =
      (ToolRules.ofSettings settings reserved).compute s := by
    unfold ToolRules.compute ToolRules.operations
    simp only [same.operations usable, same.collect usable]
  unfold Toolset.build
  dsimp only
  rw [computed]

end Matches

/-- **Tools do not depend on where a schema comes from.**  Of a text that is let in, where no input is
deprecated and all defaults fit their types, the schema tells of itself in any order of its types; what it
tells is read as a schema, and of both the same set of tools is built under all settings, with the same
notes in the log.  An inquiry follows a type through `q.wrappers` lists and exclamation marks and no further:
there is an answer (`told`) only where the types of all fields and arguments have no more (`Inquiry.tellsAll`). -/
theorem build_of_selfDescription {text : String} (parsed : Schema.parse text = .ok s)
    (undeprecated : ∀ t ∈ s.types, ∀ v ∈ t.inputValues, v.deprecation = none)
    (fits : ∀ t ∈ s.types, ∀ v ∈ t.inputValues, ∀ l, v.default = some l →
      (s.coerce v.type l).isSome = true)
    {order : List String} {answer : Json} (told : s.selfDescription? q order = some answer) :
    ∃ s', Schema.ofIntrospection (.obj [("data", answer)]) = .ok s' ∧
      ∀ settings reserved before around,
        let built := fun schema : Schema =>
          (⟨.ofSettings settings reserved, before⟩ : Toolset).build schema around
        (∃ t, (built s).result = .ok t) ∧ built s' = built s := by
  have made : Schema.ofText text = .ok s := Outcome.mapError_eq_ok.1 parsed
  obtain ⟨s', read, retells⟩ := retells_of_selfDescription? (tellable_ofText made) undeprecated told
  have usable := usable_ofIntrospection read
  have same := retells.matches_of_fits fits
  refine ⟨s', read, fun settings reserved before around => ?_⟩
  have finishes := (retells.usable usable).exists_build (.inl ⟨text, parsed⟩) settings reserved before around
  exact ⟨finishes, congrFun (same.build usable settings reserved before) around⟩

/-- A schema whose defaults are lists, objects, names, texts and numbers. -/
def shop : String :=
  "scalar Date enum Sort \x7b ASC DESC \x7d " ++
    "input Filter @oneOf \x7b sorts: [[Sort!]] days: [Date] \x7d " ++
    "type Query \x7b \"Finds.\" find(filter: Filter = \x7bsorts: [[ASC], DESC]\x7d, " ++
    "text: String! = \"a\\n\"): [Query!]! \x7d type Mutation \x7b drop(id: ID = 7): Query \x7d"

/-- The names under which the types of that schema are told. -/
def shopOrder : List String :=
  ["Query", "Filter", "Sort", "Date", "String", "Mutation", "ID", "Boolean"]
    ++ Standard.introspectionTypes.map NamedType.name

/-- What the schema tells of itself gives the same two tools as its text. -/
theorem build_of_selfDescription_shop :
    ∃ s answer s', Schema.parse shop = .ok s ∧ s.selfDescription? ⟨9, false⟩ shopOrder = some answer ∧
      Schema.ofIntrospection (.obj [("data", answer)]) = .ok s' ∧
      ∃ t, t.names = ["query-find", "mutation-drop"] ∧
        ((⟨.ofSettings { allowMutations := true } [], []⟩ : Toolset).build s Server.cutOff).result = .ok t ∧
        ((⟨.ofSettings { allowMutations := true } [], []⟩ : Toolset).build s' Server.cutOff).result = .ok t := by
  have read : (Schema.parse shop).toOption.any (fun s =>
      s.types.all (fun t => t.inputValues.all fun v =>
        v.deprecation.isNone && v.default.all fun l => (s.coerce v.type l).isSome) &&
      (s.selfDescription? ⟨9, false⟩ shopOrder).isSome &&
      ((⟨.ofSettings { allowMutations := true } [], []⟩ : Toolset).build s Server.cutOff).result.toOption.any fun t =>
        t.names == ["query-find", "mutation-drop"]) = true := by
    decide +kernel
  obtain ⟨s, parsed, sound⟩ := (Option.any_eq_true _ _).1 read
  have parsed := Outcome.toOption_eq_some_iff.1 parsed
  simp only [Bool.and_eq_true, List.all_eq_true] at sound
  obtain ⟨⟨inputs, tells⟩, built⟩ := sound
  obtain ⟨answer, told⟩ := Option.isSome_iff_exists.1 tells
  obtain ⟨t, made, names⟩ := (Option.any_eq_true _ _).1 built
  obtain ⟨s', understood, same⟩ := build_of_selfDescription parsed
    (fun t member v asked => Option.isNone_iff_eq_none.1 (inputs t member v asked).1)
    (fun t member v asked l given => by
      have fits := (inputs t member v asked).2
      rwa [given, Option.all_some] at fits) told
  have here := Outcome.toOption_eq_some_iff.1 made
  have there := congrArg Outcome.result (same { allowMutations := true } [] [] Server.cutOff).2
  exact ⟨s, answer, s', parsed, told, understood, t, eq_of_beq names, here, there.trans here⟩

end Schema

end QueryTools
