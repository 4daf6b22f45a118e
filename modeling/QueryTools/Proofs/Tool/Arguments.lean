import QueryTools.Proofs.Input.Checking
import QueryTools.Proofs.Tool.Validity

/-!
# Arguments of tools

A tool with arguments of its own checks the arguments of a call against the types of its operation's
parameters.  Of an operation whose parameters are built from the language's own scalars, enums, lists and
input objects it can be said which calls the tool takes and what it sends on.

Main statements:

* `Tool.validate_eq_ok_iff_of_covers` -- which arguments are taken, and as what;
* `Tool.validated_admitted` -- what is sent on is legal, some kinds of values apart;
* `Tool.validate_of_legal` -- what is legal is taken, lists with null apart.
-/

namespace QueryTools

namespace Synthesizer

/-- What is known of a tool that was made for an operation. -/
structure Makes (y : Synthesizer) (s : Schema) (o : Operation) (t : Tool) : Prop where
  name : t.name = o.toolName
  operation : t.operation = o
  fields : t.fields = y.fields s o
  convention : t.convention = y.convention
  document : t.document = o.document s y.depth

/-- A tool that is synthesized is one that the synthesizer makes. -/
theorem makes_of_synthesize {y : Synthesizer} {s : Schema} {o : Operation} {t : Tool}
    (made : y.synthesize s o = .ok t) : y.Makes s o t := by
  unfold synthesize at made
  split at made
  · cases made
  · split at made
    · cases made
    · cases made
      exact ⟨rfl, rfl, rfl, rfl, rfl⟩

end Synthesizer

/-- Arguments are taken where they can be read and the fields take them. -/
theorem checkArguments_eq_ok_iff {tool : String} {fields : List (Member Shape)} {raw : Json}
    {given : Members} :
    checkArguments tool fields raw = .ok given ↔
      ∃ members checked, readArguments raw = .ok members ∧
        Shape.checkFields tool [] fields members = .ok checked ∧
        Keyed.ofPairs (checked.filterMap Shape.givenPair) = given := by
  unfold checkArguments
  rw [Outcome.bind_eq_ok]
  refine exists_congr fun members => ?_
  cases Shape.checkFields tool [] fields members with
  | ok checked =>
      constructor
      · rintro ⟨read, gives⟩
        exact ⟨checked, read, rfl, Outcome.pure_eq_ok.1 gives⟩
      · rintro ⟨_, read, same, gives⟩
        cases same
        exact ⟨read, Outcome.pure_eq_ok.2 gives⟩
  | error issues =>
      constructor
      · rintro ⟨-, never⟩
        exact absurd never Outcome.throw_ne_ok
      · rintro ⟨_, -, never, -⟩
        cases never

namespace Tool

variable {t : Tool}

theorem readArguments_obj (members : Keyed Json) : readArguments (.obj members) = .ok members := by
  cases members <;> rfl

/-- A tool refuses an object for its members alone. -/
theorem validate_obj_eq_error {members : Keyed Json} {f : Failure}
    (refused : t.validate (.obj members) = .error f) : ∃ issues, f = .badArguments t.name issues := by
  unfold validate checkArguments at refused
  rw [readArguments_obj] at refused
  cases checked : Shape.checkFields t.name [] t.fields members with
  | ok given =>
      simp only [checked, bind, Except.bind] at refused
      cases refused
  | error issues =>
      simp only [checked, bind, Except.bind] at refused
      cases refused
      exact ⟨issues, rfl⟩

end Tool

namespace Schema

/-- A schema that was loaded is distinct. -/
theorem Loaded.distinct {s : Schema} (loaded : s.Loaded) : s.Distinct := by
  rcases loaded with ⟨text, made⟩ | ⟨result, made⟩
  · exact distinct_ofText (Outcome.mapError_eq_ok.1 made)
  · exact distinct_ofIntrospection made

/-- The parameters of an operation have different names. -/
theorem Loaded.nodup_parameters {s : Schema} (loaded : s.Loaded) {kinds : List OperationKind}
    {os : List Operation} (made : s.operations kinds = .ok os) {o : Operation} (member : o ∈ os) :
    (o.parameters.map Parameter.name).Nodup := by
  obtain ⟨root, f, has, same⟩ := hasRoot_of_operations made member
  obtain ⟨name, -, found⟩ := Option.bind_eq_some_iff.1 has.found
  obtain ⟨fields, own, there⟩ := has.member
  have distinct := (loaded.distinct name root found).arguments fields own f there
  rw [same]
  show ((f.arguments.map s.parameter).map Parameter.name).Nodup
  rw [List.map_map]
  exact distinct

end Schema

namespace Tool

variable {s : Schema} {kinds : List OperationKind} {os : List Operation} {o : Operation}
  {y : Synthesizer} {t : Tool}

/-- A tool with arguments of its own takes what may be given to the parameters, and sends that on. -/
theorem validate_eq_ok_iff_of_covers (distinct : s.Distinct)
    (names : (o.parameters.map Parameter.name).Nodup) (convention : y.convention = .arguments)
    (made : y.synthesize s o = .ok t) (covered : s.covers Shape.defaultDepth o.parameters = true)
    {raw : Json} {given : Members} :
    t.validate raw = .ok given ↔
      ∃ members, readArguments raw = .ok members ∧
        s.admitsAll .taken Shape.defaultDepth o.parameters members = true ∧
        s.sendAll Shape.defaultDepth o.parameters members = given := by
  have fields : t.fields = Shape.fieldsOf s Shape.defaultDepth o.parameters := by
    rw [(Synthesizer.makes_of_synthesize made).fields, Synthesizer.fields, convention]
  rw [validate, checkArguments_eq_ok_iff, fields]
  refine exists_congr fun members => ?_
  have gives := Shape.gives_covered distinct covered t.name [] members
  have pairs := s.ofPairs_sendAll Shape.defaultDepth names members
  constructor
  · rintro ⟨checked, read, ok, rfl⟩
    refine ⟨read, gives.exists_eq_ok_iff.1 ⟨checked, ok⟩, ?_⟩
    rw [gives.given_eq ok, pairs]
  · rintro ⟨read, taken, rfl⟩
    obtain ⟨checked, ok⟩ := gives.exists_eq_ok_iff.2 taken
    exact ⟨checked, read, ok, by rw [gives.given_eq ok, pairs]⟩

/-! ### Tools of a text's schema -/

/-- A tool with arguments of its own is made for an operation of the schema that a text defines. -/
structure OfText (text : String) (s : Schema) (os : List Operation) (o : Operation) (t : Tool) :
    Prop where
  parsed : Schema.parse text = .ok s
  listed : s.operations [.query, .mutation] = .ok os
  member : o ∈ os
  made : ({ convention := .arguments } : Synthesizer).synthesize s o = .ok t
  covered : s.covers Shape.defaultDepth o.parameters = true

/-- Whether there is such a tool with a property. -/
def anyOfText (text : String) (holds : Schema → Operation → Tool → Bool) : Bool :=
  Operation.anyOf (Schema.parse text) fun s o =>
    match ({ convention := .arguments } : Synthesizer).synthesize s o with
    | .ok t => s.covers Shape.defaultDepth o.parameters && holds s o t
    | .error _ => false

/-- What some tool of a text is checked to have, there is one that has it. -/
theorem exists_ofText {text : String} {holds : Schema → Operation → Tool → Bool}
    (any : anyOfText text holds = true) :
    ∃ s os o t, OfText text s os o t ∧ holds s o t = true := by
  obtain ⟨s, os, o, parsed, listed, member, held⟩ := Operation.exists_of_anyOf any
  split at held
  · rename_i t made
    obtain ⟨covered, held⟩ := Bool.and_eq_true_iff.1 held
    exact ⟨s, os, o, t, ⟨parsed, listed, member, made, covered⟩, held⟩
  · cases held

/-! ### What is sent on is legal -/

/-- **What a tool sends on is legal, some values apart.**  Of an operation whose parameters are built from
the language's own scalars, enums, lists and input objects, whatever a call of its tool is taken to give
is admitted by the types of the parameters as far as the budget goes, if only these are let pass: null
for what has a default, whole numbers of any size, fractions that are not finite, any text where an enum
has no values, and any number of fields where exactly one has to be given. -/
theorem validated_admitted (loaded : s.Loaded) (listed : s.operations kinds = .ok os) (member : o ∈ os)
    (convention : y.convention = .arguments) (made : y.synthesize s o = .ok t)
    (covered : s.covers Shape.defaultDepth o.parameters = true) {raw : Json} {given : Members}
    (accepted : t.validate raw = .ok given) :
    s.admitsAll .sent Shape.defaultDepth o.parameters given = true := by
  have names := loaded.nodup_parameters listed member
  obtain ⟨members, -, taken, rfl⟩ :=
    (validate_eq_ok_iff_of_covers loaded.distinct names convention made covered).1 accepted
  exact Schema.admitsAll_sendAll loaded.distinct names taken

/-- A schema with an input object in which a fraction is expected, and a list. -/
def pointsText : String :=
  "type Query { near(at: Point!, ids: [ID!]): Int } input Point { x: Float! y: Float! = 0 }"

/-- What a tool sends on for a point is admitted; what the point has beside its fields is left out. -/
theorem validated_admitted_point :
    ∃ s os o t given, OfText pointsText s os o t ∧
      t.validate (.obj [("at", .obj [("x", .int 1), ("z", .int 2)])]) = .ok given ∧
      (Json.obj given).display = "\x7b'at': \x7b'x': 1.0\x7d\x7d" ∧
      s.admitsAll .sent Shape.defaultDepth o.parameters given = true := by
  have run : anyOfText pointsText (fun _ _ t =>
      (t.validate (.obj [("at", .obj [("x", .int 1), ("z", .int 2)])])).toOption.any fun given =>
        (Json.obj given).display == "\x7b'at': \x7b'x': 1.0\x7d\x7d") = true := by decide +kernel
  obtain ⟨s, os, o, t, of, takes⟩ := exists_ofText run
  obtain ⟨given, is, shown⟩ := (Option.any_eq_true _ _).1 takes
  have accepted := Outcome.toOption_eq_some_iff.1 is
  exact ⟨s, os, o, t, given, of, accepted, beq_iff_eq.1 shown, validated_admitted
    (.inl ⟨pointsText, of.parsed⟩) of.listed of.member rfl of.made of.covered accepted⟩

/-- Whether a tool takes a call and sends on what the language does not admit. -/
def sendsIllegal (raw : Json) (s : Schema) (o : Operation) (t : Tool) : Bool :=
  match t.validate raw with
  | .ok given => !s.admitsAll .language Shape.defaultDepth o.parameters given
  | .error _ => false

/-- Some tool of the schema that a text defines sends on what the language does not admit. -/
def SendsIllegal (text : String) (raw : Json) : Prop :=
  ∃ s os o t given, OfText text s os o t ∧ t.validate raw = .ok given ∧
    s.admitsAll .language Shape.defaultDepth o.parameters given = false

/-- A tool that is checked to send what is not legal does. -/
theorem sendsIllegal_of_any {text : String} {raw : Json}
    (any : anyOfText text (sendsIllegal raw) = true) : SendsIllegal text raw := by
  obtain ⟨s, os, o, t, of, held⟩ := exists_ofText any
  unfold sendsIllegal at held
  split at held
  · rename_i given accepted
    exact ⟨s, os, o, t, given, of, accepted, by simpa using held⟩
  · cases held

/-- Each kind of value that is let pass is sent on by some tool, though the language does not admit
it. -/
theorem exists_sendsIllegal :
    SendsIllegal "type Query { f(n: Int! = 1): Int }" (.obj [("n", .null)]) ∧
    SendsIllegal "type Query { f(i: In): Int } input In { n: Int! = 1 }"
      (.obj [("i", .obj [("n", .null)])]) ∧
    SendsIllegal "type Query { f(n: Int): Int }" (.obj [("n", .int 2147483648)]) ∧
    SendsIllegal "type Query { f(x: Float): Int }" (.obj [("x", .float (.infinity false))]) ∧
    SendsIllegal "type Query { f(e: E): Int } enum E" (.obj [("e", .str "A")]) ∧
    SendsIllegal "type Query { f(i: In): Int } input In @oneOf { a: Int b: Int }"
      (.obj [("i", .obj [("a", .int 1), ("b", .int 2)])]) := by
  refine ⟨?_, ?_, ?_, ?_, ?_, ?_⟩
  all_goals exact sendsIllegal_of_any (by decide +kernel)

/-! ### What is legal is taken -/

/-- **What is legal is taken, lists with null apart.**  Of such an operation, members that the language
admits are taken just where no list among them holds null, as far as the budget goes, and sent on as they
are: in the order of the parameters, with whole numbers as fractions where fractions are expected. -/
theorem validate_of_legal (loaded : s.Loaded) (listed : s.operations kinds = .ok os)
    (member : o ∈ os) (convention : y.convention = .arguments) (made : y.synthesize s o = .ok t)
    (covered : s.covers Shape.defaultDepth o.parameters = true) {members : Keyed Json}
    (legal : s.admitsAll .language Shape.defaultDepth o.parameters members = true) :
    ((∃ given, t.validate (.obj members) = .ok given) ↔
      s.admitsAll {} Shape.defaultDepth o.parameters members = true) ∧
    ∀ given, t.validate (.obj members) = .ok given →
      given = s.sendAll Shape.defaultDepth o.parameters members := by
  have names := loaded.nodup_parameters listed member
  have both := s.admitsAll_meet .taken .language Shape.defaultDepth o.parameters members
  rw [legal, Bool.and_true, show Latitude.taken.meet .language = {} from rfl] at both
  have takes : ∀ given, t.validate (.obj members) = .ok given ↔ _ := fun given =>
    validate_eq_ok_iff_of_covers loaded.distinct names convention made covered
  constructor
  · rw [both]
    constructor
    · rintro ⟨given, accepted⟩
      obtain ⟨_, read, taken, -⟩ := (takes given).1 accepted
      cases (readArguments_obj members).symm.trans read
      exact taken
    · intro taken
      exact ⟨_, (takes _).2 ⟨members, readArguments_obj members, taken, rfl⟩⟩
  · intro given accepted
    obtain ⟨_, read, -, rfl⟩ := (takes given).1 accepted
    cases (readArguments_obj members).symm.trans read
    rfl

/-- Legal arguments for points: the whole number comes as a fraction, and the arguments in the order of the
parameters. -/
theorem validate_of_legal_points :
    ∃ s os o t, OfText pointsText s os o t ∧
      s.admitsAll .language Shape.defaultDepth o.parameters
        [("ids", .arr [.str "a"]), ("at", .obj [("x", .int 1)])] = true ∧
      ∃ given, t.validate (.obj [("ids", .arr [.str "a"]), ("at", .obj [("x", .int 1)])]) = .ok given ∧
        given = s.sendAll Shape.defaultDepth o.parameters
          [("ids", .arr [.str "a"]), ("at", .obj [("x", .int 1)])] := by
  have run : anyOfText pointsText (fun s o _ =>
      s.admitsAll .language Shape.defaultDepth o.parameters
        [("ids", .arr [.str "a"]), ("at", .obj [("x", .int 1)])] &&
      s.admitsAll {} Shape.defaultDepth o.parameters
        [("ids", .arr [.str "a"]), ("at", .obj [("x", .int 1)])]) = true := by decide +kernel
  obtain ⟨s, os, o, t, of, held⟩ := exists_ofText run
  obtain ⟨legal, plain⟩ := Bool.and_eq_true_iff.1 held
  have takes := validate_of_legal (.inl ⟨pointsText, of.parsed⟩) of.listed of.member rfl of.made
    of.covered legal
  obtain ⟨given, accepted⟩ := takes.1.2 plain
  exact ⟨s, os, o, t, of, legal, given, accepted, takes.2 given accepted⟩

/-- A list of nullable items may hold null, but no tool takes it. -/
theorem exists_legal_refused :
    ∃ s os o t, OfText "type Query { f(xs: [Int]): Int }" s os o t ∧
      s.admitsAll .language Shape.defaultDepth o.parameters [("xs", .arr [.int 1, .null])] = true ∧
      ∃ issues, t.validate (.obj [("xs", .arr [.int 1, .null])]) = .error (.badArguments t.name issues) := by
  have run : anyOfText "type Query { f(xs: [Int]): Int }" (fun s o t =>
      s.admitsAll .language Shape.defaultDepth o.parameters [("xs", .arr [.int 1, .null])] &&
        (match t.validate (.obj [("xs", .arr [.int 1, .null])]) with
          | .error (.badArguments tool _) => tool == t.name
          | _ => false)) = true := by decide +kernel
  obtain ⟨s, os, o, t, of, held⟩ := exists_ofText run
  obtain ⟨legal, refused⟩ := Bool.and_eq_true_iff.1 held
  split at refused
  · rename_i tool issues refusal
    rw [beq_iff_eq] at refused
    exact ⟨s, os, o, t, of, legal, issues, refused ▸ refusal⟩
  · cases refused

end Tool

end QueryTools
