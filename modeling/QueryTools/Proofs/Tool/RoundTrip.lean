import QueryTools.Proofs.Tool.Line
import QueryTools.Proofs.Language.Reading

/-!
# Reading documents made for operations

The document that runs an operation is read back as one definition, the one that it was made of.
The reader refuses what is nested too deeply, so this holds where the lists of parameters' types and
the selections keep to `Parser.nestingLimit`, and where they do not, the document is refused.

Main statements:

* `Operation.parse_document` -- what a document that keeps to the limit is read as;
* `Operation.parse_document_tooDeep` -- any other is refused.
-/

namespace QueryTools

/-- How many lists stand around the name. -/
def TypeRef.levels : TypeRef → Nat
  | .named _ => 0
  | .list item => item.levels + 1
  | .nonNull type => type.levels

namespace Selection

mutual

/-- How many selection sets stand in each other within an entry. -/
def nesting : Selection → Nat
  | .field _ _ _ _ selections =>
    match selections with
    | some entries => nestingOf entries + 1
    | none => 0
  | .spread _ _ => 0
  | .inline _ _ entries => nestingOf entries + 1

/-- How many selection sets stand in each other within entries. -/
def nestingOf : List Selection → Nat
  | [] => 0
  | x :: rest => max (nesting x) (nestingOf rest)

end

/-- Selections are as deep as the deepest of them. -/
theorem nestingOf_le_iff {entries : List Selection} {n : Nat} :
    nestingOf entries ≤ n ↔ ∀ x ∈ entries, x.nesting ≤ n := by
  induction entries with
  | nil => simp [nestingOf]
  | cons x rest ih => rw [nestingOf, Nat.max_le, ih, List.forall_mem_cons]

end Selection

namespace Parser

/-! ## Types -/

/-- The mark that excludes null, or nothing. -/
def bangIf (required : Bool) : List Token := if required then [.bang] else []

/-- A type with null excluded, or as it is. -/
def requiredIf (required : Bool) (type : TypeRef) : TypeRef :=
  if required then .nonNull type else type

/-- An exclamation mark is read where it stands, and makes the type a required one. -/
theorem reads_bangIf (required : Bool) (type : TypeRef) {rest : List Token}
    (other : rest.head? ≠ some .bang) :
    Reads (do if ← accept .bang then return .nonNull type else return type) (bangIf required) rest
      fun read => read = requiredIf required type := by
  cases required with
  | true =>
      refine (reads_accept .bang rest).bind_last fun b here => ?_
      rw [here, if_pos rfl]
      exact reads_pure rfl
  | false =>
      refine (reads_accept_other other).bind_last fun b here => ?_
      rw [here, if_neg Bool.false_ne_true]
      exact reads_pure rfl

/-- A type is read as it is written, with an exclamation mark or without, if its lists are not too deep. -/
theorem reads_typeRefIn_bangIf {type : TypeRef} (formed : type.wellFormed = true) {levels : Nat}
    (fits : type.levels ≤ levels) (required : Bool) (once : required = true → type.isNonNull = false)
    {rest : List Token} (other : rest.head? ≠ some .bang) :
    Reads (typeRefIn levels) (type.tokens ++ bangIf required) rest
      fun read => read = requiredIf required type := by
  -- The mark that excludes null is read with the type inside it, so the induction carries it along.
  induction type generalizing levels required rest with
  | named name =>
      rw [typeRefIn]
      refine Reads.look (reads_accept_other (by simp [TypeRef.tokens])) fun b closed => ?_
      rw [closed, if_neg Bool.false_ne_true]
      refine (reads_name name _).bind fun text same => ?_
      rw [same, pure_bind]
      exact reads_bangIf required _ other
  | list item ih =>
      cases levels with
      | zero => exact absurd fits (Nat.not_succ_le_zero _)
      | succ n =>
          have inner : Reads (typeRefIn n) (item.tokens ++ bangIf false)
              (.bracketClose :: (bangIf required ++ rest)) fun read => read = item :=
            ih formed (Nat.le_of_succ_le_succ fits) false (by simp) (by simp)
          rw [typeRefIn, TypeRef.tokens, List.cons_append, List.cons_append, List.append_assoc]
          refine (reads_accept .bracketOpen _).bind fun b here => ?_
          rw [here, if_pos rfl]
          simp only [bangIf, Bool.false_eq_true, if_false, List.append_nil] at inner
          refine inner.bind fun read same => ?_
          refine (reads_expect .bracketClose _).bind fun _ _ => ?_
          rw [same, pure_bind]
          exact reads_bangIf required _ other
  | nonNull type ih =>
      cases required with
      | true => exact absurd (once rfl) (by simp [TypeRef.isNonNull])
      | false =>
          simp only [TypeRef.wellFormed, Bool.and_eq_true, Bool.not_eq_true'] at formed
          have read := ih formed.2 fits true (fun _ => formed.1) other
          rw [TypeRef.tokens, bangIf, if_neg Bool.false_ne_true, List.append_nil]
          exact read

/-- A type is read back where its lists keep to the limit. -/
theorem reads_typeRefIn {type : TypeRef} (formed : type.wellFormed = true) {levels : Nat}
    (fits : type.levels ≤ levels) {rest : List Token} (other : rest.head? ≠ some .bang) :
    Reads (typeRefIn levels) type.tokens rest fun read => read = type := by
  have read := reads_typeRefIn_bangIf formed fits false (by simp) other
  rwa [bangIf, if_neg Bool.false_ne_true, List.append_nil] at read

/-- A type whose lists are too deep is refused. -/
theorem refuses_typeRefIn {type : TypeRef} (formed : type.wellFormed = true) {levels : Nat}
    (deep : levels < type.levels) (rest : List Token) :
    Refuses (typeRefIn levels) (type.tokens ++ rest) := by
  induction type generalizing levels rest with
  | named name => exact absurd deep (Nat.not_lt_zero _)
  | list item ih =>
      rw [typeRefIn, TypeRef.tokens, List.cons_append, List.cons_append, List.append_assoc]
      refine (reads_accept .bracketOpen _).bind_refuses fun b here => ?_
      rw [here, if_pos rfl]
      cases levels with
      | zero => exact (refuses_tooDeep _).bind
      | succ n => exact (ih formed (Nat.lt_of_succ_lt_succ deep) _).bind
  | nonNull type ih =>
      simp only [TypeRef.wellFormed, Bool.and_eq_true] at formed
      rw [TypeRef.tokens, List.append_assoc]
      exact ih formed.2 deep _

/-! ## Parts that may be missing -/

/-- Before any other token than a text no description is read. -/
theorem reads_description {t : Token} {rest : List Token} (string : ∀ text, t ≠ .string text)
    (block : ∀ text, t ≠ .blockString text) :
    Reads description [] (t :: rest) fun read => read = none := by
  refine (reads_peek _).bind_last fun found same => ?_
  have here : found.2 = some t := same
  rw [here]
  cases t with
  | string text => exact absurd rfl (string text)
  | blockString text => exact absurd rfl (block text)
  | _ => exact reads_pure rfl

/-- Before any other token than an at sign no directive is read. -/
theorem reads_directives {constant : Bool} {levels : Nat} {rest : List Token}
    (other : rest.head? ≠ some .at) :
    Reads (directives constant levels) [] rest fun read => read = [] := by
  refine (reads_budget _).look fun n same => ?_
  rw [same, directivesIn]
  refine (reads_peek _).look fun found _ => ?_
  refine (reads_accept_other other).look fun b missing => ?_
  simp only [missing, Bool.false_eq_true, if_false]
  exact reads_pure rfl

/-- Before any other token than an equals sign no default is read. -/
theorem reads_defaultLiteral {rest : List Token} (other : rest.head? ≠ some .equals) :
    Reads defaultLiteral [] rest fun read => read = none := by
  refine (reads_accept_other other).look fun b missing => ?_
  rw [missing, if_neg Bool.false_ne_true]
  exact reads_pure rfl

/-- The name of a variable is read behind its sign. -/
theorem reads_variableName (text : String) (rest : List Token) :
    Reads variableName [.dollar, .name text] rest fun read => read = text :=
  (reads_expect .dollar _).bind fun _ _ => reads_name text rest

/-! ## Variables and arguments -/

/-- What may stand behind a type that is not part of the declaration. -/
def endsDeclaration (rest : List Token) : Prop :=
  rest.head? ≠ some .bang ∧ rest.head? ≠ some .equals ∧ rest.head? ≠ some .at

/-- A variable's type has as many lists as the parameter's. -/
theorem levels_variableType (p : Parameter) :
    (Operation.variableType p).levels = p.type.levels := by
  unfold Operation.variableType
  split
  · cases p.type <;> rfl
  · rfl

/-- The declaration of a parameter is read as it is written, if its type is not too deep. -/
theorem reads_variableDefinition {p : Parameter} (formed : p.type.wellFormed = true)
    (fits : p.type.levels ≤ nestingLimit) {rest : List Token} (ends : endsDeclaration rest) :
    Reads variableDefinition (Operation.declarationTokens p) rest
      fun read => read = Operation.declaration p := by
  obtain ⟨noBang, noEquals, noAt⟩ := ends
  refine (reads_description (by simp) (by simp)).look fun _ _ => ?_
  refine (reads_variableName p.name _).bind fun key named => ?_
  refine (reads_expect .colon _).bind fun _ _ => ?_
  have deep : (Operation.variableType p).levels ≤ nestingLimit := by rwa [levels_variableType]
  refine (reads_typeRefIn (Operation.wellFormed_variableType formed) deep noBang).bind_last
    fun type typed => ?_
  refine (reads_defaultLiteral noEquals).look fun default missing => ?_
  refine (reads_directives noAt).look fun directives empty => ?_
  refine reads_pure ?_
  rw [named, typed, missing, empty]
  rfl

/-- The declaration of a parameter is refused if its type is too deep. -/
theorem refuses_variableDefinition {p : Parameter} (formed : p.type.wellFormed = true)
    (deep : nestingLimit < p.type.levels) (rest : List Token) :
    Refuses variableDefinition (Operation.declarationTokens p ++ rest) := by
  refine (reads_description (by simp) (by simp)).look_refuses fun _ _ => ?_
  refine (reads_variableName p.name _).bind_refuses fun key named => ?_
  refine (reads_expect .colon _).bind_refuses fun _ _ => ?_
  have deeper : nestingLimit < (Operation.variableType p).levels := by rwa [levels_variableType]
  exact (refuses_typeRefIn (Operation.wellFormed_variableType formed) deeper rest).bind

/-- The declarations of variables are read as the variables of the parameters. -/
theorem entries_declarations {parameters : List Parameter}
    (formed : ∀ p ∈ parameters, p.type.wellFormed = true) :
    Entries variableDefinition .parenClose Operation.declarationTokens
      (fun p => p.type.levels ≤ nestingLimit) id Operation.declaration endsDeclaration
      parameters where
  starts p _ := ⟨.dollar, _, rfl, by simp⟩
  closes rest := ⟨by simp, by simp, by simp⟩
  goesOn p _ rest := ⟨by simp [Operation.declarationTokens], by simp [Operation.declarationTokens],
    by simp [Operation.declarationTokens]⟩
  reads p member fits rest ends := reads_variableDefinition (formed p member) fits ends
  refuses p member deep rest :=
    refuses_variableDefinition (formed p member) (Nat.lt_of_not_le deep) rest

/-- The name and value of an argument, without its place. -/
def passes (a : Argument) : String × Literal := (a.name, a.value)

/-- An argument is read as the variable that it passes. -/
theorem reads_argument (p : Parameter) (levels : Nat) (rest : List Token) :
    Reads (argument false levels) (Operation.argumentTokens p) rest
      fun read => passes read = passes (Operation.argument p) := by
  refine (reads_name p.name _).bind fun key named => ?_
  refine (reads_expect .colon _).bind fun _ _ => ?_
  refine (reads_peek _).look fun found _ => ?_
  have value : Reads (literalIn false levels) [.dollar, .name p.name] rest
      fun read => read = .variable p.name := by
    unfold literalIn
    refine (reads_peek _).look fun next same => ?_
    have here : next.2 = some .dollar := same
    simp only [here, Bool.false_eq_true, if_false]
    exact (reads_variableName p.name rest).bind_last fun text same => reads_pure (by rw [same])
  refine value.bind_last fun literal is => ?_
  refine reads_pure ?_
  rw [passes, named, is]
  rfl

/-- The arguments of a field are entries that all fit. -/
theorem entries_arguments (parameters : List Parameter) (levels : Nat) :
    Entries (argument false levels) .parenClose Operation.argumentTokens (fun _ => True) passes
      (fun p => passes (Operation.argument p)) (fun _ => True) parameters where
  starts p _ := ⟨.name p.name, _, rfl, by simp⟩
  closes _ := trivial
  goesOn _ _ _ := trivial
  reads p _ _ rest _ := reads_argument p levels rest
  refuses _ _ not := absurd trivial not

/-! ## Selections -/

/-- What may stand behind an entry of a selection set. -/
def endsEntry (rest : List Token) : Prop :=
  rest.head? ≠ some .colon ∧ rest.head? ≠ some .parenOpen ∧ rest.head? ≠ some .at ∧
    rest.head? ≠ some .braceOpen

/-- What is selected of a field stands behind its arguments. -/
theorem head?_selectionTokens (selections : Option (List Selection)) {rest : List Token}
    (ends : endsEntry rest) :
    (Operation.selectionTokens selections ++ rest).head? ≠ some .colon ∧
      (Operation.selectionTokens selections ++ rest).head? ≠ some .parenOpen ∧
      (Operation.selectionTokens selections ++ rest).head? ≠ some .at := by
  cases selections with
  | none => exact ⟨ends.1, ends.2.1, ends.2.2.1⟩
  | some entries => simp [Operation.selectionTokens]

/-- Behind a field's name no colon follows, so it is no alias. -/
theorem head?_arguments (parameters : List Parameter) {after rest : List Token}
    (other : (after ++ rest).head? ≠ some .colon) :
    (Token.listed Operation.argumentTokens parameters ++ after ++ rest).head? ≠ some .colon := by
  rw [List.append_assoc]
  cases parameters with
  | nil => exact other
  | cons p more => simp [Token.listed]

/-- A field with arguments that pass variables on. -/
theorem reads_selection (inner : Parser (List Selection)) (selections : Option (List Selection))
    (name : String) (parameters : List Parameter) (levels : Nat) {rest : List Token}
    (ends : endsEntry rest)
    (nested : ∀ entries, selections = some entries →
      Reads inner (Operation.selectionTokens selections) rest fun read => read = entries) :
    Reads (selection levels inner)
      (.name name :: Token.listed Operation.argumentTokens parameters
        ++ Operation.selectionTokens selections) rest
      fun read => ∃ arguments, read = .field none name arguments [] selections ∧
        arguments.map passes = parameters.map fun p => passes (Operation.argument p) := by
  obtain ⟨noColon, noParen, noAt⟩ := head?_selectionTokens selections ends
  refine (reads_accept_other (by simp)).look fun b missing => ?_
  rw [missing, if_neg Bool.false_ne_true, List.cons_append]
  refine (reads_name name _).bind fun first same => ?_
  refine (reads_accept_other (head?_arguments parameters noColon)).look fun b missing => ?_
  simp only [missing, Bool.false_eq_true, if_false, pure_bind]
  refine ((entries_arguments parameters levels).reads_optionalMany (fun _ _ => trivial)
    noParen).bind fun arguments passed => ?_
  refine (reads_directives noAt).look fun directives empty => ?_
  refine (reads_next .braceOpen _).look fun b here => ?_
  cases selections with
  | none =>
      have missing : b = false := by simpa [Operation.selectionTokens, ends.2.2.2] using here
      simp only [missing, Bool.false_eq_true, if_false]
      exact reads_pure ⟨arguments, by rw [same, empty], passed⟩
  | some entries =>
      have given : b = true := by simpa [Operation.selectionTokens] using here
      have set : Reads (some <$> inner) (Operation.selectionTokens (some entries)) rest
          fun read => read = some entries :=
        (nested entries rfl).map fun _ same => congrArg some same
      simp only [given, if_true]
      exact set.bind_last fun selections is => reads_pure ⟨arguments, by rw [same, empty, is], passed⟩

/-- A field is refused if the selections inside it are. -/
theorem refuses_selection {inner : Parser (List Selection)} {entries : List Selection}
    (name : String) (parameters : List Parameter) (levels : Nat) {rest : List Token}
    (nested : Refuses inner (Operation.selectionTokens (some entries) ++ rest)) :
    Refuses (selection levels inner)
      (.name name :: Token.listed Operation.argumentTokens parameters
        ++ Operation.selectionTokens (some entries) ++ rest) := by
  have noColon : (Operation.selectionTokens (some entries) ++ rest).head? ≠ some .colon := by
    simp [Operation.selectionTokens]
  have noParen : (Operation.selectionTokens (some entries) ++ rest).head? ≠ some .parenOpen := by
    simp [Operation.selectionTokens]
  have noAt : (Operation.selectionTokens (some entries) ++ rest).head? ≠ some .at := by
    simp [Operation.selectionTokens]
  refine (reads_accept_other (by simp)).look_refuses fun b missing => ?_
  rw [missing, if_neg Bool.false_ne_true, List.cons_append, List.cons_append]
  refine (reads_name name _).bind_refuses fun first same => ?_
  refine (reads_accept_other (head?_arguments parameters noColon)).look_refuses fun b missing => ?_
  simp only [missing, Bool.false_eq_true, if_false, pure_bind]
  rw [List.append_assoc]
  refine ((entries_arguments parameters levels).reads_optionalMany (fun _ _ => trivial)
    noParen).bind_refuses fun arguments passed => ?_
  refine (reads_directives noAt).look_refuses fun directives empty => ?_
  refine (reads_next .braceOpen _).look_refuses fun b here => ?_
  have given : b = true := by simpa [Operation.selectionTokens] using here
  simp only [given, if_true]
  exact nested.map.bind

/-- An entry with levels left for what is selected of it. -/
abbrev entryIn (levels : Nat) : Parser Selection := selection levels (selectionSetIn levels)

/-- Whether an entry is read back where its selection sets fit the levels left, and refused where
they do not. -/
def MeetsLimit (levels : Nat) (x : Selection) : Prop :=
  (x.nesting ≤ levels → ∀ rest, endsEntry rest →
    Reads (entryIn levels) x.tokens rest fun read => read = x) ∧
  (¬ x.nesting ≤ levels → ∀ rest, Refuses (entryIn levels) (x.tokens ++ rest))

/-- Plain selections are entries, of which those fit that are not too deep. -/
theorem entries_selections {xs : List Selection} {levels : Nat} (plain : ∀ x ∈ xs, x.Plain)
    (each : ∀ x ∈ xs, MeetsLimit levels x) :
    Entries (entryIn levels) .braceClose Selection.tokens (fun x => x.nesting ≤ levels) id id
      endsEntry xs where
  starts x member := by
    cases plain x member with
    | leaf named => exact ⟨.name _, _, rfl, by simp⟩
    | node named each => exact ⟨.name _, _, rfl, by simp⟩
  closes rest := ⟨by simp, by simp, by simp, by simp⟩
  goesOn x member rest := by
    cases plain x member with
    | leaf named => simp [endsEntry, Selection.tokens]
    | node named each => simp [endsEntry, Selection.tokens]
  reads x member fits rest ends := (each x member).1 fits rest ends
  refuses x member deep rest := (each x member).2 deep rest

/-- Selections that are not too deep are read as they are written. -/
theorem reads_selectionSetIn {entries : List Selection} (plain : ∀ x ∈ entries, x.Plain)
    (each : ∀ x ∈ entries, ∀ levels, MeetsLimit levels x) {levels : Nat}
    (fits : Selection.nestingOf entries + 1 ≤ levels) (rest : List Token) :
    Reads (selectionSetIn levels) (Operation.selectionTokens (some entries)) rest
      fun read => read = entries := by
  cases levels with
  | zero => exact absurd fits (Nat.not_succ_le_zero _)
  | succ n =>
      have all := Selection.nestingOf_le_iff.1 (Nat.le_of_succ_le_succ fits)
      have read := (entries_selections plain fun x member => each x member n).reads_any all
        .braceOpen rest
      simp only [List.map_id, ← Selection.tokensOf_eq_flatMap] at read
      exact read

/-- Selections that are too deep are refused. -/
theorem refuses_selectionSetIn {entries : List Selection} (plain : ∀ x ∈ entries, x.Plain)
    (each : ∀ x ∈ entries, ∀ levels, MeetsLimit levels x) {levels : Nat}
    (deep : ¬ Selection.nestingOf entries + 1 ≤ levels) (rest : List Token) :
    Refuses (selectionSetIn levels) (Operation.selectionTokens (some entries) ++ rest) := by
  cases levels with
  | zero => exact refuses_tooDeep _
  | succ n =>
      have deeper : ∃ x ∈ entries, ¬ x.nesting ≤ n := by
        have unfit : ¬ Selection.nestingOf entries ≤ n := fun fits => deep (Nat.succ_le_succ fits)
        simpa [Selection.nestingOf_le_iff] using unfit
      have refused := (entries_selections plain fun x member => each x member n).refuses_any deeper
        .braceOpen rest
      rw [← Selection.tokensOf_eq_flatMap] at refused
      rw [Operation.selectionTokens, List.append_assoc]
      exact refused

/-- Plain entries are read back just where their selection sets fit. -/
theorem meetsLimit_of_plain {x : Selection} (plain : x.Plain) (levels : Nat) :
    MeetsLimit levels x := by
  -- Every set that is entered spends one level, so the levels left vary along the induction.
  induction plain generalizing levels with
  | @leaf name named =>
      refine ⟨fun _ rest ends => ?_, fun deep => absurd (Nat.zero_le _) deep⟩
      have read := reads_selection (selectionSetIn levels) none name [] levels ends (by simp)
      refine read.weaken ?_
      rintro _ ⟨arguments, rfl, passed⟩
      rw [List.map_eq_nil_iff.1 passed]
  | @node name entries named plain ih =>
      constructor
      · intro fits rest ends
        have read := reads_selection (selectionSetIn levels) (some entries) name [] levels ends
          (by rintro _ ⟨⟩; exact reads_selectionSetIn plain ih fits rest)
        refine read.weaken ?_
        rintro _ ⟨arguments, rfl, passed⟩
        rw [List.map_eq_nil_iff.1 passed]
      · intro deep rest
        exact refuses_selection name [] levels (refuses_selectionSetIn plain ih deep rest)

/-! ## Operations -/

/-- The kind of an operation is read from its word. -/
theorem reads_operationKind (kind : OperationKind) (rest : List Token) :
    Reads operationKind [.name kind.word] rest fun read => read = kind := by
  refine (reads_peek _).look fun found _ => ?_
  refine (reads_name kind.word rest).bind_last fun text same => ?_
  refine (reads_peek _).look fun _ _ => ?_
  have known : OperationKind.ofWord? text = some kind := by
    rw [same]
    cases kind <;> rfl
  simp only [known]
  exact reads_pure rfl

/-- The root field of an operation, as it is read. -/
def IsRoot (o : Operation) (selections : Option (List Selection)) (x : Selection) : Prop :=
  ∃ arguments, x = .field none o.name arguments [] selections ∧
    arguments.map passes = o.parameters.map fun p => passes (Operation.argument p)

/-- The selection set around the root field holds it alone. -/
theorem entries_root (o : Operation) {selections : Option (List Selection)}
    (plain : ∀ entries, selections = some entries → ∀ x ∈ entries, x.Plain) (levels : Nat) :
    Entries (entryIn levels) .braceClose
      (fun _ : Unit => .name o.name :: Token.listed Operation.argumentTokens o.parameters
        ++ Operation.selectionTokens selections)
      (fun _ => ∀ entries, selections = some entries → Selection.nestingOf entries + 1 ≤ levels)
      (IsRoot o selections) (fun _ => True) endsEntry [()] where
  starts _ _ := ⟨.name o.name, _, rfl, by simp⟩
  closes rest := ⟨by simp, by simp, by simp, by simp⟩
  goesOn _ _ rest := ⟨by simp, by simp, by simp, by simp⟩
  reads _ _ fits rest ends := by
    have read := reads_selection (selectionSetIn levels) selections o.name o.parameters levels ends
      (by
        rintro entries rfl
        exact reads_selectionSetIn (plain entries rfl)
          (fun x member => meetsLimit_of_plain (plain entries rfl x member)) (fits entries rfl) rest)
    exact read.weaken fun x root => eq_true root
  refuses _ _ deep rest := by
    cases selections with
    | none => exact absurd (by simp) deep
    | some entries =>
        have deeper : ¬ Selection.nestingOf entries + 1 ≤ levels := fun fits =>
          deep (by rintro _ ⟨⟩; exact fits)
        exact refuses_selection o.name o.parameters levels (refuses_selectionSetIn
          (plain entries rfl) (fun x member => meetsLimit_of_plain (plain entries rfl x member))
          deeper rest)

end Parser

/-- Whether a definition keeps to the limit of the reader: so many lists in the type of a variable
and so many selection sets in each other. -/
def OperationDefinition.Shallow (d : OperationDefinition) : Prop :=
  (∀ v ∈ d.variableDefinitions, v.type.levels ≤ Parser.nestingLimit) ∧
    Selection.nestingOf d.selections + 1 ≤ Parser.nestingLimit

instance (d : OperationDefinition) : Decidable d.Shallow := by
  unfold OperationDefinition.Shallow
  infer_instance

namespace Operation

/-- The definition that runs an operation with a selection, as it is read. -/
def IsRead (o : Operation) (selections : Option (List Selection)) (d : OperationDefinition) : Prop :=
  ∃ arguments,
    d = { kind := o.kind, name := some o.name, variableDefinitions := o.parameters.map declaration
          directives := [], selections := [.field none o.name arguments [] selections] } ∧
    arguments.map Parser.passes = o.parameters.map fun p => Parser.passes (argument p)

/-- A definition is shallow just if its types and its selections are. -/
theorem shallow_definition_iff {o : Operation} {s : Schema} {depth : Nat} :
    (o.definition s depth).Shallow ↔
      (∀ p ∈ o.parameters, p.type.levels ≤ Parser.nestingLimit) ∧
        ∀ entries, o.output.bind (selectOutput s depth) = some entries →
          Selection.nestingOf entries + 1 ≤ Parser.nestingLimit - 1 := by
  unfold OperationDefinition.Shallow definition
  generalize o.output.bind (selectOutput s depth) = selections
  refine and_congr ?_ ?_
  · simp [declaration, Parser.levels_variableType]
  · cases selections with
    | none => simp [Selection.nestingOf, Selection.nesting, Parser.nestingLimit]
    | some entries =>
        simp only [Selection.nestingOf, Selection.nesting, Parser.nestingLimit, Option.some.injEq,
          forall_eq']
        omega

/-- The tokens of an operation, the last selection set apart. -/
theorem tokens_eq (o : Operation) (selections : Option (List Selection)) :
    o.tokens selections =
      .name o.kind.word :: .name o.name :: (Token.listed declarationTokens o.parameters ++
        (.braceOpen :: [()].flatMap (fun _ => .name o.name ::
          Token.listed argumentTokens o.parameters ++ selectionTokens selections)
          ++ [.braceClose])) := by
  simp [tokens]

open QueryTools.Parser in
/-- An operation that is not too deep is read as it is written. -/
theorem reads_operationDefinition {o : Operation} (spellable : o.Spellable)
    {selections : Option (List Selection)}
    (plain : ∀ entries, selections = some entries → ∀ x ∈ entries, x.Plain)
    (flat : ∀ p ∈ o.parameters, p.type.levels ≤ nestingLimit)
    (fits : ∀ entries, selections = some entries →
      Selection.nestingOf entries + 1 ≤ nestingLimit - 1) (rest : List Token) :
    Reads operationDefinition (o.tokens selections) rest fun read => o.IsRead selections read := by
  have root : Reads selectionSet _ rest _ :=
    (entries_root o plain (nestingLimit - 1)).reads_any (fun _ _ => fits) .braceOpen rest
  have formed : ∀ p ∈ o.parameters, p.type.wellFormed = true := fun p member =>
    (spellable.parameters p member).2
  rw [tokens_eq]
  refine (reads_next .braceOpen _).look fun b here => ?_
  have worded : b = false := by simpa using here
  rw [worded, if_neg Bool.false_ne_true]
  refine (reads_description (by simp) (by simp)).look fun _ _ => ?_
  refine (reads_operationKind o.kind _).bind fun kind kinded => ?_
  refine (reads_peek _).look fun found same => ?_
  have next : found.2 = some (.name o.name) := same
  simp only [next, pure_bind]
  refine (reads_advance (.name o.name) _).bind fun _ _ => ?_
  refine ((entries_declarations formed).reads_optionalMany flat (by simp)).bind
    fun inputs declared => ?_
  refine (reads_directives (by simp)).look fun directives empty => ?_
  refine root.bind_last fun read one => ?_
  obtain ⟨x, rfl, isRoot⟩ := List.map_eq_singleton_iff.1 one
  obtain ⟨arguments, rfl, passed⟩ := of_eq_true isRoot
  rw [List.map_id] at declared
  exact reads_pure ⟨arguments, by rw [kinded, declared, empty], passed⟩

open QueryTools.Parser in
/-- An operation that is too deep somewhere is refused. -/
theorem refuses_operationDefinition {o : Operation} (spellable : o.Spellable)
    {selections : Option (List Selection)}
    (plain : ∀ entries, selections = some entries → ∀ x ∈ entries, x.Plain)
    (deep : ¬ ((∀ p ∈ o.parameters, p.type.levels ≤ nestingLimit) ∧
      ∀ entries, selections = some entries →
        Selection.nestingOf entries + 1 ≤ nestingLimit - 1)) :
    Refuses operationDefinition (o.tokens selections) := by
  have formed : ∀ p ∈ o.parameters, p.type.wellFormed = true := fun p member =>
    (spellable.parameters p member).2
  rw [tokens_eq]
  refine (reads_next .braceOpen _).look_refuses fun b here => ?_
  have worded : b = false := by simpa using here
  rw [worded, if_neg Bool.false_ne_true]
  refine (reads_description (by simp) (by simp)).look_refuses fun _ _ => ?_
  refine (reads_operationKind o.kind _).bind_refuses fun kind kinded => ?_
  refine (reads_peek _).look_refuses fun found same => ?_
  have next : found.2 = some (.name o.name) := same
  simp only [next, pure_bind]
  refine (reads_advance (.name o.name) _).bind_refuses fun _ _ => ?_
  by_cases flat : ∀ p ∈ o.parameters, p.type.levels ≤ nestingLimit
  · have unfit : ¬ ∀ entries, selections = some entries →
        Selection.nestingOf entries + 1 ≤ nestingLimit - 1 := fun fits => deep ⟨flat, fits⟩
    have root : Refuses selectionSet _ :=
      (entries_root o plain (nestingLimit - 1)).refuses_any ⟨(), by simp, unfit⟩ .braceOpen []
    refine ((entries_declarations formed).reads_optionalMany flat (by simp)).bind_refuses
      fun inputs declared => ?_
    refine (reads_directives (by simp)).look_refuses fun directives empty => ?_
    exact root.bind
  · have unfit : ∃ p ∈ o.parameters, ¬ p.type.levels ≤ nestingLimit := by simpa using flat
    exact ((entries_declarations formed).refuses_optionalMany unfit .parenOpen _).bind

/-! ## Documents -/

open QueryTools.Parser in
/-- Behind the word of its kind an operation is read. -/
theorem wordedDefinition_word (kind : OperationKind) (position wordPosition : Nat)
    (described : Bool) :
    wordedDefinition position described wordPosition kind.word =
      Definition.operation <$> operationDefinition := by
  cases kind <;> rfl

open QueryTools.Parser in
/-- A document of one operation is read as that operation, if it is not too deep. -/
theorem reads_document {o : Operation} (spellable : o.Spellable)
    {selections : Option (List Selection)}
    (plain : ∀ entries, selections = some entries → ∀ x ∈ entries, x.Plain)
    (flat : ∀ p ∈ o.parameters, p.type.levels ≤ nestingLimit)
    (fits : ∀ entries, selections = some entries →
      Selection.nestingOf entries + 1 ≤ nestingLimit - 1) :
    Reads Parser.document (o.tokens selections) []
      fun read => ∃ d, read = [.operation d] ∧ o.IsRead selections d := by
  have first : Reads Parser.definition (o.tokens selections) []
      fun read => ∃ d, read = .operation d ∧ o.IsRead selections d := by
    refine (reads_peek _).look fun found same => ?_
    have next : found.2 = some (.name o.kind.word) := by rw [same, tokens_eq]; rfl
    obtain ⟨position, seen⟩ := found
    simp only at next
    subst next
    simp only [wordedDefinition_word]
    exact (reads_operationDefinition spellable plain flat fits []).map fun d is => ⟨d, rfl, is⟩
  have ended : Reads (definitionsIn 1) [] [] fun read => read = [] := by
    refine (reads_peek []).look fun found same => ?_
    have nothing : found.2 = none := same
    simp only [nothing]
    exact reads_pure rfl
  refine first.bind_last ?_
  rintro _ ⟨d, rfl, is⟩
  refine (reads_budget []).look fun n left => ?_
  rw [left]
  exact ended.look fun ds empty => reads_pure ⟨d, by rw [empty], is⟩

open QueryTools.Parser in
/-- A document of one operation is refused if it is too deep somewhere. -/
theorem refuses_document {o : Operation} (spellable : o.Spellable)
    {selections : Option (List Selection)}
    (plain : ∀ entries, selections = some entries → ∀ x ∈ entries, x.Plain)
    (deep : ¬ ((∀ p ∈ o.parameters, p.type.levels ≤ nestingLimit) ∧
      ∀ entries, selections = some entries →
        Selection.nestingOf entries + 1 ≤ nestingLimit - 1)) :
    Refuses Parser.document (o.tokens selections) := by
  have first : Refuses Parser.definition (o.tokens selections) := by
    refine (reads_peek _).look_refuses fun found same => ?_
    have next : found.2 = some (.name o.kind.word) := by rw [same, tokens_eq]; rfl
    obtain ⟨position, seen⟩ := found
    simp only at next
    subst next
    simp only [wordedDefinition_word]
    exact (refuses_operationDefinition spellable plain deep).map
  exact first.bind

/-- What can be written and keeps to the limit is read back. -/
theorem parse_document {o : Operation} (spellable : o.Spellable) {s : Schema} {depth : Nat}
    (plain : ∀ entries, o.output.bind (selectOutput s depth) = some entries →
      ∀ x ∈ entries, x.Plain)
    (shallow : (o.definition s depth).Shallow) :
    ∃ d, Document.parse (o.document s depth) = .ok [.operation d] ∧
      o.IsRead (o.output.bind (selectOutput s depth)) d := by
  obtain ⟨flat, fits⟩ := shallow_definition_iff.1 shallow
  have left := toList?_document spellable plain
  rw [← List.append_nil (o.tokens _)] at left
  obtain ⟨read, ts, taken, -, d, rfl, is⟩ := reads_document spellable plain flat fits _ left
  refine ⟨d, ?_, is⟩
  unfold Document.parse Parser.run
  rw [taken]

/-- What goes beyond the limit is refused. -/
theorem parse_document_tooDeep {o : Operation} (spellable : o.Spellable) {s : Schema} {depth : Nat}
    (plain : ∀ entries, o.output.bind (selectOutput s depth) = some entries →
      ∀ x ∈ entries, x.Plain)
    (deep : ¬ (o.definition s depth).Shallow) :
    ∃ position, Document.parse (o.document s depth) = .error ⟨position, .tooDeep⟩ := by
  rw [shallow_definition_iff] at deep
  obtain ⟨position, refused⟩ := refuses_document spellable plain deep _
    (toList?_document spellable plain)
  refine ⟨position, ?_⟩
  unfold Document.parse Parser.run
  rw [refused]

end Operation

end QueryTools
