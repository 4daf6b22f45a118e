import QueryTools.Proofs.Language.Constants
import QueryTools.Proofs.Language.Tokens
import QueryTools.Schema.Definition

/-!
# What parsers make of tokens

Every token that a text gives is spelled as its kind is, and what a parser makes of the text keeps that:
the names of types, fields, arguments and enum values in a document that was read are names, its types are
written as types are, and its defaults as constants.  `Parser.Yields` says what is known of the result of a
parser on such tokens, and goes along the steps of a parser.

Main statement: what a text defines is well written (`Document.wellWritten_of_parse`).
-/

namespace QueryTools

namespace Parser

variable {α β : Type}

/-- What is known of the result of a parser where the tokens ahead are spelled as they can be; those that
are left are as well. -/
def Yields (p : Parser α) (post : α → Prop) : Prop :=
  ∀ ts a ts', ts.Spelled → p ts = .ok (a, ts') → ts'.Spelled ∧ post a

/-- A parser of whose result nothing need be known. -/
def Keeps (p : Parser α) : Prop := Yields p fun _ => True

/-- A parser that reads nothing gives what it was made with. -/
theorem yields_pure {a : α} {post : α → Prop} (made : post a) : Yields (pure a) post := by
  intro ts b ts' named made'
  cases made'
  exact ⟨named, made⟩

/-- What is known of the first result is handed on to the parser that uses it. -/
theorem Yields.bind {p : Parser α} {f : α → Parser β} {post : α → Prop} {post' : β → Prop}
    (first : Yields p post) (later : ∀ a, post a → Yields (f a) post') :
    Yields (p >>= f) post' := by
  intro ts b ts'' named made
  obtain ⟨⟨a, ts'⟩, taken, made⟩ := Outcome.bind_eq_ok.1 made
  obtain ⟨named', known⟩ := first ts a ts' named taken
  exact later a known ts' b ts'' named' made

/-- Whatever is known of the result, the tokens that are left are spelled as they can be. -/
theorem Yields.keeps {p : Parser α} {post : α → Prop} (yields : Yields p post) : Keeps p :=
  fun ts a ts' named taken => ⟨(yields ts a ts' named taken).1, trivial⟩

/-- A parser that fails gives nothing, so anything is known of what it gives. -/
theorem yields_fail {position : Nat} {cause : SyntaxFault} {post : α → Prop} :
    Yields (fail position cause) post := by
  intro ts a ts' _ made
  cases made

theorem yields_unexpected {post : α → Prop} : Yields unexpected post :=
  fun _ _ _ _ made => (Outcome.bind_eq_ok.1 made).elim fun _ h => nomatch h.2

theorem keeps_pure (a : α) : Keeps (pure a) := yields_pure trivial

theorem keeps_fail (position : Nat) (cause : SyntaxFault) :
    Keeps (fail position cause : Parser α) := yields_fail

theorem keeps_bind {p : Parser α} {f : α → Parser β} (first : Keeps p)
    (later : ∀ a, Keeps (f a)) : Keeps (p >>= f) :=
  Yields.bind first fun a _ => later a

theorem keeps_map {p : Parser α} {f : α → β} (first : Keeps p) : Keeps (f <$> p) := by
  rw [map_eq_pure_bind]
  exact keeps_bind first fun a => keeps_pure (f a)

/-- The next token is spelled as it can be. -/
theorem yields_peek : Yields peek fun found => ∀ t, found.2 = some t → t.Spelled := by
  intro ts found ts' spelled seen
  cases ts with
  | last position =>
      cases seen
      exact ⟨spelled, by simp⟩
  | fault position cause => cases seen
  | cons position t rest =>
      cases seen
      exact ⟨spelled, fun u here => Option.some.inj here ▸ spelled.1⟩

theorem keeps_peek : Keeps peek := yields_peek.keeps

theorem keeps_lookahead : Keeps lookahead := by
  intro ts found ts' named seen
  cases ts with
  | last position =>
      cases seen
      exact ⟨named, trivial⟩
  | fault position cause => cases seen
  | cons position t rest =>
      obtain ⟨⟨found, ts''⟩, -, seen⟩ := Outcome.bind_eq_ok.1 seen
      cases seen
      exact ⟨named, trivial⟩

theorem keeps_advance : Keeps advance := by
  intro ts found ts' named passed
  cases ts with
  | last position =>
      cases passed
      exact ⟨named, trivial⟩
  | fault position cause => cases passed
  | cons position t rest =>
      cases passed
      exact ⟨named.2, trivial⟩

theorem keeps_budget : Keeps budget := by
  intro ts n ts' named counted
  cases counted
  exact ⟨named, trivial⟩

theorem yields_tooDeep {post : α → Prop} : Yields tooDeep post :=
  yields_peek.bind fun _ _ => yields_fail

theorem keeps_tooDeep : Keeps (tooDeep : Parser α) := yields_tooDeep

theorem keeps_next (t : Token) : Keeps (next t) := keeps_bind keeps_peek fun _ => keeps_pure _

theorem keeps_accept (t : Token) : Keeps (accept t) := by
  refine keeps_bind (keeps_next t) fun comes => ?_
  split
  · exact keeps_bind keeps_advance fun _ => keeps_pure true
  · exact keeps_pure false

theorem keeps_expect (t : Token) : Keeps (expect t) := by
  refine keeps_bind keeps_peek fun found => ?_
  dsimp only
  split
  · exact keeps_advance
  · exact keeps_fail _ _

theorem keeps_expectWord (word : String) : Keeps (expectWord word) := by
  refine keeps_bind keeps_peek fun found => ?_
  dsimp only
  split
  · exact keeps_advance
  · exact keeps_fail _ _

/-- A name is one. -/
theorem yields_name : Yields name fun text => Lexer.isName text = true := by
  refine yields_peek.bind fun found known => ?_
  obtain ⟨position, seen⟩ := found
  simp only at known ⊢
  split
  · rename_i text
    exact Yields.bind keeps_advance fun _ _ => yields_pure (known _ rfl)
  · exact yields_fail

theorem keeps_name : Keeps name := yields_name.keeps

/-! ## Repetitions -/

section Repetitions

variable {item : Parser α} {post : α → Prop}

/-- Of each item up to a closing token holds what holds of any that is read. -/
theorem yields_untilClosed (each : Yields item post) (close : Token) (n : Nat) :
    Yields (untilClosed item close n) fun xs => ∀ x ∈ xs, post x := by
  induction n with
  | zero => exact yields_unexpected
  | succ n ih =>
      refine Yields.bind (keeps_accept close) fun b _ => ?_
      split
      · exact yields_pure (by simp)
      · refine each.bind fun x known => ?_
        exact ih.bind fun xs knowns => yields_pure (by simpa using ⟨known, knowns⟩)

/-- Of each item of a bracketed list, which may be empty, holds what holds of any that is read. -/
theorem yields_any (each : Yields item post) (opening close : Token) :
    Yields (any opening item close) fun xs => ∀ x ∈ xs, post x :=
  Yields.bind (keeps_expect opening) fun _ _ =>
    Yields.bind keeps_budget fun n _ => yields_untilClosed each close n

/-- Of each item of a bracketed list that is not empty holds what holds of any that is read. -/
theorem yields_many (each : Yields item post) (opening close : Token) :
    Yields (many opening item close) fun xs => ∀ x ∈ xs, post x := by
  refine Yields.bind (keeps_expect opening) fun _ _ => ?_
  refine each.bind fun x known => ?_
  refine Yields.bind keeps_budget fun n _ => ?_
  exact (yields_untilClosed each close n).bind fun xs knowns =>
    yields_pure (by simpa using ⟨known, knowns⟩)

/-- Of each item of a list that may be missing holds what holds of any that is read. -/
theorem yields_optionalMany (each : Yields item post) (opening close : Token) :
    Yields (optionalMany opening item close) fun xs => ∀ x ∈ xs, post x := by
  refine Yields.bind (keeps_next opening) fun b _ => ?_
  split
  · exact yields_many each opening close
  · exact yields_pure (by simp)

theorem keeps_any (each : Keeps item) (opening close : Token) :
    Keeps (any opening item close) := (yields_any each opening close).keeps

theorem keeps_many (each : Keeps item) (opening close : Token) :
    Keeps (many opening item close) := (yields_many each opening close).keeps

theorem keeps_optionalMany (each : Keeps item) (opening close : Token) :
    Keeps (optionalMany opening item close) := (yields_optionalMany each opening close).keeps

/-- Of each item behind a separator holds what holds of any that is read. -/
theorem yields_moreSeparated (each : Yields item post) (separator : Token) (n : Nat) :
    Yields (moreSeparated item separator n) fun xs => ∀ x ∈ xs, post x := by
  induction n with
  | zero => exact yields_pure (by simp)
  | succ n ih =>
      refine Yields.bind (keeps_accept separator) fun goesOn _ => ?_
      split
      · refine each.bind fun x known => ?_
        exact ih.bind fun xs knowns => yields_pure (by simpa using ⟨known, knowns⟩)
      · exact yields_pure (by simp)

/-- Of each item of a separated list holds what holds of any that is read. -/
theorem yields_separated (each : Yields item post) (separator : Token) :
    Yields (separated item separator) fun xs => ∀ x ∈ xs, post x := by
  refine Yields.bind (keeps_accept separator) fun _ _ => ?_
  refine each.bind fun x known => ?_
  refine Yields.bind keeps_budget fun n _ => ?_
  exact (yields_moreSeparated each separator n).bind fun xs knowns =>
    yields_pure (by simpa using ⟨known, knowns⟩)

theorem keeps_separated (each : Keeps item) (separator : Token) :
    Keeps (separated item separator) := (yields_separated each separator).keeps

end Repetitions

/-! ## Types and values -/

/-- A type is well formed with an exclamation mark behind it, if it had none before. -/
theorem yields_requiredIf {type : TypeRef} (formed : type.wellFormed = true)
    (nullable : type.isNonNull = false) :
    Yields (do if ← accept .bang then return .nonNull type else return type)
      fun type => type.wellFormed = true := by
  refine Yields.bind (keeps_accept .bang) fun b _ => ?_
  split
  · exact yields_pure (by simp [TypeRef.wellFormed, nullable, formed])
  · exact yields_pure formed

/-- A type is written as types are. -/
theorem yields_typeRefIn (levels : Nat) :
    Yields (typeRefIn levels) fun type => type.wellFormed = true := by
  induction levels with
  | zero =>
      refine Yields.bind (keeps_accept .bracketOpen) fun b _ => ?_
      split
      · have never : Yields (tooDeep : Parser TypeRef) fun _ => False := yields_tooDeep
        exact never.bind fun _ impossible => impossible.elim
      · refine yields_name.bind fun text named => ?_
        rw [pure_bind]
        exact yields_requiredIf named rfl
  | succ n ih =>
      refine Yields.bind (keeps_accept .bracketOpen) fun b _ => ?_
      split
      · refine ih.bind fun item formed => ?_
        refine Yields.bind (keeps_expect .bracketClose) fun _ _ => ?_
        rw [pure_bind]
        exact yields_requiredIf formed rfl
      · refine yields_name.bind fun text named => ?_
        rw [pure_bind]
        exact yields_requiredIf named rfl

theorem keeps_variableName : Keeps variableName := keeps_bind (keeps_expect .dollar) fun _ => keeps_name

/-- A word is a literal that documents can hold. -/
theorem written_literalOfWord {text : String} (named : Lexer.isName text = true) (n : Nat) :
    (literalOfWord text).Written n := by
  cases word : literalOfWord text with
  | boolean value => exact .boolean n value
  | null => exact .null n
  | enum name =>
      have same : name = text := by
        unfold literalOfWord at word
        split at word <;> cases word
        rfl
      exact .enum (same ▸ named) (same ▸ word)
  | _ =>
      unfold literalOfWord at word
      split at word <;> cases word

/-- A constant is written as constants are. -/
theorem yields_literalIn (constant : Bool) (levels : Nat) :
    Yields (literalIn constant levels) fun l => constant = true → l.Written levels := by
  -- What is nested is read on the level below, and below the last level nothing is.
  induction levels using Nat.strongRecOn with
  | ind levels ih =>
      rw [literalIn.eq_def]
      refine yields_peek.bind fun found known => ?_
      obtain ⟨position, seen⟩ := found
      simp only at known ⊢
      split
      · split
        · exact yields_tooDeep
        · rename_i n
          refine (yields_any (ih n (Nat.lt_succ_self n)) _ _).bind fun items each => ?_
          exact yields_pure fun fixed => .list fun v member => each v member fixed
      · split
        · exact yields_tooDeep
        · rename_i n
          have member : Yields (do
              let key ← name
              expect .colon
              return (key, ← literalIn constant n)) fun p =>
                Lexer.isName p.1 = true ∧ (constant = true → p.2.Written n) := by
            refine yields_name.bind fun key named => ?_
            refine Yields.bind (keeps_expect .colon) fun _ _ => ?_
            exact (ih n (Nat.lt_succ_self n)).bind fun v written => yields_pure ⟨named, written⟩
          refine (yields_any member _ _).bind fun fields each => ?_
          exact yields_pure fun fixed =>
            .object (fun p own => (each p own).1) fun p own => (each p own).2 fixed
      · exact Yields.bind keeps_advance fun _ _ => yields_pure fun _ => .int (known _ rfl)
      · exact Yields.bind keeps_advance fun _ _ => yields_pure fun _ => .float (known _ rfl)
      · exact Yields.bind keeps_advance fun _ _ => yields_pure fun _ => .string _ _
      · obtain ⟨ls, flush, same⟩ := known _ rfl
        exact Yields.bind keeps_advance fun _ _ => yields_pure fun _ => .block flush same
      · exact Yields.bind keeps_advance fun _ _ =>
          yields_pure fun _ => written_literalOfWord (known _ rfl) levels
      · split
        · refine Yields.bind keeps_advance fun _ _ => ?_
          refine Yields.bind keeps_peek fun after _ => ?_
          split
          · exact yields_fail
          · exact yields_fail
        · rename_i free
          exact Yields.bind keeps_variableName fun _ _ => yields_pure fun fixed => absurd fixed free
      · exact yields_unexpected

theorem keeps_literalIn (constant : Bool) (levels : Nat) : Keeps (literalIn constant levels) :=
  (yields_literalIn constant levels).keeps

/-- A constant that nothing encloses is written as constants are. -/
theorem yields_constantLiteral : Yields constantLiteral (Literal.Written nestingLimit) := by
  intro ts l ts' spelled read
  obtain ⟨left, written⟩ := yields_literalIn true nestingLimit ts l ts' spelled read
  exact ⟨left, written rfl⟩

theorem keeps_argument (constant : Bool) (levels : Nat) :
    Keeps (argument constant levels) := by
  refine keeps_bind keeps_name fun key => ?_
  refine keeps_bind (keeps_expect .colon) fun _ => ?_
  refine keeps_bind keeps_peek fun found => ?_
  exact keeps_bind (keeps_literalIn constant levels) fun _ => keeps_pure _

theorem keeps_arguments (constant : Bool) (levels : Nat) :
    Keeps (arguments constant levels) :=
  keeps_optionalMany (keeps_argument constant levels) .parenOpen .parenClose

theorem keeps_directivesIn (constant : Bool) (levels n : Nat) :
    Keeps (directivesIn constant levels n) := by
  induction n with
  | zero => exact keeps_pure []
  | succ n ih =>
      refine keeps_bind keeps_peek fun found => ?_
      refine keeps_bind (keeps_accept .at) fun goesOn => ?_
      split
      · refine keeps_bind keeps_name fun key => ?_
        refine keeps_bind (keeps_arguments constant levels) fun arguments => ?_
        exact keeps_bind ih fun _ => keeps_pure _
      · exact keeps_pure []

theorem keeps_directives (constant : Bool) (levels : Nat) :
    Keeps (directives constant levels) :=
  keeps_bind keeps_budget fun n => keeps_directivesIn constant levels n

theorem keeps_constantDirectives : Keeps constantDirectives :=
  keeps_directives true nestingLimit

/-! ## What queries -/

theorem keeps_fragmentName : Keeps fragmentName := by
  refine keeps_bind keeps_peek fun found => ?_
  dsimp only
  split
  · exact keeps_fail _ _
  · exact keeps_name

/-- A fragment that stands inline keeps what its selections keep. -/
theorem keeps_inline (levels : Nat) {inner : Parser (List Selection)} (nested : Keeps inner)
    (condition : Option String) :
    Keeps (do
      let directives ← directives false levels
      return Selection.inline condition directives (← inner)) := by
  refine keeps_bind (keeps_directives false levels) fun directives => ?_
  exact keeps_bind nested fun _ => keeps_pure _

/-- A selection keeps what the selections inside it keep. -/
theorem keeps_selection (levels : Nat) {inner : Parser (List Selection)} (nested : Keeps inner) :
    Keeps (selection levels inner) := by
  refine keeps_bind (keeps_accept .spread) fun spreads => ?_
  cases spreads with
  | true =>
      refine keeps_bind (keeps_accept (.name "on")) fun conditioned => ?_
      refine keeps_bind keeps_peek fun found => ?_
      dsimp only
      split
      · refine keeps_bind keeps_fragmentName fun key => ?_
        exact keeps_bind (keeps_directives false levels) fun _ => keeps_pure _
      · split
        · exact keeps_bind (keeps_map keeps_name) fun condition => keeps_inline levels nested condition
        · exact keeps_bind (keeps_pure none) fun condition => keeps_inline levels nested condition
  | false =>
      refine keeps_bind keeps_name fun first => ?_
      refine keeps_bind (keeps_accept .colon) fun labelled => ?_
      have rest (label : Option String) (key : String) : Keeps (do
          let arguments ← arguments false levels
          let directives ← directives false levels
          let selections ← if ← next .braceOpen then some <$> inner else pure none
          return Selection.field label key arguments directives selections) := by
        refine keeps_bind (keeps_arguments false levels) fun arguments => ?_
        refine keeps_bind (keeps_directives false levels) fun directives => ?_
        refine keeps_bind (keeps_next .braceOpen) fun opens => ?_
        split
        · exact keeps_bind (keeps_map nested) fun _ => keeps_pure _
        · exact keeps_bind (keeps_pure none) fun _ => keeps_pure _
      cases labelled with
      | true =>
          refine keeps_bind keeps_name fun key => ?_
          exact keeps_bind (keeps_pure (some first, key)) fun named => rest named.1 named.2
      | false => exact keeps_bind (keeps_pure (none, first)) fun named => rest named.1 named.2

/-- Selections keep the spelling of tokens, however deep they may stand in each other. -/
theorem keeps_selectionSetIn (levels : Nat) : Keeps (selectionSetIn levels) := by
  induction levels with
  | zero => exact keeps_tooDeep
  | succ n ih => exact keeps_any (keeps_selection n ih) .braceOpen .braceClose

theorem keeps_description : Keeps description := by
  refine keeps_bind keeps_peek fun found => ?_
  split
  · exact keeps_bind keeps_advance fun _ => keeps_pure _
  · exact keeps_bind keeps_advance fun _ => keeps_pure _
  · exact keeps_pure none

theorem keeps_wordOf (meaning? : String → Option α) : Keeps (wordOf meaning?) := by
  refine keeps_bind keeps_peek fun found => ?_
  refine keeps_bind keeps_name fun text => ?_
  refine keeps_bind keeps_peek fun after => ?_
  split
  · exact keeps_pure _
  · exact keeps_fail _ _

/-- A default is written as constants are. -/
theorem yields_defaultLiteral :
    Yields defaultLiteral fun default => ∀ l, default = some l → l.Written nestingLimit := by
  refine Yields.bind (keeps_accept .equals) fun given _ => ?_
  split
  · rw [map_eq_pure_bind]
    refine yields_constantLiteral.bind fun l written => yields_pure fun k same => ?_
    exact Option.some.inj same ▸ written
  · exact yields_pure (by simp)

theorem keeps_defaultLiteral : Keeps defaultLiteral := yields_defaultLiteral.keeps

theorem keeps_typeRef : Keeps typeRef := (yields_typeRefIn nestingLimit).keeps

theorem keeps_variableDefinition : Keeps variableDefinition := by
  refine keeps_bind keeps_description fun _ => ?_
  refine keeps_bind keeps_variableName fun key => ?_
  refine keeps_bind (keeps_expect .colon) fun _ => ?_
  refine keeps_bind keeps_typeRef fun type => ?_
  refine keeps_bind keeps_defaultLiteral fun default => ?_
  exact keeps_bind keeps_constantDirectives fun _ => keeps_pure _

theorem keeps_operationKind : Keeps operationKind := keeps_wordOf _

theorem keeps_selectionSet : Keeps selectionSet := keeps_selectionSetIn nestingLimit

theorem keeps_operationDefinition : Keeps operationDefinition := by
  refine keeps_bind (keeps_next .braceOpen) fun short => ?_
  cases short with
  | true => exact keeps_bind keeps_selectionSet fun _ => keeps_pure _
  | false =>
      have rest (kind : OperationKind) (key : Option String) : Keeps (do
          let variableDefinitions ← optionalMany .parenOpen variableDefinition .parenClose
          let directives ← directives false nestingLimit
          return ({ kind, name := key, variableDefinitions, directives, selections := ← selectionSet }
            : OperationDefinition)) := by
        refine keeps_bind (keeps_optionalMany keeps_variableDefinition _ _) fun inputs => ?_
        refine keeps_bind (keeps_directives false nestingLimit) fun directives => ?_
        exact keeps_bind keeps_selectionSet fun _ => keeps_pure _
      refine keeps_bind keeps_description fun description => ?_
      refine keeps_bind keeps_operationKind fun kind => ?_
      refine keeps_bind keeps_peek fun found => ?_
      split
      · exact keeps_bind keeps_advance fun _ => rest kind _
      · exact rest kind none

theorem keeps_fragmentDefinition : Keeps fragmentDefinition := by
  refine keeps_bind keeps_description fun description => ?_
  refine keeps_bind (keeps_expectWord "fragment") fun _ => ?_
  refine keeps_bind keeps_fragmentName fun key => ?_
  refine keeps_bind (keeps_expectWord "on") fun _ => ?_
  refine keeps_bind keeps_name fun condition => ?_
  refine keeps_bind (keeps_directives false nestingLimit) fun directives => ?_
  exact keeps_bind keeps_selectionSet fun _ => keeps_pure _

end Parser

/-! ## What is well written -/

/-- An argument or an input field has a name and a type, and its default is a constant. -/
structure InputDefinition.WellWritten (d : InputDefinition) : Prop where
  named : Lexer.isName d.name = true
  formed : d.type.wellFormed = true
  written : ∀ l, d.default = some l → l.Written Parser.nestingLimit

/-- A field has a name and a type, and its arguments are well written. -/
structure FieldDefinition.WellWritten (d : FieldDefinition) : Prop where
  named : Lexer.isName d.name = true
  formed : d.type.wellFormed = true
  arguments : ∀ a ∈ d.arguments, a.WellWritten

/-- An enum value has a name that is no other literal. -/
structure EnumValueDefinition.WellWritten (d : EnumValueDefinition) : Prop where
  named : Lexer.isName d.name = true
  free : ["true", "false", "null"].contains d.name = false

/-- A type has a name, and what a definition gives it is well written. -/
structure TypeDefinition.WellWritten (d : TypeDefinition) : Prop where
  named : Lexer.isName d.name = true
  fields : ∀ f ∈ Document.fieldsOf d.body, f.WellWritten
  inputs : ∀ v ∈ Document.inputsOf d.body, v.WellWritten
  values : ∀ v ∈ Document.valuesOf d.body, v.WellWritten

/-- A directive has a name, its arguments are well written, and it may stand in places that there are. -/
structure DirectiveDefinition.WellWritten (d : DirectiveDefinition) : Prop where
  named : Lexer.isName d.name = true
  arguments : ∀ a ∈ d.arguments, a.WellWritten
  places : ∀ place ∈ d.locations, directiveLocations.contains place = true

/-- The definition or the extension of a type, or the definition of a directive, is well written. -/
def Definition.WellWritten : Definition → Prop
  | .type d => d.WellWritten
  | .typeExtension d => d.WellWritten
  | .directive d => d.WellWritten
  | _ => True

namespace Parser

/-! ## What defines -/

/-- What a text defines as an argument or an input field is well written. -/
theorem yields_inputDefinition : Yields inputDefinition InputDefinition.WellWritten := by
  refine Yields.bind keeps_description fun description _ => ?_
  refine yields_name.bind fun key named => ?_
  refine Yields.bind (keeps_expect .colon) fun _ _ => ?_
  refine (yields_typeRefIn nestingLimit).bind fun type formed => ?_
  refine yields_defaultLiteral.bind fun default written => ?_
  refine Yields.bind keeps_constantDirectives fun directives _ => ?_
  exact yields_pure ⟨named, formed, written⟩

theorem yields_argumentDefinitions :
    Yields argumentDefinitions fun ds => ∀ d ∈ ds, d.WellWritten :=
  yields_optionalMany yields_inputDefinition .parenOpen .parenClose

/-- What a text defines as a field is well written. -/
theorem yields_fieldDefinition : Yields fieldDefinition FieldDefinition.WellWritten := by
  refine Yields.bind keeps_description fun description _ => ?_
  refine yields_name.bind fun key named => ?_
  refine yields_argumentDefinitions.bind fun arguments written => ?_
  refine Yields.bind (keeps_expect .colon) fun _ _ => ?_
  refine (yields_typeRefIn nestingLimit).bind fun type formed => ?_
  refine Yields.bind keeps_constantDirectives fun directives _ => ?_
  exact yields_pure ⟨named, formed, written⟩

/-- The name of an enum value is no other literal. -/
theorem yields_enumValueName : Yields enumValueName fun name =>
    Lexer.isName name = true ∧ ["true", "false", "null"].contains name = false := by
  intro ts name ts' spelled read
  -- The next token is looked at, and then the same token is read as a name.
  cases ts with
  | last position => cases read
  | fault position cause => cases read
  | cons position t rest =>
      have looked : enumValueName (.cons position t rest) =
          (if ["true", "false", "null"].any fun word => t.text? = some word then
            fail position (.reservedEnumValue t)
          else Parser.name) (.cons position t rest) := rfl
      rw [looked] at read
      split at read
      · cases read
      · rename_i free
        obtain ⟨left, named⟩ := yields_name _ _ _ spelled read
        refine ⟨left, named, ?_⟩
        cases t with
        | name text =>
            have taken : Parser.name (.cons position (.name text) rest) = .ok (text, rest) := rfl
            rw [taken] at read
            cases read
            rw [Bool.eq_false_iff]
            intro listed
            have member := List.contains_iff_mem.1 listed
            exact free (List.any_eq_true.2 ⟨_, member, decide_eq_true rfl⟩)
        | _ => cases read

/-- What a text defines as an enum value is well written. -/
theorem yields_enumValueDefinition : Yields enumValueDefinition EnumValueDefinition.WellWritten := by
  refine Yields.bind keeps_description fun description _ => ?_
  refine yields_enumValueName.bind fun key known => ?_
  exact Yields.bind keeps_constantDirectives fun _ _ => yields_pure ⟨known.1, known.2⟩

theorem keeps_implemented : Keeps implemented := by
  refine keeps_bind (keeps_accept (.name "implements")) fun given => ?_
  split
  · exact keeps_separated keeps_name .ampersand
  · exact keeps_pure []

theorem keeps_rootDefinition : Keeps rootDefinition := by
  refine keeps_bind keeps_operationKind fun kind => ?_
  refine keeps_bind (keeps_expect .colon) fun _ => ?_
  exact keeps_bind keeps_name fun _ => keeps_pure _

/-- The fields of an object or an interface are well written. -/
theorem yields_fields (body : List String → List FieldDefinition → TypeBody)
    (fields : ∀ interfaces fields, Document.fieldsOf (body interfaces fields) = fields)
    (inputless : ∀ interfaces fields, Document.inputsOf (body interfaces fields) = [])
    (valueless : ∀ interfaces fields, Document.valuesOf (body interfaces fields) = [])
    (description : Option String) {key : String} (named : Lexer.isName key = true) :
    Yields (do
      let interfaces ← implemented
      let directives ← constantDirectives
      let fields ← optionalMany .braceOpen fieldDefinition .braceClose
      return { description, name := key, directives, body := body interfaces fields })
      TypeDefinition.WellWritten := by
  refine Yields.bind keeps_implemented fun interfaces _ => ?_
  refine Yields.bind keeps_constantDirectives fun directives _ => ?_
  refine (yields_optionalMany yields_fieldDefinition _ _).bind fun own written => ?_
  refine yields_pure ⟨named, ?_, ?_, ?_⟩
  · rw [fields]
    exact written
  · rw [inputless]
    simp
  · rw [valueless]
    simp

/-- What a text defines as a type, of whichever kind, is well written. -/
theorem yields_typeDefinition (description : Option String) (kind : TypeKind) :
    Yields (typeDefinition description kind) TypeDefinition.WellWritten := by
  have none : ∀ {α : Type} {holds : α → Prop}, ∀ x ∈ ([] : List α), holds x := fun _ never => nomatch never
  refine Yields.bind keeps_advance fun _ _ => ?_
  refine yields_name.bind fun key named => ?_
  cases kind with
  | scalar =>
      refine Yields.bind keeps_constantDirectives fun directives _ => ?_
      exact yields_pure ⟨named, none, none, none⟩
  | object =>
      exact yields_fields .object (fun _ _ => rfl) (fun _ _ => rfl) (fun _ _ => rfl) description named
  | interface =>
      exact yields_fields .interface (fun _ _ => rfl) (fun _ _ => rfl) (fun _ _ => rfl) description named
  | union =>
      refine Yields.bind keeps_constantDirectives fun directives _ => ?_
      refine Yields.bind (keeps_accept .equals) fun given _ => ?_
      split
      · refine Yields.bind (keeps_separated keeps_name .pipe) fun members _ => ?_
        exact yields_pure ⟨named, none, none, none⟩
      · rw [pure_bind]
        exact yields_pure ⟨named, none, none, none⟩
  | enum =>
      refine Yields.bind keeps_constantDirectives fun directives _ => ?_
      refine (yields_optionalMany yields_enumValueDefinition _ _).bind fun values written => ?_
      exact yields_pure ⟨named, none, none, written⟩
  | input =>
      refine Yields.bind keeps_constantDirectives fun directives _ => ?_
      refine (yields_optionalMany yields_inputDefinition _ _).bind fun inputs written => ?_
      exact yields_pure ⟨named, none, written, none⟩

/-- A place where a directive may stand is one that there is. -/
theorem yields_directiveLocation :
    Yields directiveLocation fun place => directiveLocations.contains place = true := by
  refine Yields.bind keeps_peek fun found _ => ?_
  refine Yields.bind keeps_name fun text _ => ?_
  refine Yields.bind keeps_peek fun after _ => ?_
  dsimp only
  split
  · rename_i place known
    split at known
    · rename_i there
      cases known
      exact yields_pure there
    · cases known
  · exact yields_fail

/-- What a text defines as a directive is well written. -/
theorem yields_directiveDefinition (description : Option String) :
    Yields (directiveDefinition description) DirectiveDefinition.WellWritten := by
  refine Yields.bind keeps_advance fun _ _ => ?_
  refine Yields.bind (keeps_expect .at) fun _ _ => ?_
  refine yields_name.bind fun key named => ?_
  refine yields_argumentDefinitions.bind fun arguments written => ?_
  refine Yields.bind keeps_constantDirectives fun directives _ => ?_
  refine Yields.bind (keeps_accept (.name "repeatable")) fun repeatable _ => ?_
  refine Yields.bind (keeps_expectWord "on") fun _ _ => ?_
  exact (yields_separated yields_directiveLocation .pipe).bind fun locations places =>
    yields_pure ⟨named, written, places⟩

/-- What a text defines as the roots of a schema is well written. -/
theorem yields_schemaDefinition (description : Option String) :
    Yields (schemaDefinition description) Definition.WellWritten := by
  refine Yields.bind keeps_advance fun _ _ => ?_
  refine Yields.bind keeps_constantDirectives fun directives _ => ?_
  refine Yields.bind (keeps_many keeps_rootDefinition _ _) fun roots _ => ?_
  exact yields_pure trivial

/-- A definition without fields is well written. -/
theorem Keeps.wellWritten {p : Parser α} (keeps : Keeps p) {f : α → Definition}
    (plain : ∀ a, (f a).WellWritten) :
    Yields (do return f (← p)) Definition.WellWritten :=
  Yields.bind keeps fun a _ => yields_pure (plain a)

/-- What a text defines as an extension is well written. -/
theorem yields_extension : Yields extension Definition.WellWritten := by
  refine Yields.bind keeps_lookahead fun found _ => ?_
  obtain ⟨position, found⟩ := found
  simp only
  split
  · refine Yields.bind keeps_advance fun _ _ => ?_
    refine Yields.bind keeps_advance fun _ _ => ?_
    refine Yields.bind keeps_constantDirectives fun directives _ => ?_
    refine Yields.bind (keeps_optionalMany keeps_rootDefinition _ _) fun roots _ => ?_
    split
    · exact yields_unexpected
    · exact yields_pure trivial
  · refine Yields.bind keeps_advance fun _ _ => ?_
    refine Yields.bind keeps_advance fun _ _ => ?_
    refine Yields.bind (keeps_expect .at) fun _ _ => ?_
    refine Yields.bind keeps_name fun key _ => ?_
    refine Yields.bind keeps_constantDirectives fun directives _ => ?_
    split
    · exact yields_unexpected
    · exact yields_pure trivial
  · split
    · refine Yields.bind keeps_advance fun _ _ => ?_
      refine (yields_typeDefinition none _).bind fun d written => ?_
      split
      · exact yields_pure written
      · exact yields_unexpected
    · exact yields_fail
  · exact yields_fail

/-- A definition that begins with a word is well written. -/
theorem yields_wordedDefinition (position : Nat) (described : Bool) (wordPosition : Nat)
    (word : String) :
    Yields (wordedDefinition position described wordPosition word) Definition.WellWritten := by
  unfold wordedDefinition
  split
  · refine Yields.bind keeps_description fun description _ => ?_
    exact (yields_typeDefinition description _).bind fun d written => yields_pure written
  · split
    · exact Yields.bind keeps_description fun description _ => yields_schemaDefinition description
    · refine Yields.bind keeps_description fun description _ => ?_
      exact (yields_directiveDefinition description).bind fun d written => yields_pure written
    · exact keeps_operationDefinition.wellWritten fun _ => trivial
    · exact keeps_operationDefinition.wellWritten fun _ => trivial
    · exact keeps_operationDefinition.wellWritten fun _ => trivial
    · exact keeps_fragmentDefinition.wellWritten fun _ => trivial
    · split
      · exact yields_fail
      · split
        · exact yields_extension
        · exact yields_fail

/-- A definition with a description. -/
theorem yields_described (position : Nat) : Yields (do
    let (wordPosition, word) ← lookahead
    match word with
    | some .braceOpen => fail position .describedShorthand
    | some (.name text) => wordedDefinition position true wordPosition text
    | word => fail wordPosition (.unexpected word)) Definition.WellWritten := by
  refine Yields.bind keeps_lookahead fun seen _ => ?_
  obtain ⟨wordPosition, word⟩ := seen
  simp only
  split
  · exact yields_fail
  · exact yields_wordedDefinition _ _ _ _
  · exact yields_fail

/-- Every definition is well written. -/
theorem yields_definition : Yields definition Definition.WellWritten := by
  refine Yields.bind keeps_peek fun found _ => ?_
  obtain ⟨position, found⟩ := found
  simp only
  split
  · exact keeps_operationDefinition.wellWritten fun _ => trivial
  · exact yields_described position
  · exact yields_described position
  · exact yields_wordedDefinition _ _ _ _
  · exact yields_fail

/-- All definitions up to the end of a text are well written. -/
theorem yields_definitionsIn (n : Nat) :
    Yields (definitionsIn n) fun ds => ∀ d ∈ ds, d.WellWritten := by
  induction n with
  | zero => exact yields_unexpected
  | succ n ih =>
      refine Yields.bind keeps_peek fun found _ => ?_
      split
      · exact yields_pure (by simp)
      · refine yields_definition.bind fun d written => ?_
        exact ih.bind fun ds writtens => yields_pure (by simpa using ⟨written, writtens⟩)

/-- A document that is read holds well written definitions only. -/
theorem yields_document : Yields document fun ds => ∀ d ∈ ds, d.WellWritten := by
  refine yields_definition.bind fun d written => ?_
  refine Yields.bind keeps_budget fun n _ => ?_
  exact (yields_definitionsIn n).bind fun ds writtens =>
    yields_pure (by simpa using ⟨written, writtens⟩)

end Parser

/-- What a text defines is well written. -/
theorem Document.wellWritten_of_parse {text : String} {doc : Document}
    (parsed : Document.parse text = .ok doc) : ∀ d ∈ doc, d.WellWritten := by
  unfold Document.parse Parser.run at parsed
  cases read : Parser.document (Tokens.ofChars text.toList) with
  | error e => simp [read] at parsed
  | ok result =>
      obtain ⟨ds, ts⟩ := result
      simp only [read, Except.ok.injEq] at parsed
      rw [← parsed]
      exact (Parser.yields_document _ _ _ (Tokens.spelled_ofChars _) read).2

end QueryTools
