import QueryTools.Tool.Document
import QueryTools.Proofs.Language.Spelling

/-!
# Operations on a line as tokens

The tokens that stand in the document made for an operation, as functions of the operation alone, and
that the document's text is read as these tokens (`Operation.toList?_document`).
-/

namespace QueryTools

open Lexer

theorem Lexer.opens_blank : Opens " " [] := opens_punctuation (by decide)

theorem Lexer.opens_comma : Opens ", " [] := opens_punctuation (by decide)

theorem Lexer.opens_colon : Opens ": " [.colon] := opens_punctuation (by decide)

theorem Lexer.opens_brace : Opens " \x7b " [.braceOpen] := opens_punctuation (by decide)

theorem Lexer.opens_closing_brace : Opens " \x7d" [.braceClose] := opens_punctuation (by decide)

namespace Selection

/-- An entry of a selection set that is a field by its name alone, and so all that is selected of
it. -/
inductive Plain : Selection → Prop where
  | leaf {name : String} (named : isName name = true) : Plain (.field none name [] [] none)
  | node {name : String} {entries : List Selection} (named : isName name = true)
      (each : ∀ x ∈ entries, Plain x) : Plain (.field none name [] [] (some entries))

mutual

/-- The tokens of a plain entry. -/
def tokens : Selection → List Token
  | .field _ name _ _ selections =>
    .name name :: (match selections with
      | some entries => .braceOpen :: tokensOf entries ++ [.braceClose]
      | none => [])
  | .spread _ _ => []
  | .inline _ _ _ => []

/-- The tokens of plain entries. -/
def tokensOf : List Selection → List Token
  | [] => []
  | x :: rest => tokens x ++ tokensOf rest

end

/-- The tokens of selections are theirs one after the other. -/
theorem tokensOf_eq_flatMap (entries : List Selection) : tokensOf entries = entries.flatMap tokens := by
  induction entries with
  | nil => simp [tokensOf]
  | cons x rest ih => rw [tokensOf, ih, List.flatMap_cons]

/-- Their lines are theirs one by one. -/
theorem lines_eq_map (entries : List Selection) : lines entries = entries.map line := by
  induction entries with
  | nil => simp [lines]
  | cons x rest ih => rw [lines, ih, List.map_cons]

/-- The text of entries that are written as tokens, between braces. -/
theorem writes_braced {entries : List Selection} (each : ∀ x ∈ entries, Writes x.line x.tokens) :
    Writes (" \x7b " ++ " ".intercalate (lines entries) ++ " \x7d")
      (.braceOpen :: tokensOf entries ++ [.braceClose]) := by
  rw [lines_eq_map, tokensOf_eq_flatMap]
  have inner := writes_intercalate opens_blank (by decide) (by decide) each
  exact (opens_brace.append_writes inner).append opens_closing_brace.writes (by decide)

/-- The line of a plain selection is read as its tokens. -/
theorem Plain.writes_line {x : Selection} (plain : Plain x) : Writes x.line x.tokens := by
  induction plain with
  | leaf named => simpa [line, tokens] using writes_name named
  | @node name entries named each ih =>
      have braced := (writes_name named).append (writes_braced ih)
        (by rw [String.append_assoc]; exact breaksOff_append_of_ne _ (by decide) (by decide))
      simpa [line, tokens] using braced

end Selection

/-- The tokens of entries of a list in parentheses; nothing where there are none. -/
def Token.listed {α : Type} (tokens : α → List Token) (xs : List α) : List Token :=
  if xs.isEmpty then [] else .parenOpen :: xs.flatMap tokens ++ [.parenClose]

/-- A list in parentheses, as the text of each entry is written. -/
theorem Lexer.writes_listed {α : Type} {text : α → String} {tokens : α → List Token} {xs : List α}
    (each : ∀ x ∈ xs, Writes (text x) (tokens x)) :
    let written := if (xs.map text).isEmpty then "" else "(" ++ ", ".intercalate (xs.map text) ++ ")"
    Writes written (Token.listed tokens xs) ∧ breaksOff written.toList = true := by
  cases xs with
  | nil => exact ⟨fun _ _ _ rest => rest, rfl⟩
  | cons x rest =>
      have opening : Opens "(" [.parenOpen] := opens_punctuation (by decide)
      have closing : Opens ")" [.parenClose] := opens_punctuation (by decide)
      have inner := writes_intercalate opens_comma (by decide) (by decide) each
      refine ⟨(opening.append_writes inner).append closing.writes (by decide), ?_⟩
      simp only [List.map_cons, List.isEmpty_cons, Bool.false_eq_true, if_false, String.append_assoc]
      exact breaksOff_append_of_ne _ (by decide) (by decide)

namespace Operation

/-- Whether an operation can be written: it and its parameters have names, and their types can be
written. -/
structure Spellable (o : Operation) : Prop where
  named : isName o.name = true
  parameters : ∀ p ∈ o.parameters, isName p.name = true ∧ p.type.wellFormed = true

/-- The tokens of the declaration of a parameter's variable. -/
def declarationTokens (p : Parameter) : List Token :=
  [.dollar, .name p.name, .colon] ++ (variableType p).tokens

/-- The tokens that pass a parameter's variable on. -/
def argumentTokens (p : Parameter) : List Token :=
  [.name p.name, .colon, .dollar, .name p.name]

/-- The type of a variable is well formed where the parameter's is. -/
theorem wellFormed_variableType {p : Parameter} (formed : p.type.wellFormed = true) :
    (variableType p).wellFormed = true := by
  unfold variableType
  split
  · cases type : p.type with
    | nonNull inner =>
        rw [type, TypeRef.wellFormed, Bool.and_eq_true] at formed
        exact formed.2
    | _ => rwa [type] at formed
  · exact formed

/-- The declaration of a variable is read as its tokens. -/
theorem writes_declaration {p : Parameter} (named : isName p.name = true)
    (formed : p.type.wellFormed = true) :
    Writes ("$" ++ p.name ++ ": " ++ (variableType p).text) (declarationTokens p) := by
  have dollar : Opens "$" [.dollar] := opens_punctuation (by decide)
  have head := (dollar.append_writes (writes_name named)).append_opens opens_colon
    (by decide) (by decide)
  exact head.append_writes (TypeRef.writes_text (wellFormed_variableType formed))

/-- An argument that passes a variable is read as its tokens. -/
theorem writes_argument {p : Parameter} (named : isName p.name = true) :
    Writes (p.name ++ ": " ++ (Literal.variable p.name).text) (argumentTokens p) := by
  have dollar : Opens "$" [.dollar] := opens_punctuation (by decide)
  have key := (writes_name named).append_opens opens_colon (by decide) (by decide)
  have value := dollar.append_writes (writes_name named)
  simpa [Literal.text, argumentTokens] using key.append_writes value

/-- The tokens of what is selected of a field. -/
def selectionTokens : Option (List Selection) → List Token
  | some entries => .braceOpen :: Selection.tokensOf entries ++ [.braceClose]
  | none => []

/-- The field of an operation is read as its tokens, with its arguments and selections. -/
theorem writes_root {o : Operation} (spellable : o.Spellable)
    {selections : Option (List Selection)}
    (plain : ∀ entries, selections = some entries → ∀ x ∈ entries, x.Plain) :
    Writes (Selection.line (.field none o.name (o.parameters.map argument) [] selections))
      (.name o.name :: Token.listed argumentTokens o.parameters ++ selectionTokens selections) := by
  obtain ⟨passed, apart⟩ := writes_listed fun p member =>
    writes_argument (spellable.parameters p member).1
  have head := (writes_name spellable.named).append passed apart
  have same : ((o.parameters.map argument).map fun a => a.name ++ ": " ++ a.value.text) =
      o.parameters.map fun p => p.name ++ ": " ++ (Literal.variable p.name).text := by
    rw [List.map_map]
    rfl
  cases selections with
  | none =>
      simp only [Selection.line, same]
      exact head.append (fun _ _ _ rest => rest) rfl
  | some entries =>
      simp only [Selection.line, same]
      have braced := Selection.writes_braced fun x member => (plain entries rfl x member).writes_line
      refine head.append braced ?_
      rw [String.append_assoc]
      exact breaksOff_append_of_ne _ (by decide) (by decide)

/-- The tokens of the document that runs an operation with a selection. -/
def tokens (o : Operation) (selections : Option (List Selection)) : List Token :=
  [.name o.kind.word, .name o.name] ++ Token.listed declarationTokens o.parameters ++ [.braceOpen]
    ++ (.name o.name :: Token.listed argumentTokens o.parameters ++ selectionTokens selections)
    ++ [.braceClose]

/-- The document of an operation is read as its tokens. -/
theorem writes_document {o : Operation} (spellable : o.Spellable) {s : Schema} {depth : Nat}
    (plain : ∀ entries, o.output.bind (selectOutput s depth) = some entries →
      ∀ x ∈ entries, x.Plain) :
    Writes (o.document s depth) (o.tokens (o.output.bind (selectOutput s depth))) := by
  have word : isName o.kind.word = true := by cases o.kind <;> decide
  have head := ((writes_name word).append_opens opens_blank (by decide) (by decide)).append_writes
    (writes_name spellable.named)
  obtain ⟨declared, apart⟩ := writes_listed fun p member =>
    writes_declaration (spellable.parameters p member).1 (spellable.parameters p member).2
  have opened := (head.append declared apart).append_opens opens_brace (by decide) (by decide)
  have whole := (opened.append_writes (writes_root spellable plain)).append
    opens_closing_brace.writes (by decide)
  have same : ((o.parameters.map declaration).map fun v => "$" ++ v.name ++ ": " ++ v.type.text) =
      o.parameters.map fun p => "$" ++ p.name ++ ": " ++ (variableType p).text := by
    rw [List.map_map]
    rfl
  unfold document definition OperationDefinition.line
  simp only [same, Selection.lines, String.intercalate_singleton, Option.getD_some]
  exact whole

/-- The document of an operation is read as the operation's tokens. -/
theorem toList?_document {o : Operation} (spellable : o.Spellable) {s : Schema} {depth : Nat}
    (plain : ∀ entries, o.output.bind (selectOutput s depth) = some entries →
      ∀ x ∈ entries, x.Plain) :
    (Tokens.ofChars (o.document s depth).toList).toList? =
      some (o.tokens (o.output.bind (selectOutput s depth))) :=
  (writes_document spellable plain).toList?_ofChars

end Operation

end QueryTools
