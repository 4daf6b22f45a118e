import QueryTools.Proofs.Language.Blocks
import QueryTools.Proofs.Language.Numerals
import QueryTools.Proofs.Language.Reading
import QueryTools.Proofs.Language.Strings

/-!
# Constants are read as they are written

A constant that a document can hold is written so that reading gives it back (`Literal.parse_text`), on one
line or spread over several.  Where it is spread, what is inside is moved to the right, block text as well;
so that what a text spells is followed through all such moves (`Lexer.Spans`).
-/

namespace QueryTools

open Lexer Text

namespace Text

/-- A text with every line but the first moved to the right. -/
def shifted (k : Nat) (s : String) : String := String.ofList (moved k s.toList)

theorem shifted_append (k : Nat) (a b : String) : shifted k (a ++ b) = shifted k a ++ shifted k b := by
  rw [shifted, String.toList_append, moved_append, String.ofList_append]
  rfl

theorem shifted_of_not_mem (k : Nat) {s : String} (line : '\n' ∉ s.toList) : shifted k s = s := by
  rw [shifted, moved_of_not_mem k line, String.ofList_toList]

theorem shifted_shifted (j k : Nat) (s : String) : shifted j (shifted k s) = shifted (j + k) s := by
  rw [shifted, shifted, String.toList_ofList, moved_moved]
  rfl

/-- Shifting by nothing leaves a text. -/
theorem shifted_zero (s : String) : shifted 0 s = s := by
  have same : ∀ cs : List Char, moved 0 cs = cs := by
    intro cs
    induction cs with
    | nil => rfl
    | cons c rest ih =>
        rw [moved_cons, ih]
        split
        · rename_i newline
          rw [newline]
          rfl
        · rfl
  rw [shifted, same, String.ofList_toList]

/-- Texts and what stands between them are shifted one by one. -/
theorem shifted_intercalate (k : Nat) (separator : String) (xs : List String) :
    shifted k (separator.intercalate xs) = (shifted k separator).intercalate (xs.map (shifted k)) := by
  induction xs with
  | nil => rfl
  | cons x rest ih =>
      cases rest with
      | nil => simp
      | cons y more =>
          have behind := String.intercalate_cons_cons (s := shifted k separator) (t := shifted k x)
            (u := shifted k y) (l := more.map (shifted k))
          rw [String.intercalate_cons_cons, shifted_append, shifted_append, ih]
          exact behind.symm

/-- A text has one piece at least. -/
theorem splitChars_ne_nil (c : Char) (cs : List Char) : splitChars c cs ≠ [] := by
  induction cs with
  | nil => simp [splitChars]
  | cons x rest ih =>
      unfold splitChars
      split
      · simp
      · split <;> simp

/-- Lines that are put together again with more between them than a line feed. -/
theorem intercalate_splitChars (k : Nat) (cs : List Char) :
    ('\n' :: List.replicate k ' ').intercalate (splitChars '\n' cs) = moved k cs := by
  induction cs with
  | nil => simp [splitChars, moved]
  | cons x rest ih =>
      cases pieces : splitChars '\n' rest with
      | nil => exact absurd pieces (splitChars_ne_nil '\n' rest)
      | cons piece more =>
          rw [pieces] at ih
          by_cases newline : x = '\n'
          · rw [splitChars, if_pos newline, pieces, List.intercalate_cons_cons, ih, newline, moved_newline]
            rfl
          · have split : splitChars '\n' (x :: rest) = (x :: piece) :: more := by
              simp only [splitChars, newline, if_false, pieces]
            rw [split, moved_cons_of_ne k newline, ← ih]
            cases more with
            | nil => simp
            | cons m more => simp only [List.intercalate_cons_cons, List.cons_append]

/-- Indenting lines shifts a text by two. -/
theorem indentLines_eq (s : String) : indentLines "  " s = shifted 2 s := by
  have inside := intercalate_splitChars 2 s.toList
  apply String.toList_inj.1
  rw [indentLines, String.toList_intercalate, split, List.map_map, shifted, String.toList_ofList, ← inside]
  have same : (String.toList ∘ String.ofList) = id := funext fun _ => String.toList_ofList
  rw [same, List.map_id]
  rfl

end Text

namespace Lexer

/-! ## Texts that are moved -/

/-- A text that spells tokens where nothing goes on behind it, however far its lines are moved. -/
def Spans (text : String) (ts : List Token) : Prop := ∀ k, Writes (shifted k text) ts

/-- What is written on one line is read wherever it is shifted. -/
theorem Writes.spans {text : String} {ts : List Token} (writes : Writes text ts)
    (line : '\n' ∉ text.toList) : Spans text ts := by
  intro k
  rw [shifted_of_not_mem k line]
  exact writes

/-- No name holds a line feed. -/
theorem newline_not_mem_of_isName {text : String} (named : isName text = true) :
    '\n' ∉ text.toList := by
  unfold isName at named
  split at named
  · cases named
  · rename_i c rest spelled
    rw [spelled]
    intro member
    rw [Bool.and_eq_true, List.all_eq_true] at named
    rcases List.mem_cons.1 member with rfl | later
    · cases named.1
    · have goes := named.2 _ later
      cases goes

theorem spans_name {text : String} (named : isName text = true) : Spans text [.name text] :=
  (writes_name named).spans (newline_not_mem_of_isName named)

/-- The end of a line and the blanks before the next spell nothing. -/
theorem opens_newline (k : Nat) : Opens (shifted k "\n") [] := by
  have blanks : (shifted k "\n").toList = '\n' :: List.replicate k ' ' := by
    rw [shifted, String.toList_ofList]
    exact (moved_newline k []).trans (List.append_nil _)
  have all : (shifted k "\n").toList.all (fun c => isIgnored c || (mark? c).isSome) = true := by
    rw [blanks]
    simp [isIgnored]
  have unmarked : (shifted k "\n").toList.filterMap mark? = [] := by
    rw [blanks, List.filterMap_eq_nil_iff]
    intro c member
    rcases List.mem_cons.1 member with rfl | blank
    · rfl
    · rw [List.eq_of_mem_replicate blank]
      rfl
  have opens := opens_punctuation all
  rwa [unmarked] at opens

/-- Shifting leaves a line feed there. -/
theorem newline_ne (k : Nat) : shifted k "\n" ≠ "" := by
  intro same
  have none := congrArg String.toList same
  rw [shifted, String.toList_ofList] at none
  rw [show moved k "\n".toList = _ from moved_newline k []] at none
  cases none

/-- A line feed ends a name or a number. -/
theorem breaksOff_newline (k : Nat) : breaksOff (shifted k "\n").toList = true := by
  rw [shifted, String.toList_ofList, show moved k "\n".toList = _ from moved_newline k []]
  rfl

section Entries

variable {α : Type} {entry : α → String} {tokens : α → List Token} {xs : List α}

/-- Entries with commas between them, on one line. -/
theorem spans_commas (each : ∀ x ∈ xs, Spans (entry x) (tokens x)) :
    Spans (", ".intercalate (xs.map entry)) (xs.flatMap tokens) := by
  intro k
  have comma : shifted k ", " = ", " := shifted_of_not_mem k (by decide)
  rw [shifted_intercalate, comma, List.map_map]
  exact writes_intercalate (opens_punctuation (by decide)) (by decide) (by decide) fun x member =>
    each x member k

/-- Entries on a line of their own each. -/
theorem spans_lines (each : ∀ x ∈ xs, Spans (entry x) (tokens x)) :
    Spans ("\n".intercalate (xs.map entry)) (xs.flatMap tokens) := by
  intro k
  rw [shifted_intercalate, List.map_map]
  exact writes_intercalate (opens_newline k) (newline_ne k) (breaksOff_newline k) fun x member =>
    each x member k

variable {opening closing : String} {first last : Token}

/-- Entries on one line between marks. -/
theorem spans_enclosed (starts : Opens opening [first]) (line : '\n' ∉ opening.toList)
    (ends : Opens closing [last]) (line' : '\n' ∉ closing.toList)
    (apart : breaksOff closing.toList = true) (each : ∀ x ∈ xs, Spans (entry x) (tokens x)) :
    Spans (opening ++ ", ".intercalate (xs.map entry) ++ closing)
      (first :: xs.flatMap tokens ++ [last]) := by
  intro k
  rw [shifted_append, shifted_append, shifted_of_not_mem k line, shifted_of_not_mem k line']
  exact (starts.append_writes (spans_commas each k)).append ends.writes apart

/-- Entries spread over lines between marks. -/
theorem spans_spread (starts : Opens opening [first]) (line : '\n' ∉ opening.toList)
    (ends : Opens closing [last]) (line' : '\n' ∉ closing.toList)
    (each : ∀ x ∈ xs, Spans (entry x) (tokens x)) :
    Spans (Literal.spread opening closing (xs.map entry)) (first :: xs.flatMap tokens ++ [last]) := by
  intro k
  have body := spans_lines each
  have blanks : Opens "  " [] := opens_punctuation (by decide)
  have inner : ∀ text, Spans text (xs.flatMap tokens) →
      Writes (shifted k (if text = "" then "" else "  " ++ indentLines "  " text)) (xs.flatMap tokens) := by
    intro text spans
    split
    · rename_i empty
      exact empty ▸ spans k
    · rw [indentLines_eq, shifted_append, shifted_shifted, shifted_of_not_mem k (by decide : '\n' ∉ "  ".toList)]
      exact blanks.append_writes (spans (k + 2))
  have behind : Writes (shifted k "\n" ++ closing) [last] := (opens_newline k).append_writes ends.writes
  unfold Literal.spread
  rw [shifted_append, shifted_append, shifted_append, shifted_append, shifted_of_not_mem k line,
    shifted_of_not_mem k line', String.append_assoc]
  have front : Opens (opening ++ shifted k "\n") [first] :=
    starts.writes.append_opens (opens_newline k) (newline_ne k) (breaksOff_newline k)
  have whole := (front.append_writes (inner _ body)).append behind
    (breaksOff_append_of_ne _ (newline_ne k) (breaksOff_newline k))
  exact whole

end Entries

end Lexer

/-! ## Constants -/

namespace Literal

/-- A constant that a document can hold, with at most so many levels of lists and objects. -/
inductive Written : Nat → Literal → Prop where
  | int {n : Nat} {text : String} (numeral : Numeral text.toList (.int text)) : Written n (.int text)
  | float {n : Nat} {text : String} (numeral : Numeral text.toList (.float text)) : Written n (.float text)
  | string (n : Nat) (text : String) : Written n (.string text false)
  | block {n : Nat} {text : String} {ls : List (List Char)} (flush : Flush ls)
      (same : text.toList = joined ls) : Written n (.string text true)
  | boolean (n : Nat) (value : Bool) : Written n (.boolean value)
  | null (n : Nat) : Written n .null
  | enum {n : Nat} {name : String} (named : isName name = true)
      (other : Parser.literalOfWord name = .enum name) : Written n (.enum name)
  | list {n : Nat} {items : List Literal} (each : ∀ v ∈ items, Written n v) : Written (n + 1) (.list items)
  | object {n : Nat} {fields : List (String × Literal)} (named : ∀ p ∈ fields, isName p.1 = true)
      (each : ∀ p ∈ fields, Written n p.2) : Written (n + 1) (.object fields)

mutual

/-- The tokens of a constant. -/
def tokens : Literal → List Token
  | .variable name => [.dollar, .name name]
  | .int text => [.int text]
  | .float text => [.float text]
  | .string text block => [if block then .blockString text else .string text]
  | .boolean value => [.name (if value then "true" else "false")]
  | .null => [.name "null"]
  | .enum name => [.name name]
  | .list items => .bracketOpen :: itemTokens items ++ [.bracketClose]
  | .object fields => .braceOpen :: fieldTokens fields ++ [.braceClose]

/-- The tokens of the items of a list. -/
def itemTokens : List Literal → List Token
  | [] => []
  | v :: rest => v.tokens ++ itemTokens rest

/-- The tokens of the fields of an object. -/
def fieldTokens : List (String × Literal) → List Token
  | [] => []
  | (k, v) :: rest => .name k :: .colon :: v.tokens ++ fieldTokens rest

end

/-- The tokens of a field of an object. -/
def memberTokens (p : String × Literal) : List Token := .name p.1 :: .colon :: p.2.tokens

/-- A field of an object as documents write it. -/
def memberText (p : String × Literal) : String := p.1 ++ ": " ++ p.2.text

/-- The tokens of items are theirs one after the other. -/
theorem itemTokens_eq (items : List Literal) : itemTokens items = items.flatMap tokens := by
  induction items with
  | nil => rfl
  | cons v rest ih => rw [itemTokens, ih, List.flatMap_cons]

/-- The tokens of fields are theirs one after the other. -/
theorem fieldTokens_eq (fields : List (String × Literal)) :
    fieldTokens fields = fields.flatMap memberTokens := by
  induction fields with
  | nil => rfl
  | cons p rest ih =>
      rw [fieldTokens, ih, List.flatMap_cons]
      rfl

/-- The texts of items are theirs one by one. -/
theorem itemTexts_eq (items : List Literal) : itemTexts items = items.map text := by
  induction items with
  | nil => rfl
  | cons v rest ih => rw [itemTexts, ih, List.map_cons]

/-- The texts of fields are theirs one by one. -/
theorem fieldTexts_eq (fields : List (String × Literal)) : fieldTexts fields = fields.map memberText := by
  induction fields with
  | nil => rfl
  | cons p rest ih =>
      rw [fieldTexts, ih, List.map_cons]
      rfl

/-- A number is read as the token it spells. -/
theorem spans_numeral {text : String} {t : Token} (numeral : Numeral text.toList t) : Spans text [t] := by
  obtain ⟨c, front, spelled, lexeme⟩ := numeral.exists_lexeme
  exact (lexeme.writes spelled).spans numeral.newline_not_mem

/-- A field of an object is read as its name and its value. -/
theorem spans_member {p : String × Literal} (named : isName p.1 = true)
    (spans : Spans p.2.text p.2.tokens) : Spans (memberText p) (memberTokens p) := by
  intro k
  have colon : Opens ": " [.colon] := opens_punctuation (by decide)
  rw [memberText, shifted_append, shifted_append, shifted_of_not_mem k (newline_not_mem_of_isName named),
    shifted_of_not_mem k (by decide : '\n' ∉ ": ".toList)]
  exact ((writes_name named).append_opens colon (by decide) (by decide)).append_writes (spans k)

/-- What is written for a constant spells its tokens. -/
theorem Written.spans {n : Nat} {l : Literal} (written : Written n l) : Spans l.text l.tokens := by
  induction written with
  | int numeral => exact spans_numeral numeral
  | float numeral => exact spans_numeral numeral
  | string n text =>
      have spelled : (documentString text).toList = '"' :: (text.toList.flatMap documentChar ++ ['"']) := by
        rw [documentString, String.toList_ofList]
        rfl
      exact ((lexeme_documentString text).writes spelled).spans (newline_not_mem_documentString text)
  | block flush same =>
      intro k
      obtain ⟨front, spelled, lexeme⟩ := exists_lexeme_of_flush flush same k
      exact lexeme.writes (by rw [shifted, String.toList_ofList]; exact spelled)
  | boolean n value => cases value <;> exact spans_name (by decide)
  | null n => exact spans_name (by decide)
  | enum named other => exact spans_name named
  | @list n items each ih =>
      have opening : Opens "[" [.bracketOpen] := opens_punctuation (by decide)
      have closing : Opens "]" [.bracketClose] := opens_punctuation (by decide)
      rw [text, tokens, listText, itemTexts_eq, itemTokens_eq]
      split
      · exact spans_spread opening (by decide) closing (by decide) ih
      · exact spans_enclosed opening (by decide) closing (by decide) (by decide) ih
  | @object n fields named each ih =>
      have opening : Opens "\x7b" [.braceOpen] := opens_punctuation (by decide)
      have closing : Opens "\x7d" [.braceClose] := opens_punctuation (by decide)
      have opening' : Opens "\x7b " [.braceOpen] := opens_punctuation (by decide)
      have closing' : Opens " \x7d" [.braceClose] := opens_punctuation (by decide)
      have members : ∀ p ∈ fields, Spans (memberText p) (memberTokens p) := fun p member =>
        spans_member (named p member) (ih p member)
      rw [text, tokens, objectText, fieldTexts_eq, fieldTokens_eq]
      split
      · exact spans_spread opening (by decide) closing (by decide) members
      · exact spans_enclosed opening' (by decide) closing' (by decide) (by decide) members

/-! ## Reading constants -/

open QueryTools.Parser

/-- A literal does not begin with a closing bracket. -/
theorem exists_cons_tokens (l : Literal) :
    ∃ t more, l.tokens = t :: more ∧ t ≠ .bracketClose := by
  cases l with
  | string text block => cases block <;> exact ⟨_, _, rfl, by simp⟩
  | _ => exact ⟨_, _, rfl, by simp⟩

/-- A constant of one token. -/
theorem reads_single {n : Nat} {t : Token} {l : Literal}
    (step : ∀ position ts, literalIn true n (.cons position t ts) = .ok (l, ts)) (rest : List Token) :
    Reads (literalIn true n) [t] rest fun read => read = l := by
  intro ts left
  obtain ⟨position, ts', rfl, left'⟩ := exists_cons_of_toList? left
  exact ⟨l, ts', step position ts', left', rfl⟩

/-- The tokens of a constant are read as it. -/
theorem Written.reads {n : Nat} {l : Literal} (written : Written n l) (rest : List Token) :
    Reads (literalIn true n) l.tokens rest fun read => read = l := by
  induction written generalizing rest with
  | int numeral => exact reads_single (fun _ _ => by rw [literalIn.eq_def]; rfl) rest
  | float numeral => exact reads_single (fun _ _ => by rw [literalIn.eq_def]; rfl) rest
  | string n text => exact reads_single (fun _ _ => by rw [literalIn.eq_def]; rfl) rest
  | block flush same => exact reads_single (fun _ _ => by rw [literalIn.eq_def]; rfl) rest
  | boolean n value =>
      cases value <;> exact reads_single (fun _ _ => by rw [literalIn.eq_def]; rfl) rest
  | null n => exact reads_single (fun _ _ => by rw [literalIn.eq_def]; rfl) rest
  | enum named other =>
      refine reads_single (fun position ts => ?_) rest
      rw [← other, literalIn.eq_def]
      rfl
  | @list n items each ih =>
      have entries : Entries (literalIn true n) .bracketClose tokens (fun _ => True) id id (fun _ => True)
          items := by
        refine ⟨fun v _ => exists_cons_tokens v, fun _ => trivial, fun _ _ _ => trivial, ?_, ?_⟩
        · exact fun v member _ rest _ => ih v member rest
        · exact fun v _ never => absurd trivial never
      rw [tokens, itemTokens_eq, literalIn.eq_def]
      refine (reads_peek _).look fun found same => ?_
      obtain ⟨position, seen⟩ := found
      have here : seen = some .bracketOpen := same
      subst here
      refine (entries.reads_any (fun _ _ => trivial) .bracketOpen rest).bind_last fun read made => ?_
      refine reads_pure ?_
      rw [List.map_id, List.map_id] at made
      rw [made]
  | @object n fields named each ih =>
      have member : ∀ p ∈ fields, ∀ rest, Reads (do
          let key ← name
          expect .colon
          return (key, ← literalIn true n)) (memberTokens p) rest fun read => read = p := by
        intro p own rest
        show Reads _ ([.name p.1] ++ ([.colon] ++ p.2.tokens)) rest _
        refine (reads_name p.1 _).bind fun key same => ?_
        refine (reads_expect .colon _).bind fun _ _ => ?_
        refine (ih p own rest).bind_last fun v read => reads_pure ?_
        rw [same, read]
      have entries : Entries (do
          let key ← name
          expect .colon
          return (key, ← literalIn true n)) .braceClose memberTokens (fun _ => True) id id (fun _ => True)
          fields := by
        refine ⟨fun p _ => ⟨_, _, rfl, by simp⟩, fun _ => trivial, fun _ _ _ => trivial, ?_, ?_⟩
        · exact fun p own _ rest _ => member p own rest
        · exact fun p _ never => absurd trivial never
      rw [tokens, fieldTokens_eq, literalIn.eq_def]
      refine (reads_peek _).look fun found same => ?_
      obtain ⟨position, seen⟩ := found
      have here : seen = some .braceOpen := same
      subst here
      refine (entries.reads_any (fun _ _ => trivial) .braceOpen rest).bind_last fun read made => ?_
      refine reads_pure ?_
      rw [List.map_id, List.map_id] at made
      rw [made]

/-- **What is written for a constant is read as it.** -/
theorem parse_text {l : Literal} (written : Written nestingLimit l) : Literal.parse l.text = .ok l := by
  have writes := written.spans 0
  rw [shifted_zero] at writes
  have tokens := writes.toList?_ofChars
  rw [← List.append_nil l.tokens] at tokens
  have lone : Reads loneLiteral l.tokens [] fun read => read = l := by
    refine (written.reads []).bind_last fun read same => ?_
    refine (reads_peek _).look fun found ended => ?_
    obtain ⟨position, seen⟩ := found
    have here : seen = none := ended
    subst here
    exact reads_pure same
  obtain ⟨read, left, taken, -, rfl⟩ := lone _ tokens
  rw [Literal.parse, Parser.run, taken]

end Literal

end QueryTools
