import QueryTools.Language.Lexer
import QueryTools.Language.TypeRef
import QueryTools.Proofs.Outcome

/-!
# What is written and the tokens it is read as

Characters that spell tokens: marks, other lexemes such as names, and blanks between them, where
nothing that could go on a lexeme stands right behind one.  `Spells` is that relation,
`Spells.toList?_scan` says that the walk of the lexer finds just those tokens, and `Opens` and `Writes`
let texts be put together.

Main statement: a text that writes tokens is read as these tokens (`Lexer.Writes.toList?_ofChars`).
-/

namespace QueryTools.Lexer

/-- Whether a text is a name. -/
def isName (text : String) : Bool :=
  match text.toList with
  | [] => false
  | c :: rest => isNameStart c && rest.all isNameContinue

/-- Whether what stands before a text ends there: a name, a number or a string. -/
def breaksOff : List Char → Bool
  | [] => true
  | c :: _ => !isNameContinue c && c != '.' && c != '"'

/-- Characters that are read as one token where they end. -/
structure Lexeme (c : Char) (front : List Char) (t : Token) : Prop where
  visible : isIgnored c = false
  code : c ≠ '#'
  reads : ∀ position cs, breaksOff cs = true →
    readToken position c (front ++ cs) = .ok (t, front.length + 1)

/-- Characters that spell tokens. -/
inductive Spells : List Char → List Token → Prop where
  | nil : Spells [] []
  | blank {c : Char} {cs : List Char} {ts : List Token} (ignored : isIgnored c = true)
      (rest : Spells cs ts) : Spells (c :: cs) ts
  | mark {c : Char} {t : Token} {cs : List Char} {ts : List Token} (marks : mark? c = some t)
      (rest : Spells cs ts) : Spells (c :: cs) (t :: ts)
  | lexeme {c : Char} {front : List Char} {t : Token} {cs : List Char} {ts : List Token}
      (lexeme : Lexeme c front t) (ends : breaksOff cs = true) (rest : Spells cs ts) :
      Spells (c :: front ++ cs) (t :: ts)

/-! ## Kinds of characters -/

/-- What a name begins with is not ignored. -/
theorem isIgnored_of_isNameStart {c : Char} (start : isNameStart c = true) : isIgnored c = false := by
  cases ignored : isIgnored c with
  | false => rfl
  | true =>
      simp only [isIgnored, Bool.or_eq_true, beq_iff_eq] at ignored
      rcases ignored with ((((rfl | rfl) | rfl) | rfl) | rfl) | rfl <;> revert start <;> decide

theorem mark?_of_isNameStart {c : Char} (start : isNameStart c = true) : mark? c = none := by
  unfold mark?
  split <;> first | rfl | (revert start; decide)

/-- What a name begins with begins no comment. -/
theorem ne_hash_of_isNameStart {c : Char} (start : isNameStart c = true) : c ≠ '#' := by
  rintro rfl
  revert start
  decide

/-- A mark is not ignored and begins no comment. -/
theorem isIgnored_of_mark? {c : Char} {t : Token} (marks : mark? c = some t) :
    isIgnored c = false ∧ c ≠ '#' := by
  unfold mark? at marks
  split at marks <;> first | decide | cases marks

/-! ## Walking over what is spelled -/

/-- Characters that belong to the token before are passed over. -/
theorem scan_inside (position : Nat) (front cs : List Char) (filled : front ≠ []) :
    scan (.inside front.length) position (front ++ cs) =
      scan .ready (position + front.length) cs := by
  induction front generalizing position with
  | nil => exact absurd rfl filled
  | cons c rest ih =>
      cases rest with
      | nil => simp [scan]
      | cons d more =>
          have passed := ih (position + 1) (by simp)
          simp only [List.cons_append, List.length_cons] at passed ⊢
          rw [scan]
          simp only [Nat.succ_ne_zero, if_false]
          rw [passed]
          congr 1
          omega

/-- A lexeme is read whole where it ends. -/
theorem Lexeme.scan_append {c : Char} {front : List Char} {t : Token} (lexeme : Lexeme c front t)
    {cs : List Char} (ends : breaksOff cs = true) (position : Nat) :
    scan .ready position (c :: front ++ cs) =
      .cons position t (scan .ready (position + (front.length + 1)) cs) := by
  have token := lexeme.reads position cs ends
  simp only [List.cons_append, scan, lexeme.visible, token, lexeme.code, Bool.false_eq_true, if_false]
  cases front with
  | nil => simp
  | cons d more =>
      have passed := scan_inside (position + 1) (d :: more) cs (by simp)
      simp only [List.length_cons, Nat.add_sub_cancel] at passed ⊢
      rw [if_neg (by omega), passed]
      congr 2
      omega

/-- A name is a lexeme. -/
theorem exists_lexeme_of_isName {text : String} (named : isName text = true) :
    ∃ c front, text.toList = c :: front ∧ Lexeme c front (.name text) := by
  unfold isName at named
  cases spelled : text.toList with
  | nil => simp [spelled] at named
  | cons c front =>
      simp only [spelled, Bool.and_eq_true] at named
      obtain ⟨start, goes⟩ := named
      refine ⟨c, front, rfl, isIgnored_of_isNameStart start, ne_hash_of_isNameStart start, ?_⟩
      intro position cs ends
      have stops : cs.takeWhile isNameContinue = [] := by
        cases cs with
        | nil => rfl
        | cons d more =>
            simp only [breaksOff, Bool.and_eq_true, Bool.not_eq_true'] at ends
            simp [ends.1.1]
      have whole : (front ++ cs).takeWhile isNameContinue = front := by
        rw [List.takeWhile_append_of_pos (List.all_eq_true.1 goes), stops, List.append_nil]
      have same : String.ofList (c :: front) = text := by rw [← spelled, String.ofList_toList]
      simp [readToken, mark?_of_isNameStart start, start, whole, same]

/-- What is spelled is what the walk finds. -/
theorem Spells.toList?_scan {cs : List Char} {ts : List Token} (spelled : Spells cs ts)
    (position : Nat) : (scan .ready position cs).toList? = some ts := by
  induction spelled generalizing position with
  | nil => rfl
  | blank ignored rest ih => simpa [scan, ignored] using ih (position + 1)
  | @mark c t cs ts marks rest ih =>
      obtain ⟨visible, code⟩ := isIgnored_of_mark? marks
      have token : readToken position c cs = .ok (t, 1) := by simp [readToken, marks]
      simp [scan, visible, code, token, Tokens.toList?, ih]
  | lexeme lexeme ends rest ih =>
      rw [lexeme.scan_append ends, Tokens.toList?, ih]
      rfl

/-! ## Putting texts together -/

/-- A text that spells tokens, whatever follows. -/
def Opens (text : String) (ts : List Token) : Prop :=
  ∀ cs us, Spells cs us → Spells (text.toList ++ cs) (ts ++ us)

/-- A text that spells tokens where nothing goes on behind it. -/
def Writes (text : String) (ts : List Token) : Prop :=
  ∀ cs us, breaksOff cs = true → Spells cs us → Spells (text.toList ++ cs) (ts ++ us)

theorem Opens.writes {text : String} {ts : List Token} (opens : Opens text ts) : Writes text ts :=
  fun cs us _ rest => opens cs us rest

/-- Marks and blanks spell the marks. -/
theorem opens_punctuation {text : String}
    (all : text.toList.all (fun c => isIgnored c || (mark? c).isSome) = true) :
    Opens text (text.toList.filterMap mark?) := by
  unfold Opens
  generalize text.toList = front at all
  induction front with
  | nil => exact fun cs us rest => rest
  | cons c more ih =>
      intro cs us rest
      simp only [List.all_cons, Bool.and_eq_true, Bool.or_eq_true] at all
      have later := ih all.2 cs us rest
      rw [List.cons_append, List.filterMap_cons]
      cases marks : mark? c with
      | none =>
          have ignored : isIgnored c = true := by simpa [marks] using all.1
          exact .blank ignored later
      | some t => exact .mark marks later

/-- A lexeme at the end of a text is read as its token. -/
theorem Lexeme.writes {c : Char} {front : List Char} {t : Token} (lexeme : Lexeme c front t)
    {text : String} (spelled : text.toList = c :: front) : Writes text [t] := by
  intro cs us ends rest
  rw [spelled]
  exact .lexeme lexeme ends rest

theorem writes_name {text : String} (named : isName text = true) : Writes text [.name text] := by
  obtain ⟨c, front, spelled, lexeme⟩ := exists_lexeme_of_isName named
  exact lexeme.writes spelled

/-- Texts may be read one behind the other, if the first is read wherever it stands. -/
theorem Opens.append_writes {a b : String} {ts us : List Token} (first : Opens a ts)
    (second : Writes b us) : Writes (a ++ b) (ts ++ us) := by
  intro cs vs ends rest
  rw [String.toList_append, List.append_assoc, List.append_assoc]
  exact first _ _ (second cs vs ends rest)

/-- A lexeme ends where what is put behind it begins with something else. -/
theorem breaksOff_append {front cs : List Char} (apart : breaksOff front = true)
    (ends : front = [] → breaksOff cs = true) : breaksOff (front ++ cs) = true := by
  cases front with
  | nil => exact ends rfl
  | cons c more => exact apart

/-- Where a text that is not empty ends a token, it does so whatever follows. -/
theorem breaksOff_append_of_ne {a : String} (b : String) (filled : a ≠ "")
    (apart : breaksOff a.toList = true) : breaksOff (a ++ b).toList = true := by
  rw [String.toList_append]
  exact breaksOff_append apart fun empty => absurd (String.toList_eq_nil_iff.1 empty) filled

/-- Texts may be read one behind the other, if the second ends a token. -/
theorem Writes.append {a b : String} {ts us : List Token} (first : Writes a ts)
    (second : Writes b us) (apart : breaksOff b.toList = true) : Writes (a ++ b) (ts ++ us) := by
  intro cs vs ends rest
  rw [String.toList_append, List.append_assoc, List.append_assoc]
  exact first _ _ (breaksOff_append apart fun _ => ends) (second cs vs ends rest)

/-- They are read wherever they stand if the second is. -/
theorem Writes.append_opens {a b : String} {ts us : List Token} (first : Writes a ts)
    (second : Opens b us) (filled : b ≠ "") (apart : breaksOff b.toList = true) :
    Opens (a ++ b) (ts ++ us) := by
  intro cs vs rest
  rw [String.toList_append, List.append_assoc, List.append_assoc]
  refine first _ _ (breaksOff_append apart fun empty => ?_) (second cs vs rest)
  exact absurd (String.toList_eq_nil_iff.1 empty) filled

/-- Texts with blanks between them spell the tokens of each. -/
theorem writes_intercalate {α : Type} {separator : String} (opens : Opens separator [])
    (filled : separator ≠ "") (apart : breaksOff separator.toList = true) {text : α → String}
    {tokens : α → List Token} {xs : List α} (each : ∀ x ∈ xs, Writes (text x) (tokens x)) :
    Writes (separator.intercalate (xs.map text)) (xs.flatMap tokens) := by
  induction xs with
  | nil => exact fun cs us _ rest => rest
  | cons x rest ih =>
      have first := each x List.mem_cons_self
      have later := ih fun y member => each y (List.mem_cons_of_mem x member)
      cases rest with
      | nil => simpa using first
      | cons y more =>
          rw [List.map_cons, List.map_cons, String.intercalate_cons_cons, String.append_assoc,
            List.flatMap_cons]
          exact first.append (opens.append_writes later) (breaksOff_append_of_ne _ filled apart)

/-- A text that writes tokens is read as these tokens. -/
theorem Writes.toList?_ofChars {text : String} {ts : List Token} (writes : Writes text ts) :
    (Tokens.ofChars text.toList).toList? = some ts := by
  have spelled := writes [] [] rfl .nil
  rw [List.append_nil, List.append_nil] at spelled
  exact spelled.toList?_scan 0

end QueryTools.Lexer

namespace QueryTools

/-! ## Types -/

open Lexer

namespace TypeRef

/-- The tokens of a reference. -/
def tokens : TypeRef → List Token
  | .named name => [.name name]
  | .list item => .bracketOpen :: item.tokens ++ [.bracketClose]
  | .nonNull type => type.tokens ++ [.bang]

/-- Whether a reference can be written: its name is one, and null is excluded once at most. -/
def wellFormed : TypeRef → Bool
  | .named name => isName name
  | .list item => item.wellFormed
  | .nonNull type => !type.isNonNull && type.wellFormed

/-- A well formed type is read as its tokens. -/
theorem writes_text {type : TypeRef} (formed : type.wellFormed = true) :
    Writes type.text type.tokens := by
  induction type with
  | named name => exact writes_name formed
  | list item ih =>
      have opening : Opens "[" [.bracketOpen] := opens_punctuation (by decide)
      have closing : Opens "]" [.bracketClose] := opens_punctuation (by decide)
      exact (opening.append_writes (ih formed)).append closing.writes (by decide)
  | nonNull type ih =>
      have bang : Opens "!" [.bang] := opens_punctuation (by decide)
      have inner : type.wellFormed = true := by
        rw [wellFormed, Bool.and_eq_true] at formed
        exact formed.2
      exact (ih inner).append bang.writes (by decide)

end TypeRef

end QueryTools
