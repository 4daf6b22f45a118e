import QueryTools.Proofs.Language.Spelling
import QueryTools.Language.LiteralText

/-!
# Quoted strings of documents

Between quotes a character stands for itself or behind a backslash (`Lexer.Stands`), and what is written
for it is read as it (`Lexer.Stands.reads`).  So a text as documents write it is a lexeme
(`Lexer.lexeme_documentString`).
-/

namespace QueryTools.Lexer

open Text

/-- What stands for a character between quotes: itself, a letter behind a backslash, or its number. -/
inductive Stands (c : Char) : List Char → Prop where
  | plain (quote : c ≠ '"') (slash : c ≠ '\\') (line : c ≠ '\n') (return_ : c ≠ '\r') : Stands c [c]
  | letter {x : Char} (line : x ≠ '\n') (reads : ∀ rest, readEscape ('\\' :: x :: rest) = .ok (c, 2)) :
      Stands c ['\\', x]
  | number {ds : List Char} (line : '\n' ∉ ds) (four : ds.length = 4)
      (reads : ∀ rest, readEscape ('\\' :: 'u' :: (ds ++ rest)) = .ok (c, 6)) : Stands c ('\\' :: 'u' :: ds)

/-- The number of a control on four digits. -/
def controlDigits (n : Nat) : List Char :=
  let digits := (Nat.toDigits 16 n).map Char.toUpper
  List.replicate (4 - digits.length) '0' ++ digits

/-- Whether four digits are the number of a character. -/
def spellsUnit (ds : List Char) (n : Nat) : Bool :=
  ds.length == 4 && hexUnit? ds == some n && ds.all fun c => c != '\n' && c != '\x7b'

/-- Four digits are written for each control character, and read as its number. -/
theorem spellsUnit_controlDigits :
    (List.range 0xa0).all (fun n => spellsUnit (controlDigits n) n) = true := by
  decide +kernel

/-- The number of a control is read as the control. -/
theorem readEscape_unit {ds : List Char} {c : Char} (spells : spellsUnit ds c.toNat = true)
    (small : c.toNat < 0xa0) (rest : List Char) :
    readEscape ('\\' :: 'u' :: (ds ++ rest)) = .ok (c, 6) := by
  simp only [spellsUnit, Bool.and_eq_true, beq_iff_eq, List.all_eq_true] at spells
  obtain ⟨⟨four, unit⟩, plain⟩ := spells
  have scalar : isScalar c.toNat = true := by
    simp only [isScalar, Bool.or_eq_true, decide_eq_true_eq]
    omega
  have taken : (ds ++ rest).take 4 = ds := by rw [← four, List.take_left]
  have brace : ∀ more, ds ++ rest ≠ '\x7b' :: more := by
    intro more same
    cases ds with
    | nil => cases four
    | cons d ds =>
        have other := (plain d List.mem_cons_self).2
        rw [(List.cons.inj same).1] at other
        cases other
  unfold readEscape
  rw [List.drop_one, List.tail_cons]
  simp only [taken, unit, scalar, if_true, Char.ofNat_toNat]

/-- What is written for a character stands for it. -/
theorem stands_documentChar (c : Char) : Stands c (documentChar c) := by
  unfold documentChar
  split
  · exact .letter (by decide) fun _ => rfl
  · exact .letter (by decide) fun _ => rfl
  · exact .letter (by decide) fun _ => rfl
  · exact .letter (by decide) fun _ => rfl
  · exact .letter (by decide) fun _ => rfl
  · exact .letter (by decide) fun _ => rfl
  · exact .letter (by decide) fun _ => rfl
  · rename_i quote slash _ _ line _ return_
    dsimp only
    split
    · rename_i control
      have small : c.toNat < 0xa0 := by omega
      have spells := List.all_eq_true.1 spellsUnit_controlDigits c.toNat (List.mem_range.2 small)
      have parts := spells
      simp only [spellsUnit, Bool.and_eq_true, beq_iff_eq, List.all_eq_true] at parts
      refine .number (fun member => ?_) parts.1.1 (readEscape_unit spells small)
      have other := (parts.2 _ member).1
      cases other
    · exact .plain quote slash line return_

/-- Characters that belong to the escape before are passed over. -/
theorem readString_skip (position taken : Nat) (value front rest : List Char) :
    readString position taken value front.length (front ++ rest) =
      readString (position + front.length) (taken + front.length) value 0 rest := by
  induction front generalizing position taken with
  | nil => rfl
  | cons c more ih =>
      have passed := ih (position + 1) (taken + 1)
      rw [List.length_cons, List.cons_append, readString, passed]
      congr 1 <;> omega

/-- What stands for a character is read as it. -/
theorem Stands.reads {c : Char} {front : List Char} (stands : Stands c front)
    (position taken : Nat) (value rest : List Char) :
    readString position taken value 0 (front ++ rest) =
      readString (position + front.length) (taken + front.length) (c :: value) 0 rest := by
  have escaped : ∀ {more : List Char}, readEscape ('\\' :: (more ++ rest)) = .ok (c, more.length + 1) →
      readString position taken value 0 ('\\' :: (more ++ rest)) =
        readString (position + (more.length + 1)) (taken + (more.length + 1)) (c :: value) 0 rest := by
    intro more reads
    have passed := readString_skip (position + 1) (taken + 1) (c :: value) more rest
    rw [Nat.add_assoc, Nat.add_assoc, Nat.add_comm 1] at passed
    rw [readString]
    simp only [reads, Nat.add_sub_cancel, passed]
    rfl
  cases stands with
  | plain quote slash line return_ =>
      rw [List.cons_append, readString]
      simp only [quote, slash, line, return_, or_self, if_false]
      rfl
  | letter line reads => exact escaped (reads rest)
  | number line four reads =>
      have here := reads rest
      rw [show (6 : Nat) = ('u' :: _).length + 1 from by rw [List.length_cons, four]] at here
      exact escaped here

/-- What a character is written as holds no line feed. -/
theorem Stands.newline_not_mem {c : Char} {front : List Char} (stands : Stands c front) :
    '\n' ∉ front := by
  cases stands with
  | plain quote slash line return_ => simpa using line.symm
  | letter line reads => simpa using line.symm
  | number line four reads => simpa using line

/-- What stands for a character does not begin with a quote. -/
theorem Stands.head?_ne {c : Char} {front : List Char} (stands : Stands c front) :
    ∃ x more, front = x :: more ∧ x ≠ '"' := by
  cases stands with
  | plain quote slash line return_ => exact ⟨c, [], rfl, quote⟩
  | letter line reads => exact ⟨'\\', _, rfl, by decide⟩
  | number line four reads => exact ⟨'\\', _, rfl, by decide⟩

/-- A text is read up to its closing quote. -/
theorem readString_flatMap (text : List Char) (position taken : Nat) (value rest : List Char) :
    readString position taken value 0 (text.flatMap documentChar ++ '"' :: rest) =
      .ok (value.reverse ++ text, taken + (text.flatMap documentChar).length + 1) := by
  induction text generalizing position taken value with
  | nil => simp [readString]
  | cons c more ih =>
      have here := (stands_documentChar c).reads position taken value
        (more.flatMap documentChar ++ '"' :: rest)
      rw [List.flatMap_cons, List.append_assoc, here, ih, List.reverse_cons, List.append_assoc,
        List.singleton_append, List.length_append]
      simp only [Nat.add_assoc]

/-- A text between quotes is a lexeme. -/
theorem lexeme_documentString (text : String) :
    Lexeme '"' (text.toList.flatMap documentChar ++ ['"']) (.string text) := by
  refine ⟨by decide, by decide, fun position cs ends => ?_⟩
  have read := readString_flatMap text.toList (position + 1) 1 [] cs
  have single : ∀ body, text.toList.flatMap documentChar ++ '"' :: cs ≠ '"' :: '"' :: body := by
    intro body same
    cases spelled : text.toList with
    | nil =>
        rw [spelled] at same
        simp only [List.flatMap_nil, List.nil_append, List.cons.injEq, true_and] at same
        rw [same] at ends
        cases ends
    | cons c more =>
        obtain ⟨x, tail, stands, other⟩ := (stands_documentChar c).head?_ne
        rw [spelled, List.flatMap_cons, stands] at same
        simp only [List.cons_append, List.cons.injEq] at same
        exact other same.1
  have quotes : mark? '"' = none ∧ isNameStart '"' = false := by decide
  rw [List.append_assoc, List.singleton_append]
  unfold readToken
  simp only [quotes, Bool.false_eq_true, if_false, if_true, show ('"' : Char) ≠ '.' by decide]
  refine Outcome.bind_eq_ok.2 ⟨_, read, ?_⟩
  rw [List.reverse_nil, List.nil_append, String.ofList_toList, List.length_append, List.length_singleton,
    Nat.add_comm 1]
  rfl

/-- A text between quotes is on one line. -/
theorem newline_not_mem_documentString (text : String) : '\n' ∉ (documentString text).toList := by
  unfold documentString
  simp only [String.toList_ofList, List.cons_append, List.mem_cons, List.mem_append, List.mem_flatMap]
  rintro (quote | ⟨c, -, inside⟩ | quote)
  · cases quote
  · exact (stands_documentChar c).newline_not_mem inside
  · simp at quote

end QueryTools.Lexer
