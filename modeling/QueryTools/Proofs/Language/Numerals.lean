import QueryTools.Proofs.Language.Spelling

/-!
# Numbers of documents

How a number is spelled: a sign, a whole part, a fraction and an exponent, of which only the whole part
has to be there.  A number is read whole where it ends (`Lexer.Numeral.reads`), so that it is a lexeme
(`Lexer.Numeral.exists_lexeme`), and every number that is read was spelled so
(`Lexer.exists_numeral_of_readNumber`).
-/

namespace QueryTools.Lexer

/-- Digits, at least one. -/
structure Digits (ds : List Char) : Prop where
  filled : ds ≠ []
  digits : ds.all Char.isDigit = true

/-- No digit stands at the front of a text. -/
def digitless : List Char → Bool
  | [] => true
  | c :: _ => !c.isDigit

/-- Behind all digits none follows. -/
theorem digitless_dropWhile (cs : List Char) : digitless (cs.dropWhile Char.isDigit) = true := by
  have first := List.head?_dropWhile_not Char.isDigit cs
  cases left : cs.dropWhile Char.isDigit with
  | nil => rfl
  | cons c rest =>
      rw [left] at first
      simpa [digitless] using first

/-- Where no digit follows none is taken. -/
theorem takeWhile_of_digitless {cs : List Char} (stops : digitless cs = true) :
    cs.takeWhile Char.isDigit = [] := by
  cases cs with
  | nil => rfl
  | cons c rest =>
      have other : c.isDigit = false := by simpa [digitless] using stops
      simp [other]

/-- What is read as digits is digits, and no digit follows. -/
theorem exists_digits_of_readDigits {position n : Nat} {cs : List Char}
    (read : readDigits position cs = .ok n) :
    ∃ ds rest, cs = ds ++ rest ∧ ds.length = n ∧ Digits ds ∧ digitless rest = true := by
  unfold readDigits at read
  split at read
  · cases read
  · rename_i taken
    cases read
    refine ⟨_, cs.dropWhile Char.isDigit, List.takeWhile_append_dropWhile.symm, rfl,
      ⟨taken, List.all_takeWhile⟩, digitless_dropWhile cs⟩

/-- Digits are read up to where they end. -/
theorem Digits.reads {ds : List Char} (digits : Digits ds) (position : Nat) {rest : List Char}
    (stops : digitless rest = true) : readDigits position (ds ++ rest) = .ok ds.length := by
  have whole : (ds ++ rest).takeWhile Char.isDigit = ds := by
    rw [List.takeWhile_append_of_pos (List.all_eq_true.1 digits.digits), takeWhile_of_digitless stops,
      List.append_nil]
  unfold readDigits
  rw [whole]
  split
  · rename_i none
    exact absurd rfl digits.filled
  · rfl

/-- The whole part of a number. -/
inductive Whole : List Char → Prop where
  | zero : Whole ['0']
  | digits {ds : List Char} (digits : Digits ds) (other : ds.head? ≠ some '0') : Whole ds

/-- The fraction of a number, if it has one. -/
inductive Fraction : List Char → Prop where
  | none : Fraction []
  | digits {ds : List Char} (digits : Digits ds) : Fraction ('.' :: ds)

/-- The exponent of a number, if it has one. -/
inductive Exponent : List Char → Prop where
  | none : Exponent []
  | plain {e : Char} {ds : List Char} (mark : e = 'e' ∨ e = 'E') (digits : Digits ds) : Exponent (e :: ds)
  | signed {e sign : Char} {ds : List Char} (mark : e = 'e' ∨ e = 'E') (signs : sign = '+' ∨ sign = '-')
      (digits : Digits ds) : Exponent (e :: sign :: ds)

/-- What is read as a whole part is one, and no digit follows. -/
theorem exists_whole_of_readWhole {position n : Nat} {cs : List Char}
    (read : readWhole position cs = .ok n) :
    ∃ w rest, cs = w ++ rest ∧ w.length = n ∧ Whole w ∧ digitless rest = true := by
  unfold readWhole at read
  split at read
  · rename_i rest
    split at read
    · rename_i d more
      split at read
      · cases read
      · rename_i other
        cases read
        exact ⟨['0'], d :: more, rfl, rfl, .zero, by simpa [digitless] using other⟩
    · cases read
      exact ⟨['0'], [], rfl, rfl, .zero, rfl⟩
  · rename_i other
    obtain ⟨ds, rest, rfl, length, digits, stops⟩ := exists_digits_of_readDigits read
    refine ⟨ds, rest, rfl, length, .digits digits fun zero => ?_, stops⟩
    cases ds with
    | nil => cases zero
    | cons d more =>
        cases zero
        exact other _ rfl

/-- A whole part is read up to where it ends. -/
theorem Whole.reads {w : List Char} (whole : Whole w) (position : Nat) {rest : List Char}
    (stops : digitless rest = true) : readWhole position (w ++ rest) = .ok w.length := by
  cases whole with
  | zero =>
      cases rest with
      | nil => rfl
      | cons d more =>
          have other : d.isDigit = false := by simpa [digitless] using stops
          simp [readWhole, other]
  | digits digits other =>
      have read := digits.reads position stops
      cases w with
      | nil => exact absurd rfl digits.filled
      | cons d more =>
          rw [List.cons_append] at read ⊢
          unfold readWhole
          split
          · rename_i same
            cases same
            exact absurd rfl other
          · exact read

/-- What is read as a fraction is one, and no digit follows. -/
theorem exists_fraction_of_readFraction {position n : Nat} {cs : List Char} (before : digitless cs = true)
    (read : readFraction position cs = .ok n) :
    ∃ f rest, cs = f ++ rest ∧ f.length = n ∧ Fraction f ∧ digitless rest = true := by
  unfold readFraction at read
  split at read
  · obtain ⟨k, taken, read⟩ := Outcome.bind_eq_ok.1 read
    cases read
    obtain ⟨ds, rest, rfl, length, digits, stops⟩ := exists_digits_of_readDigits taken
    exact ⟨'.' :: ds, rest, rfl, by rw [List.length_cons, length, Nat.add_comm], .digits digits, stops⟩
  · cases read
    exact ⟨[], cs, rfl, rfl, .none, before⟩

/-- A fraction is read up to where it ends, if no dot follows. -/
theorem Fraction.reads {f : List Char} (fraction : Fraction f) (position : Nat) {rest : List Char}
    (stops : digitless rest = true) (apart : rest.head? ≠ some '.') :
    readFraction position (f ++ rest) = .ok f.length := by
  cases fraction with
  | none =>
      cases rest with
      | nil => rfl
      | cons c more =>
          rw [List.nil_append]
          unfold readFraction
          split
          · rename_i same
            cases same
            exact absurd rfl apart
          · rfl
  | digits digits =>
      rw [List.cons_append, readFraction, digits.reads (position + 1) stops, List.length_cons, Nat.add_comm]
      rfl

/-- What is read as an exponent is one, and no digit follows. -/
theorem exists_exponent_of_readExponent {position n : Nat} {cs : List Char} (before : digitless cs = true)
    (read : readExponent position cs = .ok n) :
    ∃ e rest, cs = e ++ rest ∧ e.length = n ∧ Exponent e ∧ digitless rest = true := by
  have plain {c : Char} {rest : List Char} (mark : c = 'e' ∨ c = 'E')
      (read : (do return 1 + (← readDigits (position + 1) rest) : Except (Nat × SyntaxFault) Nat) = .ok n) :
      ∃ e more, c :: rest = e ++ more ∧ e.length = n ∧ Exponent e ∧ digitless more = true := by
    obtain ⟨k, taken, read⟩ := Outcome.bind_eq_ok.1 read
    cases read
    obtain ⟨ds, more, rfl, length, digits, stops⟩ := exists_digits_of_readDigits taken
    exact ⟨c :: ds, more, rfl, by rw [List.length_cons, length, Nat.add_comm], .plain mark digits, stops⟩
  unfold readExponent at read
  split at read
  · split at read
    · rename_i mark
      split at read
      · split at read
        · rename_i signs
          obtain ⟨k, taken, read⟩ := Outcome.bind_eq_ok.1 read
          cases read
          obtain ⟨ds, more, rfl, length, digits, stops⟩ := exists_digits_of_readDigits taken
          refine ⟨_ :: _ :: ds, more, rfl, ?_, .signed mark signs digits, stops⟩
          rw [List.length_cons, List.length_cons, length]
          omega
        · exact plain mark read
      · exact plain mark read
    · cases read
      exact ⟨[], _, rfl, rfl, .none, before⟩
  · cases read
    exact ⟨[], [], rfl, rfl, .none, before⟩

/-- No exponent begins a text. -/
def exponentless : List Char → Bool
  | [] => true
  | c :: _ => c != 'e' && c != 'E'

/-- An exponent is read up to where it ends, if no other follows. -/
theorem Exponent.reads {e : List Char} (exponent : Exponent e) (position : Nat) {rest : List Char}
    (stops : digitless rest = true) (apart : exponentless rest = true) :
    readExponent position (e ++ rest) = .ok e.length := by
  cases exponent with
  | none =>
      cases rest with
      | nil => rfl
      | cons c more =>
          have other : ¬(c = 'e' ∨ c = 'E') := by simpa [exponentless] using apart
          rw [List.nil_append]
          unfold readExponent
          simp only [if_neg other]
          rfl
  | @plain e ds mark digits =>
      have read := digits.reads (position + 1) stops
      have first := List.all_eq_true.1 digits.digits
      cases ds with
      | nil => exact absurd rfl digits.filled
      | cons d more =>
          have unsigned : ¬(d = '+' ∨ d = '-') := by
            have digit := first d List.mem_cons_self
            rintro (rfl | rfl) <;> cases digit
          rw [List.cons_append] at read
          rw [List.cons_append, List.cons_append, readExponent, if_pos mark]
          simp only [if_neg unsigned, read, List.length_cons]
          exact congrArg Except.ok (by omega)
  | signed mark signs digits =>
      rw [List.cons_append, List.cons_append, readExponent, if_pos mark]
      simp only [if_pos signs, digits.reads (position + 2) stops, List.length_cons]
      exact congrArg Except.ok (by omega)

/-- The token of a number with the given parts. -/
def numberToken (sign whole fraction exponent : List Char) : Token :=
  let text := String.ofList (sign ++ whole ++ fraction ++ exponent)
  if fraction.length + exponent.length = 0 then .int text else .float text

/-- Characters that spell a number. -/
inductive Numeral : List Char → Token → Prop where
  | mk {sign whole fraction exponent : List Char} (signs : sign = [] ∨ sign = ['-']) (w : Whole whole)
      (f : Fraction fraction) (e : Exponent exponent) :
      Numeral (sign ++ whole ++ fraction ++ exponent) (numberToken sign whole fraction exponent)

/-- A name may go on as it may start. -/
theorem isNameContinue_of_isNameStart {c : Char} (start : isNameStart c = true) :
    isNameContinue c = true := by
  simp only [isNameStart, Bool.or_eq_true] at start
  simp only [isNameContinue, Char.isAlphanum, Bool.or_eq_true]
  exact start.imp_left Or.inl

/-- No digit follows where a token ends. -/
theorem digitless_of_breaksOff {cs : List Char} (ends : breaksOff cs = true) : digitless cs = true := by
  cases cs with
  | nil => rfl
  | cons c rest =>
      have other : isNameContinue c = false := by
        simp only [breaksOff, Bool.and_eq_true, Bool.not_eq_true'] at ends
        exact ends.1.1
      simp only [isNameContinue, Char.isAlphanum, Bool.or_eq_false_iff] at other
      simp [digitless, other.1.2]

/-- No exponent follows where a token ends. -/
theorem exponentless_of_breaksOff {cs : List Char} (ends : breaksOff cs = true) : exponentless cs = true := by
  cases cs with
  | nil => rfl
  | cons c rest =>
      have named : c ≠ 'e' ∧ c ≠ 'E' := by
        constructor <;> (rintro rfl; revert ends; simp [breaksOff, isNameContinue])
      simpa [exponentless] using named

/-- An exponent does not begin with a digit. -/
theorem Exponent.digitless_append {e cs : List Char} (exponent : Exponent e)
    (ends : digitless cs = true) : digitless (e ++ cs) = true := by
  cases exponent with
  | none => exact ends
  | plain mark _ => rcases mark with rfl | rfl <;> rfl
  | signed mark _ _ => rcases mark with rfl | rfl <;> rfl

/-- A fraction does not begin with a digit. -/
theorem Fraction.digitless_append {f cs : List Char} (fraction : Fraction f)
    (ends : digitless cs = true) : digitless (f ++ cs) = true := by
  cases fraction with
  | none => exact ends
  | digits _ => rfl

/-- An exponent does not begin with a dot. -/
theorem Exponent.head?_append_ne {e cs : List Char} (exponent : Exponent e)
    (ends : cs.head? ≠ some '.') : (e ++ cs).head? ≠ some '.' := by
  cases exponent with
  | none => exact ends
  | plain mark _ => rcases mark with rfl | rfl <;> simp
  | signed mark _ _ => rcases mark with rfl | rfl <;> simp

/-- The first character of a whole part. -/
theorem Whole.exists_cons {w : List Char} (whole : Whole w) :
    ∃ d more, w = d :: more ∧ d.isDigit = true := by
  cases whole with
  | zero => exact ⟨'0', [], rfl, rfl⟩
  | digits digits other =>
      cases w with
      | nil => exact absurd rfl digits.filled
      | cons d more => exact ⟨d, more, rfl, List.all_eq_true.1 digits.digits d List.mem_cons_self⟩

/-- A number is read whole where it ends. -/
theorem Numeral.reads {text : List Char} {t : Token} (numeral : Numeral text t) (position : Nat)
    {cs : List Char} (ends : breaksOff cs = true) :
    readNumber position (text ++ cs) = .ok (t, text.length) := by
  obtain ⟨signs, w, f, e⟩ := numeral
  rename_i sign whole fraction exponent
  have stops := digitless_of_breaksOff ends
  have apart : cs.head? ≠ some '.' := by
    cases cs with
    | nil => simp
    | cons c rest =>
        rintro same
        cases same
        cases ends
  have wholeRead := w.reads (position + sign.length) (f.digitless_append (e.digitless_append stops))
  have fractionRead := f.reads (position + (sign.length + whole.length)) (e.digitless_append stops)
    (e.head?_append_ne apart)
  have exponentRead := e.reads (position + (sign.length + whole.length) + fraction.length) stops
    (exponentless_of_breaksOff ends)
  obtain ⟨d, more, spelled, digit⟩ := w.exists_cons
  have signed : (if (sign ++ (whole ++ (fraction ++ (exponent ++ cs)))).head? = some '-' then 1 else 0)
      = sign.length := by
    rcases signs with rfl | rfl
    · have other : d ≠ '-' := by
        rintro rfl
        cases digit
      simp [spelled, other]
    · rfl
  have split : sign ++ whole ++ fraction ++ exponent ++ cs =
      sign ++ (whole ++ (fraction ++ (exponent ++ cs))) := by
    simp only [List.append_assoc]
  have dropTwo : (sign ++ (whole ++ (fraction ++ (exponent ++ cs)))).drop (sign.length + whole.length) =
      fraction ++ (exponent ++ cs) := by
    rw [← List.append_assoc, ← List.length_append, List.drop_left]
  have dropThree : (sign ++ (whole ++ (fraction ++ (exponent ++ cs)))).drop
      (sign.length + whole.length + fraction.length) = exponent ++ cs := by
    rw [← List.append_assoc, ← List.append_assoc, ← List.length_append, ← List.length_append,
      List.drop_left]
  have length : (sign ++ whole ++ fraction ++ exponent).length =
      sign.length + whole.length + fraction.length + exponent.length := by
    simp only [List.length_append]
  have drop : (sign ++ (whole ++ (fraction ++ (exponent ++ cs)))).drop
      (sign.length + whole.length + fraction.length + exponent.length) = cs := by
    rw [← split, ← length, List.drop_left]
  have take : (sign ++ (whole ++ (fraction ++ (exponent ++ cs)))).take
      (sign.length + whole.length + fraction.length + exponent.length) =
        sign ++ whole ++ fraction ++ exponent := by
    rw [← split, ← length, List.take_left]
  rw [split, length]
  unfold readNumber
  simp only [signed]
  refine Outcome.bind_eq_ok.2 ⟨whole.length, by rw [List.drop_left]; exact wholeRead, ?_⟩
  refine Outcome.bind_eq_ok.2 ⟨fraction.length, by rw [dropTwo]; exact fractionRead, ?_⟩
  refine Outcome.bind_eq_ok.2 ⟨exponent.length, by rw [dropThree]; exact exponentRead, ?_⟩
  simp only [drop, take]
  cases cs with
  | nil => rfl
  | cons c rest =>
      have goesOn : ¬(c = '.' ∨ isNameStart c = true) := by
        rintro (rfl | start)
        · cases ends
        · simp only [breaksOff, Bool.and_eq_true, Bool.not_eq_true'] at ends
          rw [isNameContinue_of_isNameStart start] at ends
          cases ends.1.1
      simp only [if_neg goesOn]
      rfl

/-- What is read as a number spells one. -/
theorem exists_numeral_of_readNumber {position n : Nat} {cs : List Char} {t : Token}
    (read : readNumber position cs = .ok (t, n)) :
    ∃ text, Numeral text t := by
  unfold readNumber at read
  obtain ⟨wholeLength, wholeRead, read⟩ := Outcome.bind_eq_ok.1 read
  obtain ⟨fractionLength, fractionRead, read⟩ := Outcome.bind_eq_ok.1 read
  obtain ⟨exponentLength, exponentRead, read⟩ := Outcome.bind_eq_ok.1 read
  obtain ⟨sign, unsigned, rfl, signLength, signs⟩ : ∃ sign unsigned, cs = sign ++ unsigned ∧
      (if cs.head? = some '-' then 1 else 0) = sign.length ∧ (sign = [] ∨ sign = ['-']) := by
    cases cs with
    | nil => exact ⟨[], [], rfl, rfl, .inl rfl⟩
    | cons c rest =>
        by_cases minus : c = '-'
        · exact ⟨['-'], rest, by rw [minus]; rfl, by simp [minus], .inr rfl⟩
        · exact ⟨[], c :: rest, rfl, by simp [minus], .inl rfl⟩
  simp only [signLength, List.drop_left] at wholeRead fractionRead exponentRead read
  obtain ⟨whole, afterWhole, rfl, rfl, w, stops⟩ := exists_whole_of_readWhole wholeRead
  rw [← List.append_assoc, ← List.length_append, List.drop_left] at fractionRead
  obtain ⟨fraction, afterFraction, rfl, rfl, f, stops⟩ := exists_fraction_of_readFraction stops fractionRead
  rw [← List.append_assoc, ← List.append_assoc, ← List.length_append, ← List.length_append,
    List.drop_left] at exponentRead
  obtain ⟨exponent, rest, rfl, rfl, e, -⟩ := exists_exponent_of_readExponent stops exponentRead
  have split : sign ++ (whole ++ (fraction ++ (exponent ++ rest))) =
      sign ++ whole ++ fraction ++ exponent ++ rest := by
    simp only [List.append_assoc]
  have length : sign.length + whole.length + fraction.length + exponent.length =
      (sign ++ whole ++ fraction ++ exponent).length := by
    simp only [List.length_append]
  rw [split, length, List.drop_left, List.take_left] at read
  have token : t = numberToken sign whole fraction exponent := by
    split at read
    · split at read
      · obtain ⟨_, never, -⟩ := Outcome.bind_eq_ok.1 read
        exact absurd never Outcome.throw_ne_ok
      · cases read
        rfl
    · cases read
      rfl
  rw [token]
  exact ⟨_, .mk signs w f e⟩

/-- A number is a whole one or not. -/
theorem Numeral.int_or_float {text : List Char} {t : Token} (numeral : Numeral text t) :
    t = .int (String.ofList text) ∨ t = .float (String.ofList text) := by
  obtain ⟨signs, w, f, e⟩ := numeral
  unfold numberToken
  dsimp only
  split
  · exact .inl rfl
  · exact .inr rfl

/-! ## Numbers as lexemes -/

/-- A number begins with a digit or a minus sign. -/
theorem Numeral.exists_cons {text : List Char} {t : Token} (numeral : Numeral text t) :
    ∃ c front, text = c :: front ∧ (c.isDigit = true ∨ c = '-') := by
  obtain ⟨signs, w, f, e⟩ := numeral
  rcases signs with rfl | rfl
  · obtain ⟨d, more, rfl, digit⟩ := w.exists_cons
    exact ⟨d, _, rfl, .inl digit⟩
  · exact ⟨'-', _, rfl, .inr rfl⟩

/-- A number is on one line. -/
theorem Numeral.newline_not_mem {text : List Char} {t : Token} (numeral : Numeral text t) :
    '\n' ∉ text := by
  have digits : ∀ {ds : List Char}, Digits ds → '\n' ∉ ds := by
    intro ds digits member
    have digit := List.all_eq_true.1 digits.digits _ member
    cases digit
  obtain ⟨signs, w, f, e⟩ := numeral
  simp only [List.mem_append, not_or]
  refine ⟨⟨⟨?_, ?_⟩, ?_⟩, ?_⟩
  · rcases signs with rfl | rfl <;> decide
  · cases w with
    | zero => decide
    | digits own _ => exact digits own
  · cases f with
    | none => decide
    | digits own => simpa using digits own
  · cases e with
    | none => decide
    | plain mark own => rcases mark with rfl | rfl <;> simpa using digits own
    | signed mark signs own =>
        rcases mark with rfl | rfl <;> rcases signs with rfl | rfl <;> simpa using digits own

/-- What begins a number begins nothing else. -/
theorem begins_number {c : Char} (begins : c.isDigit = true ∨ c = '-') :
    isIgnored c = false ∧ c ≠ '#' ∧ mark? c = none ∧ isNameStart c = false ∧ c ≠ '.' ∧ c ≠ '"' := by
  rcases begins with digit | rfl
  · have apart : ∀ d : Char, d.isDigit = false → c ≠ d := by
      rintro d other rfl
      rw [digit] at other
      cases other
    refine ⟨?_, apart _ rfl, ?_, ?_, apart _ rfl, apart _ rfl⟩
    · simp [isIgnored, apart]
    · unfold mark?
      split <;> first | rfl | cases digit
    · have letter : c.isAlpha = false := by
        simp only [Char.isDigit, Bool.and_eq_true, decide_eq_true_eq, ge_iff_le] at digit
        unfold Char.isAlpha Char.isUpper Char.isLower
        simp only [Bool.or_eq_false_iff, Bool.and_eq_false_imp, decide_eq_true_eq, decide_eq_false_iff_not,
          ge_iff_le, UInt32.le_iff_toNat_le] at digit ⊢
        constructor <;> intro _ <;> simp_all <;> omega
      simp [isNameStart, letter, apart]
  · decide

/-- A number is a lexeme. -/
theorem Numeral.exists_lexeme {text : List Char} {t : Token} (numeral : Numeral text t) :
    ∃ c front, text = c :: front ∧ Lexeme c front t := by
  obtain ⟨c, front, rfl, begins⟩ := numeral.exists_cons
  obtain ⟨visible, code, unmarked, unnamed, dot, quote⟩ := begins_number begins
  refine ⟨c, front, rfl, visible, code, fun position cs ends => ?_⟩
  have read := numeral.reads position ends
  simpa [readToken, unmarked, unnamed, dot, quote, begins] using read

end QueryTools.Lexer
