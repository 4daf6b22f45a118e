import QueryTools.Proofs.Language.Spelling
import QueryTools.Proofs.Text.BlockText
import QueryTools.Language.LiteralText

/-!
# Block text of documents

A text that is flush is written between triple quotes so that it is read as it was, also where its lines
are moved to the right on the way: it is a lexeme (`Lexer.exists_lexeme_of_flush`).
-/

namespace QueryTools.Text

/-! ## Moving lines to the right -/

/-- Characters with so many blanks behind each line feed. -/
def moved (k : Nat) (cs : List Char) : List Char :=
  cs.flatMap fun c => if c = '\n' then '\n' :: List.replicate k ' ' else [c]

theorem moved_append (k : Nat) (cs ds : List Char) : moved k (cs ++ ds) = moved k cs ++ moved k ds :=
  List.flatMap_append

/-- Each line feed of a text is followed by blanks when it is moved, and no other character is. -/
theorem moved_cons (k : Nat) (c : Char) (cs : List Char) :
    moved k (c :: cs) = (if c = '\n' then '\n' :: List.replicate k ' ' else [c]) ++ moved k cs :=
  List.flatMap_cons

theorem moved_newline (k : Nat) (cs : List Char) :
    moved k ('\n' :: cs) = '\n' :: List.replicate k ' ' ++ moved k cs := by
  rw [moved_cons, if_pos rfl]

/-- A character that is no line feed is moved as it is. -/
theorem moved_cons_of_ne (k : Nat) {c : Char} (other : c ≠ '\n') (cs : List Char) :
    moved k (c :: cs) = c :: moved k cs := by
  rw [moved_cons, if_neg other]
  rfl

/-- A single line stays where it is. -/
theorem moved_of_not_mem (k : Nat) {cs : List Char} (line : '\n' ∉ cs) : moved k cs = cs := by
  induction cs with
  | nil => rfl
  | cons c rest ih =>
      simp only [List.mem_cons, not_or] at line
      have later := ih line.2
      rw [moved_cons_of_ne k (fun same => line.1 same.symm), later]

/-- Moving twice moves as far as both. -/
theorem moved_moved (j k : Nat) (cs : List Char) : moved j (moved k cs) = moved (j + k) cs := by
  induction cs with
  | nil => rfl
  | cons c rest ih =>
      by_cases newline : c = '\n'
      · have blanks : moved j (List.replicate k ' ') = List.replicate k ' ' :=
          moved_of_not_mem j fun member => by simp at member
        rw [newline, moved_newline, moved_newline, moved_append, moved_newline, blanks, ih,
          ← List.replicate_append_replicate]
        simp only [List.cons_append, List.append_assoc]
      · rw [moved_cons_of_ne k newline, moved_cons_of_ne j newline, moved_cons_of_ne (j + k) newline, ih]

/-- Padding the first of joined lines pads the text. -/
theorem joined_pad (k : Nat) (l : List Char) (ls : List (List Char)) :
    joined (pad k l :: ls) = List.replicate k ' ' ++ joined (l :: ls) := by
  cases ls with
  | nil => rw [joined_singleton, joined_singleton, pad]
  | cons m more => rw [joined_cons_cons, joined_cons_cons, pad, List.append_assoc]

/-- All lines but the first are moved. -/
theorem moved_joined (k : Nat) {l : List Char} {ls : List (List Char)}
    (plain : ∀ m ∈ l :: ls, Plain m) : moved k (joined (l :: ls)) = joined (l :: ls.map (pad k)) := by
  induction ls generalizing l with
  | nil =>
      rw [List.map_nil, joined_singleton]
      exact moved_of_not_mem k (plain l List.mem_cons_self).1
  | cons m more ih =>
      have later := ih fun x member => plain x (List.mem_cons_of_mem l member)
      have line := (plain l List.mem_cons_self).1
      rw [joined_cons_cons, moved_append, moved_newline, moved_of_not_mem k line, later, List.map_cons,
        joined_cons_cons, joined_pad]
      rfl

/-- What stands between the quotes of moved block text. -/
theorem joined_framed (k : Nat) (above below : Bool) {l : List Char} {ls : List (List Char)}
    (plain : ∀ m ∈ l :: ls, Plain m) :
    joined (framed k above below l ls) =
      (if above then '\n' :: List.replicate k ' ' else []) ++ moved k (joined (l :: ls))
        ++ if below then '\n' :: List.replicate k ' ' else [] := by
  have behind : ∀ ms : List (List Char), ms ≠ [] →
      joined (ms ++ if below then [pad k []] else []) =
        joined ms ++ if below then '\n' :: List.replicate k ' ' else [] := by
    intro ms filled
    cases below with
    | false => simp
    | true => simp [joined_append filled, joined_singleton, pad]
  unfold framed
  cases above with
  | false =>
      rw [moved_joined k plain]
      simpa using behind (l :: ls.map (pad k)) (List.cons_ne_nil l _)
  | true =>
      have here := behind ([] :: (l :: ls).map (pad k)) (List.cons_ne_nil [] _)
      simp only [if_true]
      rw [here, List.map_cons, joined_cons_cons, joined_pad, moved_joined k plain]
      simp

/-! ## Writing block text -/

/-- Escaping makes no characters but quotes and backslashes. -/
theorem newline_mem_escape {c : Char} {cs : List Char} (quote : c ≠ '"') (slash : c ≠ '\\')
    (member : c ∈ escapeTripleQuotes cs) : c ∈ cs := by
  induction cs using escapeTripleQuotes.induct with
  | case1 rest ih =>
      rw [escapeTripleQuotes] at member
      simp only [List.mem_cons, quote, slash, false_or] at member ⊢
      exact ih member
  | case2 d rest single ih =>
      rw [escapeTripleQuotes] at member
      · rcases List.mem_cons.1 member with rfl | later
        · exact List.mem_cons_self
        · exact List.mem_cons_of_mem d (ih later)
      · exact single
  | case3 => cases member

/-- A line feed parts what is escaped. -/
theorem escape_append_newline (cs ds : List Char) :
    escapeTripleQuotes (cs ++ '\n' :: ds) = escapeTripleQuotes cs ++ '\n' :: escapeTripleQuotes ds := by
  induction cs using escapeTripleQuotes.induct with
  | case1 rest ih =>
      simp only [List.cons_append, escapeTripleQuotes, ih]
  | case2 c rest single ih =>
      rw [List.cons_append, escapeTripleQuotes, escapeTripleQuotes, ih]
      · rfl
      · exact single
      · -- The line feed ends what may be quotes.
        intro more quote same
        cases rest with
        | nil => cases same
        | cons d rest =>
            cases rest with
            | nil => cases same
            | cons e rest =>
                simp only [List.cons_append, List.cons.injEq] at same
                exact single rest quote (by rw [same.1, same.2.1])
  | case3 =>
      rw [List.nil_append, escapeTripleQuotes]
      · rfl
      · exact fun _ other => absurd other (by decide)

/-- Joined lines are escaped one by one. -/
theorem escape_joined (ls : List (List Char)) :
    escapeTripleQuotes (joined ls) = joined (ls.map escapeTripleQuotes) := by
  induction ls with
  | nil => rfl
  | cons l rest ih =>
      cases rest with
      | nil => simp [joined_singleton]
      | cons m more =>
          have here := joined_cons_cons (escapeTripleQuotes l) (escapeTripleQuotes m)
            (more.map escapeTripleQuotes)
          rw [joined_cons_cons, escape_append_newline, ih]
          exact here.symm

/-- Quotes that are written with a backslash make no lines. -/
theorem lines_escape_joined {ls : List (List Char)} (filled : ls ≠ []) (plain : ∀ l ∈ ls, Plain l) :
    lines (escapeTripleQuotes (joined ls)) = ls.map escapeTripleQuotes := by
  rw [escape_joined]
  refine lines_joined (by simpa using filled) fun l member => ?_
  obtain ⟨m, own, rfl⟩ := List.mem_map.1 member
  obtain ⟨line, return_⟩ := plain m own
  exact ⟨fun met => line (newline_mem_escape (by decide) (by decide) met),
    fun met => return_ (newline_mem_escape (by decide) (by decide) met)⟩

/-- Escaping keeps the last character. -/
theorem getLast?_escape (cs : List Char) : (escapeTripleQuotes cs).getLast? = cs.getLast? := by
  induction cs using escapeTripleQuotes.induct with
  | case1 rest ih =>
      rw [escapeTripleQuotes]
      simp only [List.getLast?_cons, ih, Option.getD_some]
  | case2 c rest single ih =>
      rw [escapeTripleQuotes]
      · rw [List.getLast?_cons, List.getLast?_cons, ih]
      · exact single
  | case3 => rfl

/-- Lines that are flush make a text that is not empty. -/
theorem Flush.joined_ne_nil {l : List Char} {ls : List (List Char)} (flush : Flush (l :: ls)) :
    joined (l :: ls) ≠ [] := by
  intro none
  have empty : l = [] := by
    cases ls with
    | nil => rwa [joined_singleton] at none
    | cons m more =>
        rw [joined_cons_cons] at none
        exact (List.append_eq_nil_iff.1 none).1
  have first := flush.first l rfl
  rw [empty] at first
  cases first

/-- A text that triple quotes can stand right behind. -/
def Closes (cs : List Char) : Prop := ∃ c, cs.getLast? = some c ∧ c ≠ '"' ∧ c ≠ '\\'

/-- Flush lines are written behind the opening quotes only where there is one line, below them only where
they are not indented, and the closing quotes stand right behind what they can stand behind. -/
theorem exists_writeBlock {l : List Char} {ls : List (List Char)} (flush : Flush (l :: ls)) :
    ∃ above below : Bool, writeBlock (joined (l :: ls)) =
        ['"', '"', '"'] ++ (if above then ['\n'] else []) ++ escapeTripleQuotes (joined (l :: ls))
          ++ (if below then ['\n'] else []) ++ ['"', '"', '"'] ∧
      (above = false → ls = []) ∧ (above = true → ls = [] → indentOf l = 0) ∧
      (below = false → Closes (joined (l :: ls))) := by
  have cut := lines_escape_joined (List.cons_ne_nil l ls) flush.plain
  have count : ((lines (escapeTripleQuotes (joined (l :: ls)))).length == 1) = ls.isEmpty := by
    rw [cut]
    cases ls <;> simp
  have many : decide (1 < (lines (escapeTripleQuotes (joined (l :: ls)))).length) = !ls.isEmpty := by
    rw [cut]
    cases ls <;> simp
  have last := getLast?_escape (joined (l :: ls))
  unfold writeBlock
  simp only [count, many, last]
  refine ⟨_, _, rfl, ?_, ?_, ?_⟩
  · intro behind
    cases ls with
    | nil => rfl
    | cons m more => simp at behind
  · rintro below rfl
    simp only [List.isEmpty_nil, Bool.not_true, Bool.false_and, Bool.or_false, Bool.true_and,
      joined_singleton, Bool.and_eq_true, Bool.not_eq_true'] at below
    obtain ⟨-, open_⟩ := below
    cases l with
    | nil => rfl
    | cons c more =>
        by_cases blank : indents c = true
        · have quote : c ≠ '"' := by
            rintro rfl
            cases blank
          rw [escapeTripleQuotes] at open_
          · have never : true = false := blank.symm.trans open_
            cases never
          · exact fun _ same => absurd same quote
        · rw [Bool.not_eq_true] at blank
          exact (indentOf_append (List.forall_mem_nil _) blank).1
  · intro behind
    simp only [Bool.or_eq_false_iff, Bool.and_eq_false_iff, Bool.not_eq_false'] at behind
    obtain ⟨⟨-, tripled⟩, quoted, slashed⟩ := behind
    cases ends : (joined (l :: ls)).getLast? with
    | none => exact absurd (List.getLast?_eq_none_iff.1 ends) flush.joined_ne_nil
    | some c =>
        rw [ends] at quoted slashed
        refine ⟨c, ends, ?_, ?_⟩
        · rintro rfl
          rcases quoted with other | other
          · simp at other
          · rw [tripled] at other
            cases other
        · rintro rfl
          simp at slashed

end QueryTools.Text

namespace QueryTools.Lexer

open Text

/-! ## Reading block text -/

/-- What stands behind a text does not run into it: a line feed comes first, or the text does not end with
what goes on. -/
def Guarded (cs stop : List Char) : Prop := stop.head? = some '\n' ∨ Closes cs

/-- What is guarded is so behind its first quote or backslash. -/
theorem Guarded.tail {c : Char} {rest stop : List Char} (guarded : Guarded (c :: rest) stop)
    (goesOn : c = '"' ∨ c = '\\') : Guarded rest stop := by
  rcases guarded with line | ⟨d, last, quote, slash⟩
  · exact .inl line
  · cases rest with
    | nil =>
        cases last
        rcases goesOn with rfl | rfl
        · exact absurd rfl quote
        · exact absurd rfl slash
    | cons e more =>
        rw [List.getLast?_cons_cons] at last
        exact .inr ⟨d, last, quote, slash⟩

/-- A text that is followed by what does not run into it. -/
theorem Guarded.later {c : Char} {rest stop : List Char} (guarded : Guarded (c :: rest) stop) :
    rest = [] ∨ Guarded rest stop := by
  cases rest with
  | nil => exact .inl rfl
  | cons e more =>
      rcases guarded with line | ⟨d, last, apart⟩
      · exact .inr (.inl line)
      · rw [List.getLast?_cons_cons] at last
        exact .inr (.inr ⟨d, last, apart⟩)

/-- A character other than a quote and a backslash is part of the text. -/
theorem readBlock_cons {c : Char} (quote : c ≠ '"') (slash : c ≠ '\\') (position taken : Nat)
    (value rest : List Char) :
    readBlock position taken value (c :: rest) = readBlock (position + 1) (taken + 1) (c :: value) rest := by
  rw [readBlock]
  · exact fun _ same => absurd same quote
  · exact fun _ same => absurd same slash

/-- Blanks in a block are read as they are. -/
theorem readBlock_blanks (k position taken : Nat) (value rest : List Char) :
    readBlock position taken value (List.replicate k ' ' ++ rest) =
      readBlock (position + k) (taken + k) (List.replicate k ' ' ++ value) rest := by
  induction k generalizing position taken value with
  | zero => rfl
  | succ k ih =>
      have same : List.replicate k ' ' ++ ' ' :: value = List.replicate (k + 1) ' ' ++ value := by
        rw [List.replicate_succ', List.append_assoc]
        rfl
      rw [List.replicate_succ, List.cons_append, readBlock_cons (by decide) (by decide), ih, same,
        Nat.add_assoc, Nat.add_assoc, Nat.add_comm 1]
      rfl

/-- A line feed and the blanks behind it are part of the text. -/
theorem readBlock_newline (k position taken : Nat) (value rest : List Char) :
    readBlock position taken value ('\n' :: List.replicate k ' ' ++ rest) =
      readBlock (position + (k + 1)) (taken + (k + 1))
        (('\n' :: List.replicate k ' ').reverse ++ value) rest := by
  have same : ('\n' :: List.replicate k ' ').reverse ++ value = List.replicate k ' ' ++ '\n' :: value := by
    simp
  rw [List.cons_append, readBlock_cons (by decide) (by decide), readBlock_blanks, same, Nat.add_assoc,
    Nat.add_assoc, Nat.add_comm 1]

section Escaped

variable {k : Nat} {stop : List Char}

/-- A quote at the front of what is written is one of the text, and no three of them stand there. -/
theorem quote_of_escaped {cs : List Char} (guarded : Guarded cs stop) {rest : List Char}
    (front : moved k (escapeTripleQuotes cs) ++ stop = '"' :: rest) :
    ∃ ds, cs = '"' :: ds ∧ rest = moved k (escapeTripleQuotes ds) ++ stop ∧
      (∀ es, ds ≠ '"' :: '"' :: es) ∧ Guarded ds stop := by
  induction cs using escapeTripleQuotes.induct with
  | case1 ds ih =>
      rw [escapeTripleQuotes, moved_cons_of_ne k (by decide)] at front
      cases front
  | case2 c ds single ih =>
      have escaped : escapeTripleQuotes (c :: ds) = c :: escapeTripleQuotes ds := by
        rw [escapeTripleQuotes]
        exact single
      rw [escaped] at front
      by_cases newline : c = '\n'
      · rw [newline, moved_newline] at front
        cases front
      · rw [moved_cons_of_ne k newline, List.cons_append, List.cons.injEq] at front
        obtain ⟨rfl, rfl⟩ := front
        exact ⟨ds, rfl, rfl, fun es => single es rfl, guarded.tail (.inl rfl)⟩
  | case3 =>
      rcases guarded with line | ⟨c, last, -⟩
      · rw [escapeTripleQuotes, moved, List.flatMap_nil, List.nil_append] at front
        rw [front] at line
        cases line
      · cases last

/-- What is written for a text is read as it. -/
theorem readBlock_escaped {cs : List Char} (guarded : cs = [] ∨ Guarded cs stop)
    (position taken : Nat) (value : List Char) :
    readBlock position taken value (moved k (escapeTripleQuotes cs) ++ stop) =
      readBlock (position + (moved k (escapeTripleQuotes cs)).length)
        (taken + (moved k (escapeTripleQuotes cs)).length) ((moved k cs).reverse ++ value) stop := by
  induction cs using escapeTripleQuotes.induct generalizing position taken value with
  | case1 rest ih =>
      have later : rest = [] ∨ Guarded rest stop := by
        rcases guarded with none | guarded
        · cases none
        · have two := (guarded.tail (.inl rfl)).tail (.inl rfl)
          exact .inr (two.tail (.inl rfl))
      have quote : ('"' : Char) ≠ '\n' := by decide
      rw [escapeTripleQuotes]
      simp only [moved_cons_of_ne k quote, moved_cons_of_ne k (show ('\\' : Char) ≠ '\n' by decide),
        List.cons_append, readBlock, ih later, List.reverse_cons, List.append_assoc, List.length_cons,
        List.nil_append]
      congr 1 <;> omega
  | case2 c rest single ih =>
      have escaped : escapeTripleQuotes (c :: rest) = c :: escapeTripleQuotes rest := by
        rw [escapeTripleQuotes]
        exact single
      have guarded : Guarded (c :: rest) stop := by
        rcases guarded with none | guarded
        · cases none
        · exact guarded
      have later := ih guarded.later
      rw [escaped]
      by_cases newline : c = '\n'
      · rw [newline, moved_newline, moved_newline, List.append_assoc, readBlock_newline, later,
          List.reverse_append, List.append_assoc, List.length_append, List.length_cons,
          List.length_replicate, Nat.add_assoc position, Nat.add_assoc taken]
      · have here : readBlock position taken value (c :: (moved k (escapeTripleQuotes rest) ++ stop)) =
            readBlock (position + 1) (taken + 1) (c :: value)
              (moved k (escapeTripleQuotes rest) ++ stop) := by
          -- Neither three quotes nor a backslash before them stand here: they would be written otherwise.
          rw [readBlock]
          · rintro more rfl same
            obtain ⟨ds, rfl, two, apart, guarded⟩ := quote_of_escaped (guarded.tail (.inl rfl)) same
            obtain ⟨es, rfl, -, -, -⟩ := quote_of_escaped guarded two.symm
            exact single es rfl rfl
          · rintro more rfl same
            obtain ⟨ds, rfl, two, apart, guarded⟩ := quote_of_escaped (guarded.tail (.inr rfl)) same
            obtain ⟨es, rfl, three, -, guarded⟩ := quote_of_escaped guarded two.symm
            obtain ⟨fs, rfl, -, -, -⟩ := quote_of_escaped guarded three.symm
            exact apart fs rfl
        rw [moved_cons_of_ne k newline, moved_cons_of_ne k newline, List.cons_append, here, later,
          List.reverse_cons, List.append_assoc, List.length_cons, Nat.add_assoc, Nat.add_assoc,
          Nat.add_comm 1]
        rfl
  | case3 => rfl

end Escaped

/-- The line feed that may stand at either end of block text, with the blanks behind it. -/
def lineStart (k : Nat) (there : Bool) : List Char := if there then '\n' :: List.replicate k ' ' else []

/-- A line feed that may be missing is moved as the start of a line. -/
theorem moved_lineFeed (k : Nat) (there : Bool) :
    moved k (if there then ['\n'] else []) = lineStart k there := by
  cases there with
  | false => rfl
  | true => exact (moved_newline k []).trans (List.append_nil _)

/-- The line feed that may stand at either end is part of the text. -/
theorem readBlock_line (k : Nat) (there : Bool) (position taken : Nat) (value rest : List Char) :
    readBlock position taken value (lineStart k there ++ rest) =
      readBlock (position + (lineStart k there).length) (taken + (lineStart k there).length)
        ((lineStart k there).reverse ++ value) rest := by
  cases there with
  | false => rfl
  | true =>
      have here := readBlock_newline k position taken value rest
      simpa [lineStart] using here

/-- What is read between triple quotes is cut into lines that are moved back to the left. -/
theorem readToken_block {position length : Nat} {rest : List Char} {ls : List (List Char)}
    (filled : ls ≠ []) (plain : ∀ l ∈ ls, Plain l)
    (read : readBlock (position + 3) 3 [] rest = .ok (joined ls, length)) :
    readToken position '"' ('"' :: '"' :: rest) =
      .ok (.blockString (String.ofList (joined (dedent ls))), length) := by
  have quotes : mark? '"' = none ∧ isNameStart '"' = false := by decide
  unfold readToken
  simp only [quotes, Bool.false_eq_true, if_false, if_true, show ('"' : Char) ≠ '.' by decide]
  refine Outcome.bind_eq_ok.2 ⟨_, read, ?_⟩
  simp only [lines_joined filled plain]
  rfl

/-- Lines without line ends are framed by such lines. -/
theorem plain_framed {k : Nat} {above below : Bool} {l : List Char} {ls : List (List Char)}
    (plain : ∀ m ∈ l :: ls, Plain m) : ∀ m ∈ framed k above below l ls, Plain m := by
  have none : Plain [] := ⟨by simp, by simp⟩
  intro m member
  unfold framed at member
  rcases List.mem_append.1 member with front | back
  · cases above with
    | true =>
        rcases List.mem_cons.1 front with rfl | there
        · exact none
        · obtain ⟨x, own, rfl⟩ := List.mem_map.1 there
          exact (plain x own).pad k
    | false =>
        rcases List.mem_cons.1 front with rfl | there
        · exact plain m List.mem_cons_self
        · obtain ⟨x, own, rfl⟩ := List.mem_map.1 there
          exact (plain x (List.mem_cons_of_mem l own)).pad k
  · cases below with
    | true => exact List.mem_singleton.1 back ▸ none.pad k
    | false => cases back

/-- Block text that is flush is a lexeme, however far its lines are moved to the right. -/
theorem exists_lexeme_of_flush {text : String} {ls : List (List Char)} (flush : Flush ls)
    (same : text.toList = joined ls) (k : Nat) :
    ∃ front, moved k (documentBlock text).toList = '"' :: front ∧ Lexeme '"' front (.blockString text) := by
  have whole : String.ofList (joined ls) = text := by rw [← same, String.ofList_toList]
  have written : (documentBlock text).toList = writeBlock (joined ls) := by
    rw [documentBlock, String.toList_ofList, same]
  rw [written]
  cases ls with
  | nil =>
      refine ⟨['"', '"', '"', '"', '"'], by rfl, by decide, by decide, fun position cs _ => ?_⟩
      have read : readBlock (position + 3) 3 [] ('"' :: '"' :: '"' :: cs) = .ok (joined [[]], 6) := by
        rw [readBlock]
        rfl
      rw [← whole]
      exact readToken_block (List.cons_ne_nil [] []) (by simp [Plain]) read
  | cons l ls =>
      obtain ⟨above, below, frame, alone, left, closes⟩ := exists_writeBlock flush
      let inner := moved k (escapeTripleQuotes (joined (l :: ls)))
      have quotes : moved k ['"', '"', '"'] = ['"', '"', '"'] := moved_of_not_mem k (by decide)
      refine ⟨['"', '"'] ++ (lineStart k above ++ (inner ++ (lineStart k below ++ ['"', '"', '"']))),
        ?_, by decide, by decide, fun position cs _ => ?_⟩
      · rw [frame]
        simp only [moved_append, moved_lineFeed, quotes, List.append_assoc]
        rfl
      · have guarded : Guarded (joined (l :: ls)) (lineStart k below ++ '"' :: '"' :: '"' :: cs) := by
          cases below with
          | true => exact .inl rfl
          | false => exact .inr (closes rfl)
        have read : readBlock (position + 3) 3 []
            (lineStart k above ++ (inner ++ (lineStart k below ++ '"' :: '"' :: '"' :: cs))) =
              .ok (joined (framed k above below l ls),
                3 + (lineStart k above).length + inner.length + (lineStart k below).length + 3) := by
          rw [readBlock_line k above, readBlock_escaped (.inr guarded), readBlock_line k below, readBlock,
            joined_framed k above below flush.plain]
          simp only [List.reverse_append, List.reverse_reverse, List.append_nil]
          rfl
        have token := readToken_block (by unfold framed; cases above <;> simp)
          (plain_framed flush.plain) read
        rw [dedent_framed flush k below alone left, whole] at token
        simp only [List.cons_append, List.nil_append, List.append_assoc, List.length_cons,
          List.length_append, List.length_nil] at token ⊢
        rw [token]
        exact congrArg (fun n => Except.ok (Token.blockString text, n)) (by omega)

end QueryTools.Lexer
