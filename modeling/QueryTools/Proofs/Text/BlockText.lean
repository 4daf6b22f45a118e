import Mathlib.Data.List.Induction
import Mathlib.Data.List.TakeWhile
import QueryTools.Text.BlockText

/-!
# Lines of block text

Reading block text takes blank lines off both ends and the indentation that its lines share, so that what
is left is flush (`Text.flush_dedent`).  Flush lines that are moved to the right and put between others
that are blank come out as they were (`Text.dedent_framed`).
-/

namespace QueryTools.Text

/-- A line without marks of an end. -/
def Plain (l : List Char) : Prop := '\n' ∉ l ∧ '\r' ∉ l

/-- Lines with line feeds between them. -/
def joined (ls : List (List Char)) : List Char := ['\n'].intercalate ls

/-- Whether a character counts as indentation. -/
def indents (c : Char) : Bool := c == ' ' || c == '\t'

/-- Lines that reading block text leaves as they are. -/
structure Flush (ls : List (List Char)) : Prop where
  plain : ∀ l ∈ ls, Plain l
  first : ∀ l, ls.head? = some l → isBlankLine l = false
  last : ∀ l, ls.getLast? = some l → isBlankLine l = false
  left : ls.length ≤ 1 ∨ ∃ l ∈ ls, isBlankLine l = false ∧ indentOf l = 0

/-! ## Lines of a text -/

/-- Lines are joined by line feeds. -/
theorem joined_cons_cons (l m : List Char) (ls : List (List Char)) :
    joined (l :: m :: ls) = l ++ '\n' :: joined (m :: ls) := by
  rw [joined, List.intercalate_cons_cons, List.append_assoc]
  rfl

theorem joined_singleton (l : List Char) : joined [l] = l := by
  simp [joined]

/-- Lines may be joined in two parts. -/
theorem joined_append {ls ms : List (List Char)} (filled : ls ≠ []) (more : ms ≠ []) :
    joined (ls ++ ms) = joined ls ++ '\n' :: joined ms := by
  induction ls with
  | nil => exact absurd rfl filled
  | cons l rest ih =>
      cases rest with
      | nil =>
          cases ms with
          | nil => exact absurd rfl more
          | cons m ms => rw [List.singleton_append, joined_cons_cons, joined_singleton]
      | cons k rest =>
          have later := ih (List.cons_ne_nil k rest)
          rw [List.cons_append, List.cons_append, joined_cons_cons, ← List.cons_append, later,
            joined_cons_cons, List.append_assoc]
          rfl

/-- Characters of a line are taken up one by one. -/
theorem linesFrom_plain {l : List Char} (plain : Plain l) (before rest : List Char) :
    linesFrom before (l ++ rest) = linesFrom (l.reverse ++ before) rest := by
  induction l generalizing before with
  | nil => rfl
  | cons c more ih =>
      obtain ⟨line, return_⟩ := plain
      simp only [List.mem_cons, not_or] at line return_
      have later := ih ⟨line.2, return_.2⟩ (c :: before)
      rw [List.reverse_cons, List.append_assoc, List.singleton_append, List.cons_append, linesFrom, later]
      · exact fun _ same _ => return_.1 same.symm
      · exact fun same => return_.1 same.symm
      · exact fun same => line.1 same.symm

/-- A line feed ends a line. -/
theorem linesFrom_append {l : List Char} (plain : Plain l) (before rest : List Char) :
    linesFrom before (l ++ '\n' :: rest) = (before.reverse ++ l) :: linesFrom [] rest := by
  rw [linesFrom_plain plain, linesFrom, List.reverse_append, List.reverse_reverse]

/-- The last line ends with the text. -/
theorem linesFrom_of_plain {l : List Char} (plain : Plain l) (before : List Char) :
    linesFrom before l = [before.reverse ++ l] := by
  have whole := linesFrom_plain plain before []
  rw [List.append_nil, linesFrom, List.reverse_append, List.reverse_reverse] at whole
  exact whole

/-- Joined lines are cut where they were joined. -/
theorem lines_joined {ls : List (List Char)} (filled : ls ≠ []) (plain : ∀ l ∈ ls, Plain l) :
    lines (joined ls) = ls := by
  induction ls with
  | nil => exact absurd rfl filled
  | cons l rest ih =>
      have here := plain l List.mem_cons_self
      cases rest with
      | nil =>
          rw [joined_singleton, lines, linesFrom_of_plain here]
          rfl
      | cons m more =>
          have later := ih (List.cons_ne_nil m more) fun x member => plain x (List.mem_cons_of_mem l member)
          rw [lines] at later
          rw [joined_cons_cons, lines, linesFrom_append here, later]
          rfl

/-- No line of a text holds a line end. -/
theorem plain_of_mem_linesFrom {before cs : List Char} (plain : Plain before.reverse) {l : List Char}
    (member : l ∈ linesFrom before cs) : Plain l := by
  have none : Plain ([] : List Char).reverse := ⟨by simp, by simp⟩
  induction before, cs using linesFrom.induct with
  | case1 before => exact List.mem_singleton.1 (by simpa [linesFrom] using member) ▸ plain
  | case2 before rest ih =>
      rw [linesFrom] at member
      rcases List.mem_cons.1 member with rfl | later
      · exact plain
      · exact ih none later
  | case3 before rest other ih =>
      rw [linesFrom] at member
      · rcases List.mem_cons.1 member with rfl | later
        · exact plain
        · exact ih none later
      · exact other
  | case4 before rest ih =>
      rw [linesFrom] at member
      rcases List.mem_cons.1 member with rfl | later
      · exact plain
      · exact ih none later
  | case5 before c rest two return_ line ih =>
      rw [linesFrom] at member
      · refine ih ?_ member
        obtain ⟨first, second⟩ := plain
        rw [List.reverse_cons]
        constructor
        · simpa [first] using fun same => line same.symm
        · simpa [second] using fun same => return_ same.symm
      · exact two
      · exact return_
      · exact line

/-- The lines of a text are plain. -/
theorem plain_of_mem_lines {cs l : List Char} (member : l ∈ lines cs) : Plain l :=
  plain_of_mem_linesFrom ⟨by simp, by simp⟩ member

/-! ## Indentation -/

/-- A line is blank just if each character of it indents. -/
theorem isBlankLine_iff {l : List Char} : isBlankLine l = true ↔ ∀ c ∈ l, indents c = true := by
  have whole : isBlankLine l = true ↔ (l.takeWhile indents).length = l.length := beq_iff_eq
  have pre := List.takeWhile_prefix (l := l) indents
  rw [whole, ← List.takeWhile_eq_self_iff]
  exact ⟨pre.eq_of_length, fun same => by rw [same]⟩

/-- What a line is after its indentation, where it is not blank. -/
theorem exists_of_not_blank {l : List Char} (filled : isBlankLine l = false) :
    ∃ c rest, l = l.takeWhile indents ++ c :: rest ∧ indents c = false := by
  have first := List.head?_dropWhile_not indents l
  have whole := (List.takeWhile_append_dropWhile (p := indents) (l := l)).symm
  cases left : l.dropWhile indents with
  | nil =>
      rw [left, List.append_nil] at whole
      have blank := isBlankLine_iff.2 (List.takeWhile_eq_self_iff.1 whole.symm)
      rw [filled] at blank
      cases blank
  | cons c rest =>
      rw [left] at first whole
      exact ⟨c, rest, whole, by simpa using first⟩

/-- A line is indented by what stands before its first other character. -/
theorem indentOf_append {blanks rest : List Char} {c : Char} (all : ∀ b ∈ blanks, indents b = true)
    (other : indents c = false) :
    indentOf (blanks ++ c :: rest) = blanks.length ∧ isBlankLine (blanks ++ c :: rest) = false := by
  have taken : (blanks ++ c :: rest).takeWhile indents = blanks := by
    rw [List.takeWhile_append_of_pos all, List.takeWhile_cons, other]
    simp
  have indent : indentOf (blanks ++ c :: rest) = blanks.length := congrArg List.length taken
  refine ⟨indent, ?_⟩
  rw [isBlankLine, indent]
  simp

/-- A line that is not blank keeps what is left of its indentation. -/
theorem drop_of_not_blank {l : List Char} (filled : isBlankLine l = false) {n : Nat}
    (within : n ≤ indentOf l) :
    isBlankLine (l.drop n) = false ∧ indentOf (l.drop n) = indentOf l - n := by
  obtain ⟨c, rest, split, other⟩ := exists_of_not_blank filled
  have indent : indentOf l = (l.takeWhile indents).length := rfl
  have dropped : l.drop n = (l.takeWhile indents).drop n ++ c :: rest := by
    conv_lhs => rw [split]
    exact List.drop_append_of_le_length (indent ▸ within)
  have all : ∀ b ∈ (l.takeWhile indents).drop n, indents b = true := fun b member =>
    List.mem_takeWhile_imp (List.mem_of_mem_drop member)
  have known : indentOf ((l.takeWhile indents).drop n ++ c :: rest) = _ ∧
      isBlankLine ((l.takeWhile indents).drop n ++ c :: rest) = false := indentOf_append all other
  rw [dropped, known.1, known.2, List.length_drop, indent]
  exact ⟨rfl, rfl⟩

/-- A blank line stays blank where something is cut from it. -/
theorem drop_of_blank {l : List Char} (blank : isBlankLine l = true) (n : Nat) :
    isBlankLine (l.drop n) = true :=
  isBlankLine_iff.2 fun c member => isBlankLine_iff.1 blank c (List.mem_of_mem_drop member)

/-- A line more lowers the common indent, if it is not blank and indented less. -/
theorem commonIndent_concat (ls : List (List Char)) (l : List Char) :
    commonIndent (ls ++ [l]) = if isBlankLine l then commonIndent ls
      else some (match commonIndent ls with
        | none => indentOf l
        | some n => min n (indentOf l)) := by
  unfold commonIndent
  rw [List.foldl_append]
  rfl

/-- Without a common indentation all lines are blank. -/
theorem blank_of_commonIndent {ls : List (List Char)} (none : commonIndent ls = none) :
    ∀ l ∈ ls, isBlankLine l = true := by
  induction ls using List.reverseRecOn with
  | nil => simp
  | append_singleton ls l ih =>
      rw [commonIndent_concat] at none
      split at none
      · rename_i blank
        intro m member
        rcases List.mem_append.1 member with before | last
        · exact ih none m before
        · exact List.mem_singleton.1 last ▸ blank
      · cases none

/-- The common indentation is that of some line, and no line that is not blank has less. -/
theorem least_of_commonIndent {ls : List (List Char)} {n : Nat} (some_ : commonIndent ls = some n) :
    (∃ l ∈ ls, isBlankLine l = false ∧ indentOf l = n) ∧
      ∀ l ∈ ls, isBlankLine l = false → n ≤ indentOf l := by
  induction ls using List.reverseRecOn generalizing n with
  | nil => cases some_
  | append_singleton ls l ih =>
      rw [commonIndent_concat] at some_
      have split_ : ∀ m ∈ ls ++ [l], m ∈ ls ∨ m = l := fun m member =>
        (List.mem_append.1 member).imp_right List.mem_singleton.1
      have last : l ∈ ls ++ [l] := List.mem_append_right ls (List.mem_singleton.2 rfl)
      split at some_
      · rename_i blank
        obtain ⟨⟨m, member, known⟩, least⟩ := ih some_
        refine ⟨⟨m, List.mem_append_left _ member, known⟩, fun k there filled => ?_⟩
        rcases split_ k there with before | rfl
        · exact least k before filled
        · rw [blank] at filled
          cases filled
      · rename_i filled
        rw [Bool.not_eq_true] at filled
        cases common : commonIndent ls with
        | none =>
            have blank := blank_of_commonIndent common
            rw [common] at some_
            cases some_
            refine ⟨⟨l, last, filled, rfl⟩, fun k there other => ?_⟩
            rcases split_ k there with before | rfl
            · rw [blank k before] at other
              cases other
            · exact Nat.le_refl _
        | some m =>
            obtain ⟨⟨k, member, known⟩, least⟩ := ih common
            have value : n = min m (indentOf l) := by
              rw [common] at some_
              exact (Option.some.inj some_).symm
            rw [value]
            constructor
            · by_cases less : m ≤ indentOf l
              · rw [Nat.min_eq_left less]
                exact ⟨k, List.mem_append_left _ member, known⟩
              · rw [Nat.min_eq_right (by omega)]
                exact ⟨l, last, filled, rfl⟩
            · intro k there other
              rcases split_ k there with before | rfl
              · exact Nat.le_trans (Nat.min_le_left _ _) (least k before other)
              · exact Nat.min_le_right _ _

/-- Blank lines have no common indent. -/
theorem commonIndent_eq_none {ls : List (List Char)} (blank : ∀ l ∈ ls, isBlankLine l = true) :
    commonIndent ls = none := by
  cases common : commonIndent ls with
  | none => rfl
  | some n =>
      obtain ⟨⟨l, member, filled, -⟩, -⟩ := least_of_commonIndent common
      rw [blank l member] at filled
      cases filled

/-- The common indent is the least one of the lines that are not blank. -/
theorem commonIndent_eq_some {ls : List (List Char)} {n : Nat}
    (reached : ∃ l ∈ ls, isBlankLine l = false ∧ indentOf l = n)
    (least : ∀ l ∈ ls, isBlankLine l = false → n ≤ indentOf l) : commonIndent ls = some n := by
  obtain ⟨l, member, filled, indent⟩ := reached
  cases common : commonIndent ls with
  | none =>
      have blank := blank_of_commonIndent common l member
      rw [filled] at blank
      cases blank
  | some m =>
      obtain ⟨⟨k, there, other, same⟩, below⟩ := least_of_commonIndent common
      have most := below l member filled
      have more := least k there other
      exact congrArg some (by omega)

/-! ## Blank lines at the ends -/

/-- Lines without the blank ones at either end. -/
def unblanked (ls : List (List Char)) : List (List Char) :=
  ((ls.dropWhile isBlankLine).reverse.dropWhile isBlankLine).reverse

/-- The first line is not dedented, the others are by their common indent. -/
theorem dedent_cons (first : List Char) (rest : List (List Char)) :
    dedent (first :: rest) = unblanked (first :: rest.map (List.drop ((commonIndent rest).getD 0))) := rfl

/-- What is taken off are blank lines. -/
theorem exists_unblanked (ls : List (List Char)) :
    ∃ before behind, ls = before ++ unblanked ls ++ behind ∧
      (∀ l ∈ before, isBlankLine l = true) ∧ ∀ l ∈ behind, isBlankLine l = true := by
  refine ⟨ls.takeWhile isBlankLine, ((ls.dropWhile isBlankLine).reverse.takeWhile isBlankLine).reverse,
    ?_, fun l member => List.mem_takeWhile_imp member, fun l member => ?_⟩
  · rw [List.append_assoc, unblanked, ← List.reverse_append, List.takeWhile_append_dropWhile,
      List.reverse_reverse, List.takeWhile_append_dropWhile]
  · exact List.mem_takeWhile_imp (List.mem_reverse.1 member)

/-- Dropping blank lines at both ends makes no lines. -/
theorem mem_of_mem_unblanked {ls : List (List Char)} {l : List Char} (member : l ∈ unblanked ls) :
    l ∈ ls := by
  obtain ⟨before, behind, split, -, -⟩ := exists_unblanked ls
  rw [split]
  exact List.mem_append_left _ (List.mem_append_right _ member)

/-- A line that is not blank is kept. -/
theorem mem_unblanked_of_not_blank {ls : List (List Char)} {l : List Char} (member : l ∈ ls)
    (filled : isBlankLine l = false) : l ∈ unblanked ls := by
  obtain ⟨before, behind, split, blank, blanks⟩ := exists_unblanked ls
  rw [split] at member
  rcases List.mem_append.1 member with front | back
  · rcases List.mem_append.1 front with off | there
    · rw [blank l off] at filled
      cases filled
    · exact there
  · rw [blanks l back] at filled
    cases filled

/-- The last line that is kept is not blank. -/
theorem last_unblanked {ls : List (List Char)} {l : List Char}
    (last : (unblanked ls).getLast? = some l) : isBlankLine l = false := by
  have other := List.head?_dropWhile_not isBlankLine (ls.dropWhile isBlankLine).reverse
  rw [unblanked, List.getLast?_reverse] at last
  rw [last] at other
  exact other

/-- The first line that is kept is not blank. -/
theorem first_unblanked {ls : List (List Char)} {l : List Char}
    (first : (unblanked ls).head? = some l) : isBlankLine l = false := by
  have other := List.head?_dropWhile_not isBlankLine ls
  -- What is taken off behind leaves the first line, if any line is left.
  have pre : unblanked ls <+: ls.dropWhile isBlankLine := by
    have suffix := List.dropWhile_suffix (l := (ls.dropWhile isBlankLine).reverse) isBlankLine
    have turned := List.reverse_prefix.2 suffix
    rwa [List.reverse_reverse] at turned
  obtain ⟨rest, whole⟩ := pre
  cases left : unblanked ls with
  | nil =>
      rw [left] at first
      cases first
  | cons m more =>
      rw [left] at first whole
      cases first
      rw [← whole] at other
      exact other

/-- Blank lines around lines of which neither the first nor the last is blank. -/
theorem unblanked_append {before ls behind : List (List Char)}
    (blank : ∀ l ∈ before, isBlankLine l = true) (blanks : ∀ l ∈ behind, isBlankLine l = true)
    (filled : ls ≠ []) (first : ∀ l, ls.head? = some l → isBlankLine l = false)
    (last : ∀ l, ls.getLast? = some l → isBlankLine l = false) :
    unblanked (before ++ ls ++ behind) = ls := by
  have stops : ∀ {ms : List (List Char)}, ms ≠ [] → (∀ l, ms.head? = some l → isBlankLine l = false) →
      ∀ rest, (ms ++ rest).dropWhile isBlankLine = ms ++ rest := by
    intro ms filled first rest
    cases ms with
    | nil => exact absurd rfl filled
    | cons m more => simp [first m rfl]
  unfold unblanked
  rw [List.append_assoc, List.dropWhile_append_of_pos blank, stops filled first, List.reverse_append,
    List.dropWhile_append_of_pos fun l member => blanks l (List.mem_reverse.1 member)]
  have turned : ls.reverse ≠ [] := by simpa using filled
  have kept := stops turned (fun l head => last l (by rwa [List.head?_reverse] at head)) []
  rw [List.append_nil] at kept
  rw [kept, List.reverse_reverse]

/-- Where all lines but the first are blank, the first alone is left at most. -/
theorem length_unblanked_le_one {l : List Char} {ls : List (List Char)}
    (blank : ∀ m ∈ ls, isBlankLine m = true) : (unblanked (l :: ls)).length ≤ 1 := by
  cases here : isBlankLine l with
  | true =>
      have all : ∀ m ∈ l :: ls, isBlankLine m = true := by
        intro m member
        rcases List.mem_cons.1 member with rfl | there
        · exact here
        · exact blank m there
      cases last : (unblanked (l :: ls)).getLast? with
      | none =>
          rw [List.getLast?_eq_none_iff.1 last]
          exact Nat.zero_le 1
      | some m =>
          have there := all m (mem_of_mem_unblanked (List.mem_of_getLast? last))
          rw [last_unblanked last] at there
          cases there
  | false =>
      have whole : unblanked ([] ++ [l] ++ ls) = [l] :=
        unblanked_append (List.forall_mem_nil _) blank (List.cons_ne_nil l [])
          (by simpa using here) (by simpa using here)
      rw [List.nil_append, List.singleton_append] at whole
      rw [whole]
      exact Nat.le_refl 1

/-! ## What reading gives -/

theorem Plain.drop {l : List Char} (plain : Plain l) (n : Nat) : Plain (l.drop n) :=
  ⟨fun met => plain.1 (List.mem_of_mem_drop met), fun met => plain.2 (List.mem_of_mem_drop met)⟩

/-- What is left of plain lines is flush. -/
theorem flush_dedent {ls : List (List Char)} (plain : ∀ l ∈ ls, Plain l) : Flush (dedent ls) := by
  cases ls with
  | nil => exact ⟨by simp [dedent], by simp [dedent], by simp [dedent], .inl (by simp [dedent])⟩
  | cons head rest =>
      rw [dedent_cons]
      refine ⟨fun l member => ?_, fun l => first_unblanked, fun l => last_unblanked, ?_⟩
      · rcases List.mem_cons.1 (mem_of_mem_unblanked member) with rfl | there
        · exact plain l List.mem_cons_self
        · obtain ⟨m, own, rfl⟩ := List.mem_map.1 there
          exact (plain m (List.mem_cons_of_mem head own)).drop _
      · cases common : commonIndent rest with
        | none =>
            refine .inl (length_unblanked_le_one fun m member => ?_)
            obtain ⟨l, own, rfl⟩ := List.mem_map.1 member
            exact drop_of_blank (blank_of_commonIndent common l own) _
        | some n =>
            obtain ⟨⟨l, own, filled, indent⟩, -⟩ := least_of_commonIndent common
            obtain ⟨kept, left⟩ := drop_of_not_blank filled (Nat.le_of_eq indent.symm)
            have member : l.drop n ∈ head :: rest.map (List.drop n) :=
              List.mem_cons_of_mem head (List.mem_map_of_mem own)
            refine .inr ⟨l.drop n, mem_unblanked_of_not_blank member kept, kept, ?_⟩
            rw [left, indent, Nat.sub_self]

/-! ## Lines moved to the right -/

/-- A line moved to the right. -/
def pad (k : Nat) (l : List Char) : List Char := List.replicate k ' ' ++ l

/-- Padding indents a line further. -/
theorem indentOf_pad (k : Nat) (l : List Char) : indentOf (pad k l) = k + indentOf l := by
  have blank : ∀ c ∈ List.replicate k ' ', indents c = true := by
    intro c member
    rw [List.eq_of_mem_replicate member]
    rfl
  have begins : (List.replicate k ' ' ++ l).takeWhile indents = List.replicate k ' ' ++ l.takeWhile indents :=
    List.takeWhile_append_of_pos blank
  have taken := congrArg List.length begins
  rw [List.length_append, List.length_replicate] at taken
  exact taken

/-- Padding leaves blank lines blank and others not. -/
theorem isBlankLine_pad (k : Nat) (l : List Char) : isBlankLine (pad k l) = isBlankLine l := by
  rw [isBlankLine, isBlankLine, indentOf_pad, pad, List.length_append, List.length_replicate,
    Bool.eq_iff_iff, beq_iff_eq, beq_iff_eq]
  omega

/-- Padding puts no line end into a line. -/
theorem Plain.pad {l : List Char} (plain : Plain l) (k : Nat) : Plain (pad k l) := by
  obtain ⟨line, return_⟩ := plain
  constructor
  · simpa [Text.pad] using line
  · simpa [Text.pad] using return_

theorem drop_pad (k : Nat) (l : List Char) : (pad k l).drop k = l := by
  rw [pad, List.drop_append_of_le_length (by simp), List.drop_replicate]
  simp

/-- Lines between quotes, moved to the right: they begin behind the opening quotes or below them, and the
closing quotes stand behind the last line or below it. -/
def framed (k : Nat) (above below : Bool) (l : List Char) (ls : List (List Char)) : List (List Char) :=
  (if above then [] :: (l :: ls).map (pad k) else l :: ls.map (pad k)) ++ if below then [pad k []] else []

/-- Lines that are moved to the right share what they are moved by, if one of them had no indentation. -/
theorem commonIndent_pad {ls tail : List (List Char)} (k : Nat)
    (reached : ∃ l ∈ ls, isBlankLine l = false ∧ indentOf l = 0)
    (blank : ∀ l ∈ tail, isBlankLine l = true) : commonIndent (ls.map (pad k) ++ tail) = some k := by
  refine commonIndent_eq_some ?_ fun m member filled => ?_
  · obtain ⟨m, member, filled, indent⟩ := reached
    refine ⟨pad k m, List.mem_append_left _ (List.mem_map_of_mem member), ?_, ?_⟩
    · rw [isBlankLine_pad, filled]
    · rw [indentOf_pad, indent, Nat.add_zero]
  · rcases List.mem_append.1 member with there | back
    · obtain ⟨x, -, rfl⟩ := List.mem_map.1 there
      rw [indentOf_pad]
      exact Nat.le_add_right k _
    · rw [blank m back] at filled
      cases filled

/-- Flush lines come out as they were.  Those behind the opening quotes keep their indentation, and below
them one is flush. -/
theorem dedent_framed {l : List Char} {ls : List (List Char)} (flush : Flush (l :: ls)) (k : Nat)
    {above : Bool} (below : Bool) (alone : above = false → ls = [])
    (left : above = true → ls = [] → indentOf l = 0) :
    dedent (framed k above below l ls) = l :: ls := by
  have blank : isBlankLine (pad k []) = true := by
    rw [isBlankLine_pad]
    rfl
  have blanks : ∀ n, ∀ m ∈ (if below then [pad k []] else []).map (List.drop n), isBlankLine m = true := by
    intro n m member
    obtain ⟨x, there, rfl⟩ := List.mem_map.1 member
    cases below with
    | false => cases there
    | true => exact drop_of_blank (List.mem_singleton.1 there ▸ blank) n
  unfold framed
  generalize (if below then [pad k []] else []) = tail at blanks
  cases above with
  | false =>
      have bare : ∀ m ∈ tail, isBlankLine m = true := by simpa using blanks 0
      rw [alone rfl] at flush ⊢
      simp only [Bool.false_eq_true, if_false, List.map_nil, List.cons_append, List.nil_append]
      rw [dedent_cons, commonIndent_eq_none bare]
      have whole := unblanked_append (List.forall_mem_nil _) (blanks 0) (List.cons_ne_nil l [])
        flush.first flush.last
      exact whole
  | true =>
      have reached : ∃ m ∈ l :: ls, isBlankLine m = false ∧ indentOf m = 0 := by
        rcases flush.left with short | found
        · have none : ls = [] := by
            cases ls with
            | nil => rfl
            | cons _ _ => simp at short
          exact ⟨l, List.mem_cons_self, flush.first l rfl, left rfl none⟩
        · exact found
      have common := commonIndent_pad k reached (by simpa using blanks 0)
      have back : ((l :: ls).map (pad k) ++ tail).map (List.drop k) = l :: ls ++ tail.map (List.drop k) := by
        have same : List.drop k ∘ pad k = id := funext (drop_pad k)
        rw [List.map_append, List.map_map, same, List.map_id]
      simp only [if_true]
      rw [List.cons_append, dedent_cons, common, Option.getD_some, back]
      have bare : ∀ m ∈ [([] : List Char)], isBlankLine m = true := by simp [isBlankLine, indentOf]
      exact unblanked_append bare (blanks k) (List.cons_ne_nil l ls) flush.first flush.last

end QueryTools.Text
