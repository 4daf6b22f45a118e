import QueryTools.Proofs.Language.Numerals
import QueryTools.Proofs.Text.BlockText

/-!
# The tokens that a text gives

Whatever a text is, the names that it gives are names, its numbers are spelled as numbers are, and its
block text is flush (`Tokens.spelled_ofChars`).
-/

namespace QueryTools

open Text Lexer

/-- What is known of a token that was read. -/
def Token.Spelled : Token → Prop
  | .name text => isName text = true
  | .int text => Numeral text.toList (.int text)
  | .float text => Numeral text.toList (.float text)
  | .blockString text => ∃ ls, Flush ls ∧ text.toList = joined ls
  | _ => True

namespace Lexer

theorem spelled_of_mark? {c : Char} {t : Token} (marks : mark? c = some t) : t.Spelled := by
  unfold mark? at marks
  split at marks <;> cases marks <;> trivial

/-- Dots are spelled as themselves. -/
theorem spelled_of_readDots {position n : Nat} {cs : List Char} {t : Token}
    (read : readDots position cs = .ok (t, n)) : t.Spelled := by
  unfold readDots at read
  split at read
  · cases read
    trivial
  · cases read
  · split at read <;> cases read

/-- A number that is read is spelled as numbers are. -/
theorem spelled_of_readNumber {position n : Nat} {cs : List Char} {t : Token}
    (read : readNumber position cs = .ok (t, n)) : t.Spelled := by
  obtain ⟨text, numeral⟩ := exists_numeral_of_readNumber read
  rcases numeral.int_or_float with rfl | rfl
  · rwa [Token.Spelled, String.toList_ofList]
  · rwa [Token.Spelled, String.toList_ofList]

/-- What is read between triple quotes is flush. -/
theorem spelled_dedent (cs : List Char) :
    (Token.blockString (String.ofList (joined (dedent (lines cs))))).Spelled :=
  ⟨dedent (lines cs), flush_dedent fun _ => plain_of_mem_lines, String.toList_ofList⟩

/-- Each token that is read is spelled as its kind is. -/
theorem spelled_of_readToken {position n : Nat} {c : Char} {rest : List Char} {t : Token}
    (read : readToken position c rest = .ok (t, n)) : t.Spelled := by
  unfold readToken at read
  cases marks : mark? c with
  | some u =>
      simp only [marks, Except.ok.injEq, Prod.mk.injEq] at read
      exact read.1 ▸ spelled_of_mark? marks
  | none =>
      simp only [marks] at read
      by_cases start : isNameStart c = true
      · simp only [start, if_true, Except.ok.injEq, Prod.mk.injEq] at read
        rw [← read.1]
        simp [Token.Spelled, isName, start, List.all_takeWhile]
      · simp only [start, Bool.false_eq_true, if_false] at read
        split at read
        · exact spelled_of_readDots read
        · split at read
          · split at read
            · obtain ⟨⟨raw, length⟩, -, read⟩ := Outcome.bind_eq_ok.1 read
              cases read
              exact spelled_dedent raw
            · obtain ⟨⟨text, length⟩, -, read⟩ := Outcome.bind_eq_ok.1 read
              cases read
              trivial
          · split at read
            · exact spelled_of_readNumber read
            · split at read <;> cases read

end Lexer

namespace Tokens

/-- Every token is as it can be read. -/
def Spelled : Tokens → Prop
  | .last _ => True
  | .fault _ _ => True
  | .cons _ t rest => t.Spelled ∧ rest.Spelled

/-- All tokens that a text gives are spelled as their kinds are. -/
theorem spelled_scan (mode : Mode) (position : Nat) (cs : List Char) :
    (scan mode position cs).Spelled := by
  induction cs generalizing mode position with
  | nil => simp [scan, Spelled]
  | cons c rest ih =>
      unfold scan
      split
      · exact ih _ _
      · exact ih _ _
      · split
        · exact ih _ _
        · split
          · exact ih _ _
          · split
            · rename_i t n read
              exact ⟨spelled_of_readToken read, ih _ _⟩
            · trivial

/-- The tokens of any text are as they can be read. -/
theorem spelled_ofChars (cs : List Char) : (ofChars cs).Spelled := spelled_scan .ready 0 cs

end Tokens

end QueryTools
