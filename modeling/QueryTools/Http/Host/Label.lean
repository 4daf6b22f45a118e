import QueryTools.Text.Steps

/-!
# Labels of a host

A label of a host that holds characters beyond ASCII is written in steps, behind a sign that says
so.

* `ascii_of_all_ascii` says that a label in ASCII stays as it is.
-/

namespace QueryTools.Host.Label

/-- What a label in ASCII that stands for another one begins with. -/
def sign : List Char := "xn--".toList

/-- A label in ASCII. -/
def ascii (label : List Char) : List Char :=
  if label.all (·.toNat < 0x80) then label else sign ++ Steps.write label

theorem ascii_of_all_ascii {label : List Char} (h : ∀ c ∈ label, c.toNat < 0x80) :
    ascii label = label := by
  simp only [ascii]
  exact if_pos (List.all_eq_true.2 fun c hc => decide_eq_true (h c hc))

end QueryTools.Host.Label
