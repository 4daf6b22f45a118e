import QueryTools.Http.Host.Direction
import QueryTools.Http.Host.Folding
import QueryTools.Http.Host.Joiners
import QueryTools.Http.Host.Label
import QueryTools.Text.Composition

/-!
# Names of hosts

The name of a host in ASCII.  Its characters are folded and composed, and each of its labels has to
be one that readers cannot mistake: it does not begin with a mark, its joiners and its directions
keep to their rules, and what is written in ASCII for another label is written for one that could
stand there itself.

Main statement: a name in small letters of ASCII stays as it is (`asciiLabel?_of_plain`).
-/

namespace QueryTools.Host

/-- The most characters that a label beyond ASCII can have. -/
def longestLabel : Nat := 1000

/-- The most characters that a label can have that is written in ASCII for another one. -/
def longestSteps : Nat := 2000

/-- The characters that a name cannot hold. -/
def deniedChars : List Char :=
  [' ', '#', '%', '/', ':', '<', '>', '?', '@', '[', '\\', ']', '^', '|', '\x7f']

/-- Whether a name can hold a character. -/
def isAllowed (c : Char) : Bool := !(c.toNat ≤ 0x1f || deniedChars.contains c)

/-- The label that folded characters stand for, unless they are written for a label that could not
stand there. -/
def meaning? (label : List Char) : Option (List Char) :=
  if Label.sign.isPrefixOf label then do
    let steps := label.drop Label.sign.length
    let read ← Steps.read? steps
    if steps.length ≤ longestSteps && read.any (0x80 ≤ ·.toNat) && read.all isPlain
        && Text.composed read == read then some read
    else none
  else some label

/-- Whether a label can be shown to readers. -/
def isReadable (label : List Char) : Bool :=
  !(label.head?.any Text.isMark) && keepsJoiners label

/-- A folded label in ASCII, if it can stand in a name. -/
def asciiLabel? (label : List Char) : Option (List Char) :=
  if label.all isAllowed then
    if label.all (·.toNat < 0x80) || label.length ≤ longestLabel then some (Label.ascii label)
    else none
  else none

/-- The name of a host in ASCII, if there can be such a name. -/
def name? (cs : List Char) : Option (List Char) := do
  let folded ← cs.mapM fold?
  let labels := Text.splitChars '.' (Text.composed folded.flatten)
  let meanings ← labels.mapM meaning?
  if meanings.all isReadable && (!meanings.any isLeftward || meanings.all keepsDirection) then
    return ['.'].intercalate (← labels.mapM asciiLabel?)
  else none

theorem asciiLabel?_of_plain {label : List Char} (h : ∀ c ∈ label, c.toNat < 0x80)
    (allowed : label.all isAllowed = true) : asciiLabel? label = some label := by
  have hall : (label.all fun c => decide (c.toNat < 0x80)) = true :=
    List.all_eq_true.2 fun c hc => decide_eq_true (h c hc)
  simp [asciiLabel?, allowed, hall, Label.ascii_of_all_ascii h]

end QueryTools.Host
