import QueryTools.Text.Blank

/-!
# Suggestions for a misspelt name

Names close to one that is not known.  Closeness is the number of single-character insertions,
deletions, substitutions and swaps of neighbours that lead from one name to the other; a change of
case alone counts once.
-/

namespace QueryTools.Text

/-- The next row of the table of distances.  `a` is the new character and `before` the one before
it; `two` and `one` are the two rows above; `left` is the entry to the left. -/
def distanceRow (a : Char) (before : Option Char) :
    (bs : List Char) → (previous : Option Char) → (two one : List Nat) → (left : Nat) → List Nat
  | b :: bs, previous, two, diagonal :: up :: one, left =>
    let cost := if a = b then 0 else 1
    let cell := min (min (up + 1) (left + 1)) (diagonal + cost)
    let cell := match before, previous, two with
      | some a', some b', d :: _ => if a = b' ∧ a' = b then min cell (d + 1) else cell
      | _, _, _ => cell
    let two := if previous.isSome then two.drop 1 else two
    cell :: distanceRow a before bs (some b) two (up :: one) cell
  | _, _, _, _, _ => []

/-- The last entry of the table of distances, from a row on. -/
def distanceFrom (bs : List Char) (row : Nat) (before : Option Char) (two one : List Nat) :
    List Char → Nat
  | [] => one.getLastD 0
  | a :: as =>
    let next := (row + 1) :: distanceRow a before bs none two one (row + 1)
    distanceFrom bs (row + 1) (some a) one next as

/-- The number of edits between two texts. -/
def editDistance (as bs : List Char) : Nat :=
  distanceFrom bs 0 none [] (List.range (bs.length + 1)) as

/-- The closeness of an option to a name, if it is close enough. -/
def closeness? (name option : String) : Option Nat :=
  if name = option then some 0
  else if lower name = lower option then some 1
  else
    let threshold := 2 * name.length / 5 + 1
    let d := editDistance (lower option).toList (lower name).toList
    if d ≤ threshold then some d else none

/-- A text cut into runs of digits and runs of other characters, digits as their value. -/
def naturalKey (cs : List Char) : List (Option Nat × List Char) :=
  let step := fun (acc : List (Option Nat × List Char)) (c : Char) =>
    if c.isDigit then
      let d := c.toNat - '0'.toNat
      match acc with
      | (some n, _) :: rest => (some (10 * n + d), []) :: rest
      | acc => (some d, []) :: acc
    else
      match acc with
      | (none, run) :: rest => (none, run ++ [c]) :: rest
      | acc => (none, [c]) :: acc
  (cs.foldl step []).reverse

/-- Whether one cut text comes before another: numbers by value, other runs letter by letter. -/
def naturalLess : List (Option Nat × List Char) → List (Option Nat × List Char) → Bool
  | [], [] => false
  | [], _ :: _ => true
  | _ :: _, [] => false
  | (some m, _) :: as, (some n, _) :: bs => m < n || (m == n && naturalLess as bs)
  | (none, r) :: as, (none, s) :: bs => decide (r < s) || (r == s && naturalLess as bs)
  | (some _, _) :: _, (none, _) :: _ => true
  | (none, _) :: _, (some _, _) :: _ => false

/-- The options close to a name, the closest first, equally close ones in natural order. -/
def suggestions (name : String) (options : List String) : List String :=
  let close := options.eraseDups.filterMap fun o => (closeness? name o).map fun d => (d, o)
  let before := fun (x y : Nat × String) =>
    decide (x.1 < y.1) || (x.1 == y.1 && !naturalLess (naturalKey y.2.toList) (naturalKey x.2.toList))
  (close.mergeSort before).map Prod.snd

/-- Alternatives in a sentence: `a`, `a or b`, `a, b, or c`. -/
def alternatives : List String → String
  | [] => ""
  | [a] => a
  | [a, b] => a ++ " or " ++ b
  | a :: b :: c :: rest =>
    let all := a :: b :: c :: rest
    ", ".intercalate all.dropLast ++ ", or " ++ all.getLastD ""

/-- The question that ends a message about an unknown name, where there is something to suggest. -/
def didYouMean (name : String) (options : List String) : String :=
  match (suggestions name options).take 5 with
  | [] => ""
  | found => " Did you mean " ++ alternatives (found.map fun s => "'" ++ s ++ "'") ++ "?"

end QueryTools.Text
