import QueryTools.Failure

/-!
# Members of an object

What stands for the members of an object where a value of any form is given: an object, or a list
of pairs of a name and a value.  In pairs the names need not be texts.  Where they are, they name
members; a `Table` holds all of them, in the order in which they came.
-/

namespace QueryTools

/-- The members of an object, in order. -/
abbrev Members := Keyed Json

/-- Values under names of any form. -/
abbrev Table := List (Json × Json)

namespace Table

/-- The whole number that a name counts as, if it does: a truth value counts as one or zero. -/
def wholeName? : Json → Option Int
  | .bool b => some (if b then 1 else 0)
  | .int n => some n
  | .float x => x.toInt?
  | _ => none

/-- Whether two names are one: texts if they are equal, numbers if they are the same number. -/
def sameName (a b : Json) : Bool :=
  match wholeName? a, wholeName? b with
  | some m, some n => m == n
  | none, none =>
    match a, b with
    | .null, .null => true
    | .str s, .str t => s == t
    | .float x, .float y => x == y
    | _, _ => false
  | _, _ => false

/-- The table with a value under a name, which keeps its place and its form if it is there. -/
def put (name value : Json) : Table → Table
  | [] => [(name, value)]
  | (k, v) :: rest => if sameName k name then (k, value) :: rest else (k, v) :: put name value rest

/-- The table that pairs from a list make, the first of them the one with the number `index`. -/
def ofPairs (index : Nat) (done : Table) : List Json → Except Failure Table
  | [] => .ok done
  | e :: rest => do
    let parts ← e.elements.mapError fun _ => .access (.notPair index)
    match parts with
    | [k, v] => ofPairs (index + 1) (put (← k.hashable.mapError .access) v done) rest
    | parts => throw (.notPairs index parts.length)

/-- The values whose names are texts. -/
def named (t : Table) : Members :=
  t.filterMap fun p => match p.1 with
    | .str s => some (s, p.2)
    | _ => none

/-- All values under the texts that show their names; of two shown alike the later counts. -/
def shown (t : Table) : Members := Keyed.ofPairs (t.map fun p => (p.1.plain, p.2))

/-- The whole table as a log shows it. -/
def display (t : Table) : String :=
  "\x7b" ++ ", ".intercalate (t.map fun p => p.1.display ++ ": " ++ p.2.display) ++ "\x7d"

end Table

/-- An object in one of several forms: as such, or as pairs of a name and a value. -/
def Table.ofJson (raw : Json) : Except Failure Table :=
  match raw with
  | .obj members => .ok (members.map fun p => (.str p.1, p.2))
  | raw => do Table.ofPairs 0 [] (← raw.elements.mapError .access)

/-- The members of an object in one of several forms; only texts name members. -/
def Members.ofJson (raw : Json) : Except Failure Members :=
  match raw with
  | .obj members => .ok members
  | raw => do return (← Table.ofJson raw).named

end QueryTools
