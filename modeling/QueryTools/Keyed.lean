/-!
# Keyed lists

Lists of pairs of a name and a value in which order matters: the members of an object, the
headers of a request, the tools of a toolset.  `put` overwrites in place and appends a new name
at the end, so the order is that of first insertion.
-/

namespace QueryTools

/-- Values under names, in order. -/
abbrev Keyed (α : Type) := List (String × α)

namespace Keyed

variable {α β : Type}

/-- The value of a name, if it occurs. -/
def get? (name : String) : Keyed α → Option α
  | [] => none
  | (k, v) :: rest => if k = name then some v else get? name rest

/-- Whether a name occurs. -/
def has (name : String) (xs : Keyed α) : Bool := (get? name xs).isSome

/-- The names, in order. -/
def names (xs : Keyed α) : List String := xs.map Prod.fst

/-- The list with a value under a name: in the name's place if it has one, else at the end. -/
def put (name : String) (value : α) : Keyed α → Keyed α
  | [] => [(name, value)]
  | (k, v) :: rest => if k = name then (k, value) :: rest else (k, v) :: put name value rest

/-- The list with every pair of another one put into it, from first to last. -/
def merge (xs ys : Keyed α) : Keyed α := ys.foldl (fun acc p => put p.1 p.2 acc) xs

/-- Pairs in any order with repetitions, each name kept at its first place with its last value. -/
def ofPairs (ps : List (String × α)) : Keyed α := merge [] ps

/-- The list with every value changed. -/
def mapValues (f : α → β) (xs : Keyed α) : Keyed β := xs.map fun p => (p.1, f p.2)

@[simp] theorem get?_nil (name : String) : get? name ([] : Keyed α) = none := rfl

@[simp] theorem get?_put_self (name : String) (value : α) (xs : Keyed α) :
    get? name (put name value xs) = some value := by
  induction xs with
  | nil => simp [put, get?]
  | cons p rest ih =>
    by_cases h : p.1 = name
    · simp [put, get?, h]
    · simp [put, get?, h, ih]

theorem get?_put_of_ne {name other : String} (h : other ≠ name) (value : α) (xs : Keyed α) :
    get? other (put name value xs) = get? other xs := by
  induction xs with
  | nil => simp [put, get?, h.symm]
  | cons p rest ih =>
    by_cases hp : p.1 = name
    · subst hp; simp [put, get?, h.symm]
    · simp only [put, hp, if_false, get?, ih]

end Keyed

end QueryTools
