import Mathlib.Data.List.Nodup
import QueryTools.Keyed

/-!
# Laws of keyed lists

What looking a name up gives after names were added, overwritten or taken out, and when a list of
pairs is already a keyed list: where no name occurs twice (`Keyed.ofPairs_of_nodup`).  Merging a list
into what it was made from changes nothing any more (`Keyed.merge_of_prefix`), and of the pairs merged in
the last of a name is the one found (`Keyed.get?_merge`).
-/

namespace QueryTools.Keyed

variable {α : Type}

/-- The list without the pairs of a name. -/
def erase (name : String) (xs : Keyed α) : Keyed α := xs.filter fun p => p.1 ≠ name

/-- There is nothing under a name just if it is none of the names. -/
theorem get?_eq_none_iff {name : String} {xs : Keyed α} : get? name xs = none ↔ name ∉ names xs := by
  induction xs with
  | nil => simp [names]
  | cons p rest ih =>
      by_cases same : p.1 = name
      · simp [get?, names, same]
      · have other : name ≠ p.1 := fun h => same h.symm
        simpa [get?, names, same, other] using ih

/-- A name under which there is something is one of the names. -/
theorem mem_names_of_get? {name : String} {xs : Keyed α} {value : α}
    (found : get? name xs = some value) : name ∈ names xs := by
  by_cases known : name ∈ names xs
  · exact known
  · rw [get?_eq_none_iff.2 known] at found
    cases found

theorem has_iff {name : String} {xs : Keyed α} : has name xs = true ↔ name ∈ names xs := by
  unfold has
  rw [Option.isSome_iff_ne_none, Ne, get?_eq_none_iff, Decidable.not_not]

/-- What is found under a name stands there with it. -/
theorem mem_of_get? {name : String} {xs : Keyed α} {value : α} (found : get? name xs = some value) :
    (name, value) ∈ xs := by
  induction xs with
  | nil => cases found
  | cons p rest ih =>
      by_cases same : p.1 = name
      · simp only [get?, same, if_true, Option.some.injEq] at found
        rw [← same, ← found]
        exact List.mem_cons_self
      · simp only [get?, same, if_false] at found
        exact List.mem_cons_of_mem p (ih found)

/-- Names are different with one more just if it is new. -/
theorem nodup_names_concat {xs : Keyed α} {p : String × α} :
    (names (xs ++ [p])).Nodup ↔ (names xs).Nodup ∧ p.1 ∉ names xs := by
  have split : names (xs ++ [p]) = names xs ++ [p.1] := by simp [names]
  rw [split, List.nodup_append]
  constructor
  · rintro ⟨distinct, -, apart⟩
    exact ⟨distinct, fun member => apart p.1 member p.1 (List.mem_singleton.2 rfl) rfl⟩
  · rintro ⟨distinct, fresh⟩
    refine ⟨distinct, by simp, ?_⟩
    intro a there b last same
    rw [List.mem_singleton.1 last] at same
    exact fresh (same ▸ there)

/-- Where names are distinct a pair is what its name is looked up as. -/
theorem get?_of_mem {xs : Keyed α} (distinct : (names xs).Nodup) {p : String × α} (member : p ∈ xs) :
    get? p.1 xs = some p.2 := by
  induction xs with
  | nil => cases member
  | cons q rest ih =>
      obtain ⟨fresh, distinct⟩ := List.nodup_cons.1 distinct
      rcases List.mem_cons.1 member with rfl | later
      · simp [get?]
      · have other : q.1 ≠ p.1 := fun same => fresh (same ▸ List.mem_map_of_mem later)
        rw [get?, if_neg other]
        exact ih distinct later

/-- Values that things may have come under the names of the things, in their order. -/
theorem names_filterMap_sublist {β : Type} (name : β → String) (value : β → Option α) (xs : List β) :
    (names (xs.filterMap fun a => (value a).map fun v => (name a, v))).Sublist (xs.map name) := by
  induction xs with
  | nil => exact .slnil
  | cons a rest ih =>
      rw [List.filterMap_cons, List.map_cons]
      cases value a with
      | none => exact ih.cons (name a)
      | some v => exact ih.cons_cons (name a)

/-- The value that a thing has is what its name is looked up as, where names are distinct. -/
theorem get?_filterMap {β : Type} {name : β → String} {xs : List β} (distinct : (xs.map name).Nodup)
    (value : β → Option α) {a : β} (member : a ∈ xs) :
    get? (name a) (xs.filterMap fun a => (value a).map fun v => (name a, v)) = value a := by
  cases is : value a with
  | none =>
      rw [get?_eq_none_iff]
      intro named
      obtain ⟨pair, there, same⟩ := List.mem_map.1 named
      obtain ⟨b, other, makes⟩ := List.mem_filterMap.1 there
      obtain ⟨v, has, rfl⟩ := Option.map_eq_some_iff.1 makes
      have one : b = a := List.inj_on_of_nodup_map distinct other member same
      rw [one, is] at has
      cases has
  | some v =>
      have kept := (names_filterMap_sublist name value xs).nodup distinct
      have there : (name a, v) ∈ xs.filterMap fun a => (value a).map fun v => (name a, v) :=
        List.mem_filterMap.2 ⟨a, member, by rw [is, Option.map_some]⟩
      exact get?_of_mem kept there

/-- A name without a value gives none. -/
theorem get?_values {xs : Keyed (Option α)} (distinct : (names xs).Nodup) (name : String) :
    get? name (xs.filterMap fun p => p.2.map fun v => (p.1, v)) = (get? name xs).join := by
  by_cases known : name ∈ names xs
  · obtain ⟨p, member, rfl⟩ := List.mem_map.1 known
    rw [get?_of_mem distinct member]
    exact get?_filterMap distinct Prod.snd member
  · rw [get?_eq_none_iff.2 known, Option.join_none]
    refine get?_eq_none_iff.2 fun named => known ?_
    exact (names_filterMap_sublist Prod.fst Prod.snd xs).subset named

/-- Under a name that was erased there is nothing. -/
@[simp] theorem get?_erase_self (name : String) (xs : Keyed α) : get? name (erase name xs) = none := by
  rw [get?_eq_none_iff]
  intro member
  obtain ⟨p, kept, same⟩ := List.mem_map.1 member
  have other := (List.mem_filter.1 kept).2
  simp [same] at other

/-- Erasing a name changes nothing under another one. -/
theorem get?_erase_of_ne {name other : String} (h : other ≠ name) (xs : Keyed α) :
    get? other (erase name xs) = get? other xs := by
  induction xs with
  | nil => rfl
  | cons p rest ih =>
      unfold erase at ih ⊢
      by_cases same : p.1 = name
      · have differs : p.1 ≠ other := fun h' => h (h'.symm.trans same)
        simp only [List.filter_cons, same, ne_eq, not_true, decide_false, get?]
        simpa [← same, differs] using ih
      · simp only [List.filter_cons, ne_eq, same, not_false_eq_true, decide_true, if_true, get?, ih]

/-- A new name goes to the end. -/
theorem put_of_not_mem {name : String} {xs : Keyed α} (fresh : name ∉ names xs) (value : α) :
    put name value xs = xs ++ [(name, value)] := by
  induction xs with
  | nil => rfl
  | cons p rest ih =>
      have differs : p.1 ≠ name := fun h => fresh (h ▸ List.mem_cons_self)
      have later : name ∉ names rest := fun h => fresh (List.mem_cons_of_mem _ h)
      simp only [put, differs, if_false, ih later, List.cons_append]

/-- Members with different names are merged one behind the other. -/
theorem merge_of_nodup {xs ys : Keyed α} (distinct : (names (xs ++ ys)).Nodup) :
    merge xs ys = xs ++ ys := by
  induction ys generalizing xs with
  | nil => simp [merge]
  | cons p rest ih =>
      have fresh : p.1 ∉ names xs := by
        intro member
        simp only [names, List.map_append, List.map_cons, List.nodup_append] at distinct
        exact distinct.2.2 p.1 member p.1 List.mem_cons_self rfl
      have shifted : (names ((xs ++ [(p.1, p.2)]) ++ rest)).Nodup := by simpa using distinct
      calc merge xs (p :: rest)
          = merge (put p.1 p.2 xs) rest := rfl
        _ = merge (xs ++ [(p.1, p.2)]) rest := by rw [put_of_not_mem fresh]
        _ = (xs ++ [(p.1, p.2)]) ++ rest := ih shifted
        _ = xs ++ p :: rest := by simp

/-- Pairs without a repeated name make themselves. -/
theorem ofPairs_of_nodup {ps : List (String × α)} (distinct : (names ps).Nodup) : ofPairs ps = ps :=
  merge_of_nodup distinct

/-- What putting a value keeps or adds. -/
theorem mem_put {name : String} {value : α} {xs : Keyed α} {p : String × α}
    (member : p ∈ put name value xs) : p = (name, value) ∨ p ∈ xs := by
  induction xs with
  | nil => exact .inl (List.mem_singleton.1 member)
  | cons q rest ih =>
      by_cases same : q.1 = name
      · simp only [put, same, if_true, List.mem_cons] at member
        rcases member with new | old
        · exact .inl new
        · exact .inr (List.mem_cons_of_mem q old)
      · simp only [put, same, if_false, List.mem_cons] at member
        rcases member with first | later
        · exact .inr (first ▸ List.mem_cons_self)
        · rcases ih later with new | old
          · exact .inl new
          · exact .inr (List.mem_cons_of_mem q old)

/-- What was merged is of one or the other. -/
theorem mem_merge {xs ys : Keyed α} {p : String × α} (member : p ∈ merge xs ys) :
    p ∈ xs ∨ p ∈ ys := by
  induction ys generalizing xs with
  | nil => exact .inl member
  | cons q rest ih =>
      have shifted : p ∈ merge (put q.1 q.2 xs) rest := member
      rcases ih shifted with before | later
      · rcases mem_put before with new | old
        · exact .inr (new ▸ List.mem_cons_self)
        · exact .inl old
      · exact .inr (List.mem_cons_of_mem q later)

/-- Every pair in a keyed list made of pairs is one of them. -/
theorem mem_ofPairs {ps : List (String × α)} {p : String × α} (member : p ∈ ofPairs ps) : p ∈ ps := by
  rcases mem_merge member with nowhere | there
  · cases nowhere
  · exact there

/-- Putting something under a name that is there adds no name. -/
theorem names_put_of_mem {name : String} {xs : Keyed α} (known : name ∈ names xs) (value : α) :
    names (put name value xs) = names xs := by
  induction xs with
  | nil => cases known
  | cons p rest ih =>
      by_cases same : p.1 = name
      · simp [put, names, same]
      · have later : name ∈ names rest := (List.mem_cons.1 known).resolve_left fun h => same h.symm
        have kept := ih later
        simp only [put, same, if_false]
        simpa [names] using kept

/-- Putting something under a name keeps the names different. -/
theorem nodup_names_put {name : String} {xs : Keyed α} (distinct : (names xs).Nodup) (value : α) :
    (names (put name value xs)).Nodup := by
  by_cases known : name ∈ names xs
  · rwa [names_put_of_mem known]
  · rw [put_of_not_mem known]
    exact nodup_names_concat.2 ⟨distinct, known⟩

/-- Merging keeps the names different. -/
theorem nodup_names_merge {xs : Keyed α} (distinct : (names xs).Nodup) (ys : Keyed α) :
    (names (merge xs ys)).Nodup := by
  induction ys generalizing xs with
  | nil => exact distinct
  | cons p rest ih => exact ih (nodup_names_put distinct p.2)

/-- No name occurs twice in a keyed list made of pairs. -/
theorem nodup_names_ofPairs (ps : List (String × α)) : (names (ofPairs ps)).Nodup := by
  have none : (names ([] : Keyed α)).Nodup := List.nodup_nil
  exact nodup_names_merge none ps

/-! ## Merging twice -/

/-- Names that are there stay where they are. -/
theorem names_prefix_put (name : String) (value : α) (xs : Keyed α) :
    names xs <+: names (put name value xs) := by
  by_cases known : name ∈ names xs
  · have same := names_put_of_mem known value
    exact same ▸ List.prefix_rfl
  · rw [put_of_not_mem known]
    exact ⟨[name], by simp [names]⟩

/-- Merging keeps the names that were there, in their order. -/
theorem names_prefix_merge (xs ys : Keyed α) : names xs <+: names (merge xs ys) := by
  induction ys generalizing xs with
  | nil => exact List.prefix_rfl
  | cons p rest ih => exact (names_prefix_put p.1 p.2 xs).trans (ih (put p.1 p.2 xs))

/-- What is merged into a list leaves a pair alone whose name it lacks. -/
theorem merge_cons {p : String × α} {ys : Keyed α} (fresh : p.1 ∉ names ys) (xs : Keyed α) :
    merge (p :: xs) ys = p :: merge xs ys := by
  induction ys generalizing xs with
  | nil => rfl
  | cons q rest ih =>
      have other : p.1 ≠ q.1 := fun same => fresh (same ▸ List.mem_cons_self)
      have later : p.1 ∉ names rest := fun member => fresh (List.mem_cons_of_mem _ member)
      have passed : put q.1 q.2 (p :: xs) = p :: put q.1 q.2 xs := by simp [put, other]
      calc merge (p :: xs) (q :: rest)
          = merge (put q.1 q.2 (p :: xs)) rest := rfl
        _ = merge (p :: put q.1 q.2 xs) rest := by rw [passed]
        _ = p :: merge (put q.1 q.2 xs) rest := ih later _

/-- A list whose names begin as those of another overwrites all of it. -/
theorem merge_of_prefix {xs zs : Keyed α} (begins : names xs <+: names zs)
    (distinct : (names zs).Nodup) : merge xs zs = zs := by
  induction xs generalizing zs with
  | nil => exact ofPairs_of_nodup distinct
  | cons p rest ih =>
      cases zs with
      | nil => simp [names] at begins
      | cons q zs =>
          obtain ⟨same, begins⟩ : p.1 = q.1 ∧ names rest <+: names zs := by
            simpa [names, List.cons_prefix_cons] using begins
          obtain ⟨fresh, distinct⟩ := List.nodup_cons.1 distinct
          have overwritten : put q.1 q.2 (p :: rest) = q :: rest := by simp [put, same]
          calc merge (p :: rest) (q :: zs)
              = merge (put q.1 q.2 (p :: rest)) zs := rfl
            _ = merge (q :: rest) zs := by rw [overwritten]
            _ = q :: merge rest zs := merge_cons fresh rest
            _ = q :: zs := by rw [ih begins distinct]

/-- What is found under a name is the first that stands there. -/
theorem get?_eq_find? (name : String) (xs : Keyed α) :
    get? name xs = (xs.find? fun p => p.1 == name).map Prod.snd := by
  induction xs with
  | nil => rfl
  | cons p rest ih =>
      by_cases same : p.1 = name
      · simp [get?, same]
      · simp [get?, same, ih]

/-- Of pairs with one name the last counts. -/
theorem get?_merge (name : String) (xs ys : Keyed α) :
    get? name (merge xs ys) = ((ys.reverse.find? fun p => p.1 == name).map Prod.snd).or (get? name xs) := by
  induction ys generalizing xs with
  | nil => rfl
  | cons p rest ih =>
      have next : get? name (merge xs (p :: rest)) = get? name (merge (put p.1 p.2 xs) rest) := rfl
      rw [next, ih, List.reverse_cons, List.find?_append]
      cases rest.reverse.find? fun p => p.1 == name with
      | some later => rfl
      | none =>
          by_cases same : p.1 = name
          · simp [same]
          · simp [same, get?_put_of_ne (Ne.symm same)]

end QueryTools.Keyed
