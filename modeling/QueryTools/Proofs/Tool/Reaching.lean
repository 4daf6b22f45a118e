import QueryTools.Proofs.Tool.Obstacles
import QueryTools.Proofs.Tool.Validity

/-!
# Which fields are selected

A walk along fields leads from a type to another.  Of the result of an operation just those leaves are
selected that a walk reaches which enters no type twice, passes no field that needs arguments, and is no
longer than the depth allows.

Main statements:

* `Operation.makeDocument_selects` -- that of the document of an operation, and when there is one;
* `Operation.exists_unmade_document` -- the default of an argument may keep a document from being made.
-/

namespace QueryTools

/-! ## Walks along fields -/

/-- A walk from a type along fields to a type, with the types whose fields they are. -/
inductive Schema.Walk (s : Schema) :
    NamedType → List OutputField → List NamedType → NamedType → Prop where
  | here (t : NamedType) : s.Walk t [] [] t
  | step {t u v : NamedType} {own : List OutputField} {f : OutputField} {fs : List OutputField}
      {ts : List NamedType} (has : t.outputFields? = some own) (member : f ∈ own)
      (inner : s.named? f.type = some u) (further : s.Walk u fs ts v) :
      s.Walk t (f :: fs) (t :: ts) v

/-- A path of names reaches a leaf from a type: by a walk through different types, along fields that need
no arguments, of at most the given length, or of length one. -/
def Schema.Reaches (s : Schema) (t : NamedType) (depth : Int) (path : List String) : Prop :=
  ∃ fs ts leaf, s.Walk t fs ts leaf ∧ leaf.isLeaf = true ∧ fs.map OutputField.name = path ∧
    (ts.map NamedType.name).Nodup ∧
    (∀ f ∈ fs, ∀ a ∈ f.arguments, (s.parameter a).isRequired = false) ∧
    (path.length : Int) ≤ max 1 depth

/-- No field has the name by which a type is asked for its own. -/
def Schema.Unreserved (s : Schema) : Prop :=
  ∀ name t own, s.find? name = some t → t.outputFields? = some own →
    ∀ f ∈ own, f.name ≠ "__typename"

namespace Selection

/-- What is selected at a path of names. -/
inductive Inside : List Selection → List String → List Selection → Prop where
  | here (entries : List Selection) : Inside entries [] entries
  | step {entries inner found : List Selection} {name : String} {path : List String}
      (member : Operation.selected name (some inner) ∈ entries) (further : Inside inner path found) :
      Inside entries (name :: path) found

/-- A path of names ends in an entry of which nothing is selected. -/
inductive HasLeaf : List Selection → List String → Prop where
  | leaf {entries : List Selection} {name : String}
      (member : Operation.selected name none ∈ entries) : HasLeaf entries [name]
  | step {entries inner : List Selection} {name : String} {path : List String}
      (member : Operation.selected name (some inner) ∈ entries) (further : HasLeaf inner path) :
      HasLeaf entries (name :: path)

/-- A leaf inside what stands inside is a leaf further on. -/
theorem Inside.hasLeaf {entries found : List Selection} {path rest : List String}
    (inside : Inside entries path found) (leaf : HasLeaf found rest) :
    HasLeaf entries (path ++ rest) := by
  induction inside with
  | here entries => exact leaf
  | step member further ih => exact .step member (ih leaf)

/-- Where there is a leaf something is selected. -/
theorem HasLeaf.ne_nil {entries : List Selection} {path : List String} (leaf : HasLeaf entries path) :
    entries ≠ [] := by
  cases leaf with
  | leaf member => exact List.ne_nil_of_mem member
  | step member _ => exact List.ne_nil_of_mem member

end Selection

/-- What is selected of a type are the leaves that can be reached and no others.  Entries stand in the order
in which the fields are declared, each with entries of its own is on the way to a leaf, and the type is
asked for its name if there is none. -/
structure Schema.SelectsExactly (s : Schema) (t : NamedType) (depth : Int) (entries : List Selection) :
    Prop where
  leaves : ∀ path, path ≠ ["__typename"] → (Selection.HasLeaf entries path ↔ s.Reaches t depth path)
  ordered : (∃ path, s.Reaches t depth path) → ∀ path found, Selection.Inside entries path found →
    ∃ fs ts u own, s.Walk t fs ts u ∧ fs.map OutputField.name = path ∧ u.outputFields? = some own ∧
      (found.map Selection.name?).Sublist ((own.map OutputField.name).map some)
  needed : ∀ path found, Selection.Inside entries path found → path ≠ [] →
    ∃ rest, s.Reaches t depth (path ++ rest)
  fallback : (∀ path, ¬ s.Reaches t depth path) → entries = Operation.typeNameOnly

/-! ## Ways on from a type -/

/-- A way on from a type to a leaf that enters at most `levels` more types, none of those in `visited`
and none twice. -/
def Schema.WayOn (s : Schema) (levels : Nat) (visited : List String) (t : NamedType)
    (path : List String) : Prop :=
  ∃ fs ts leaf, s.Walk t fs (t :: ts) leaf ∧ leaf.isLeaf = true ∧ fs.map OutputField.name = path ∧
    (ts.map NamedType.name).Nodup ∧ (∀ name ∈ ts.map NamedType.name, name ∉ visited) ∧
    (∀ f ∈ fs, ∀ a ∈ f.arguments, (s.parameter a).isRequired = false) ∧ fs.length ≤ levels + 1

/-- A leaf has no fields. -/
theorem NamedType.outputFields?_of_isLeaf {t : NamedType} (leaf : t.isLeaf = true) :
    t.outputFields? = none := by
  unfold isLeaf at leaf
  unfold outputFields?
  split at leaf <;> simp_all

/-- What has fields is no leaf. -/
theorem NamedType.isLeaf_of_outputFields? {t : NamedType} {own : List OutputField}
    (has : t.outputFields? = some own) : t.isLeaf = false := by
  cases leaf : t.isLeaf with
  | false => rfl
  | true =>
      rw [outputFields?_of_isLeaf leaf] at has
      cases has

namespace Schema

variable {s : Schema} {t : NamedType} {own : List OutputField}

/-- A way on takes a field to a leaf, or to a type that was not visited and a way on from there. -/
theorem wayOn_cons_iff (has : t.outputFields? = some own) {levels : Nat} {visited : List String}
    {name : String} {path : List String} :
    s.WayOn levels visited t (name :: path) ↔
      ∃ f ∈ own, f.name = name ∧ (∀ a ∈ f.arguments, (s.parameter a).isRequired = false) ∧
        ∃ u, s.named? f.type = some u ∧
          ((path = [] ∧ u.isLeaf = true) ∨
            ∃ n, levels = n + 1 ∧ u.name ∉ visited ∧ s.WayOn n (u.name :: visited) u path) := by
  constructor
  · rintro ⟨fs, ts, leaf, walk, ends, names, distinct, fresh, free, short⟩
    cases walk with
    | @step _ u _ own' f rest _ has' member inner further =>
        cases has.symm.trans has'
        rw [List.map_cons, List.cons.injEq] at names
        refine ⟨f, member, names.1, free f List.mem_cons_self, u, inner, ?_⟩
        cases further with
        | here _ => exact .inl ⟨names.2.symm, ends⟩
        | @step _ w _ _ g gs us has'' member' inner' further' =>
            obtain ⟨apart, distinct⟩ := List.nodup_cons.1 distinct
            have unvisited := fresh u.name List.mem_cons_self
            rw [List.length_cons, List.length_cons] at short
            obtain ⟨n, rfl⟩ : ∃ n, levels = n + 1 := ⟨levels - 1, by omega⟩
            refine .inr ⟨n, rfl, unvisited, g :: gs, us, leaf, .step has'' member' inner' further', ends,
              names.2, distinct, fun name there => ?_, fun h given => ?_, ?_⟩
            · intro visitedThen
              rcases List.mem_cons.1 visitedThen with rfl | before
              · exact apart there
              · exact fresh name (List.mem_cons_of_mem _ there) before
            · exact free h (List.mem_cons_of_mem f given)
            · rw [List.length_cons]
              omega
  · rintro ⟨f, member, rfl, free, u, inner, ⟨rfl, ends⟩ | ⟨n, rfl, unvisited, further⟩⟩
    · refine ⟨[f], [], u, .step has member inner (.here u), ends, rfl, List.nodup_nil, ?_, ?_, ?_⟩
      · intro name never
        cases never
      · intro g there
        rw [List.mem_singleton.1 there]
        exact free
      · exact Nat.le_add_left 1 levels
    · obtain ⟨fs, ts, leaf, walk, ends, names, distinct, fresh, frees, short⟩ := further
      refine ⟨f :: fs, u :: ts, leaf, .step has member inner walk, ends, by rw [List.map_cons, names],
        ?_, ?_, ?_, Nat.succ_le_succ short⟩
      · exact List.nodup_cons.2 ⟨fun there => fresh u.name there List.mem_cons_self, distinct⟩
      · intro name there
        rcases List.mem_cons.1 there with rfl | later
        · exact unvisited
        · exact fun before => fresh name later (List.mem_cons_of_mem _ before)
      · intro g there
        rcases List.mem_cons.1 there with rfl | later
        · exact free
        · exact frees g later

/-- There is a way on from types with fields only. -/
theorem WayOn.exists_outputFields? {levels : Nat} {visited : List String} {path : List String}
    (way : s.WayOn levels visited t path) : ∃ fields, t.outputFields? = some fields := by
  obtain ⟨_, _, _, walk, -⟩ := way
  cases walk with
  | step has _ _ _ => exact ⟨_, has⟩

/-- A way on goes through one field at least. -/
theorem not_wayOn_nil {levels : Nat} {visited : List String} : ¬ s.WayOn levels visited t [] := by
  rintro ⟨fs, ts, leaf, walk, -, names, -⟩
  cases walk with
  | step has member inner further => cases names

/-- What a type reaches are the ways on from it where it alone was visited. -/
theorem reaches_iff (has : t.outputFields? = some own) {depth : Int} {path : List String} :
    s.Reaches t depth path ↔ s.WayOn (depth.toNat - 1) [t.name] t path := by
  constructor
  · rintro ⟨fs, ts, leaf, walk, ends, rfl, distinct, free, short⟩
    cases walk with
    | here _ =>
        rw [NamedType.isLeaf_of_outputFields? has] at ends
        cases ends
    | @step _ u _ own' f rest us has' member inner further =>
        obtain ⟨apart, distinct⟩ := List.nodup_cons.1 distinct
        refine ⟨_, us, leaf, .step has' member inner further, ends, rfl, distinct, ?_, free, ?_⟩
        · intro name there visited
          rw [List.mem_singleton.1 visited] at there
          exact apart there
        · rw [List.length_map] at short
          omega
  · rintro ⟨fs, ts, leaf, walk, ends, rfl, distinct, fresh, free, short⟩
    refine ⟨fs, t :: ts, leaf, walk, ends, rfl, ?_, free, ?_⟩
    · exact List.nodup_cons.2 ⟨fun there => fresh t.name there (List.mem_singleton.2 rfl), distinct⟩
    · rw [List.length_map]
      omega

/-- Nothing is reached from a type without fields that is no leaf. -/
theorem not_reaches (bare : t.outputFields? = none) (branching : t.isLeaf = false) {depth : Int}
    {path : List String} : ¬ s.Reaches t depth path := by
  rintro ⟨fs, ts, leaf, walk, ends, -⟩
  cases walk with
  | here _ =>
      rw [branching] at ends
      cases ends
  | step has member inner further =>
      rw [bare] at has
      cases has

end Schema

/-! ## What is chosen of fields -/

namespace Operation

variable {s : Schema} {levels : Nat} {visited : List String} {own : List OutputField} {name : String}

/-- A field needs no arguments just if none of them is required. -/
theorem needsNoArguments_iff {f : OutputField} :
    needsNoArguments s f = true ↔ ∀ a ∈ f.arguments, (s.parameter a).isRequired = false := by
  unfold needsNoArguments
  rw [Bool.not_eq_true', List.any_eq_false]
  simp only [Bool.not_eq_true]
  rfl

/-- Only the name of the type is selected just if that is all. -/
theorem isTypeNameOnly_iff {entries : List Selection} :
    isTypeNameOnly entries = true ↔ entries = typeNameOnly := by
  constructor
  · intro only
    unfold isTypeNameOnly at only
    split at only
    · rfl
    · cases only
  · rintro rfl
    rfl

/-- A field is chosen by its name alone if it is of a leaf type and needs no arguments. -/
theorem leaf_mem_chosen_iff :
    selected name none ∈ chosen s levels visited own ↔
      ∃ f ∈ own, f.name = name ∧ (∀ a ∈ f.arguments, (s.parameter a).isRequired = false) ∧
        ∃ u, s.named? f.type = some u ∧ u.isLeaf = true := by
  constructor
  · intro member
    obtain ⟨f, there, free, chooses⟩ := mem_chosen member
    obtain ⟨u, inner, ⟨leaf, same⟩ | ⟨_, _, _, _, never⟩⟩ := choice_eq_some chooses
    · cases same
      exact ⟨f, there, rfl, free, u, inner, leaf⟩
    · cases never
  · rintro ⟨f, there, rfl, free, u, inner, leaf⟩
    refine List.mem_filterMap.2 ⟨f, List.mem_filter.2 ⟨there, needsNoArguments_iff.2 free⟩, ?_⟩
    unfold choice
    simp only [inner, leaf, if_true]

/-- A field is chosen with entries of its type if it needs no arguments, its type was not visited, and there
is something to choose from it. -/
theorem selected_mem_chosen_iff {entries : List Selection} :
    selected name (some entries) ∈ chosen s levels visited own ↔
      ∃ f ∈ own, f.name = name ∧ (∀ a ∈ f.arguments, (s.parameter a).isRequired = false) ∧
        ∃ u inner n, s.named? f.type = some u ∧ u.outputFields? = some inner ∧ levels = n + 1 ∧
          u.name ∉ visited ∧ entries = selectFields s n (u.name :: visited) inner ∧
          entries ≠ typeNameOnly := by
  constructor
  · intro member
    obtain ⟨f, there, free, chooses⟩ := mem_chosen member
    unfold choice at chooses
    cases inner : s.named? f.type with
    | none =>
        rw [inner] at chooses
        cases chooses
    | some u =>
        simp only [inner] at chooses
        split at chooses
        · cases chooses
        · cases has : u.outputFields? with
          | none =>
              rw [has] at chooses
              cases chooses
          | some fields =>
              simp only [has] at chooses
              cases levels with
              | zero => cases chooses
              | succ n =>
                  dsimp only at chooses
                  split at chooses
                  · cases chooses
                  · rename_i unvisited
                    split at chooses
                    · cases chooses
                    · rename_i something
                      cases chooses
                      refine ⟨f, there, rfl, free, u, fields, n, inner, has, rfl, ?_, rfl, ?_⟩
                      · exact fun visited => unvisited (List.contains_iff_mem.2 visited)
                      · exact fun only => something (isTypeNameOnly_iff.2 only)
  · rintro ⟨f, there, rfl, free, u, inner, n, known, has, rfl, unvisited, rfl, something⟩
    refine List.mem_filterMap.2 ⟨f, List.mem_filter.2 ⟨there, needsNoArguments_iff.2 free⟩, ?_⟩
    have new : ¬ visited.contains u.name = true := fun is => unvisited (List.contains_iff_mem.1 is)
    have more : ¬ isTypeNameOnly (selectFields s n (u.name :: visited) inner) = true :=
      fun is => something (isTypeNameOnly_iff.1 is)
    unfold choice
    simp only [known, NamedType.isLeaf_of_outputFields? has, has, new, more]
    rfl

/-- Each field that is chosen is selected alone or with more inside. -/
theorem mem_chosen_cases {x : Selection} (member : x ∈ chosen s levels visited own) :
    ∃ name, x = selected name none ∨ ∃ entries, x = selected name (some entries) := by
  obtain ⟨f, -, -, chooses⟩ := mem_chosen member
  obtain ⟨u, -, ⟨-, rfl⟩ | ⟨inner, n, -, -, rfl⟩⟩ := choice_eq_some chooses
  · exact ⟨f.name, .inl rfl⟩
  · exact ⟨f.name, .inr ⟨_, rfl⟩⟩

/-- Where no field has the name that types are asked by, fields are selected as they are chosen if any are,
and else that name. -/
theorem selectFields_ne_typeNameOnly_iff (plain : ∀ f ∈ own, f.name ≠ "__typename") :
    selectFields s levels visited own ≠ typeNameOnly ↔ chosen s levels visited own ≠ [] := by
  rw [selectFields_eq]
  cases empty : chosen s levels visited own with
  | nil => simp
  | cons x rest =>
      have different : x :: rest ≠ typeNameOnly := by
        intro same
        have asked : selected "__typename" none ∈ chosen s levels visited own := by
          rw [empty, same]
          exact List.mem_singleton.2 rfl
        obtain ⟨f, there, is, -⟩ := leaf_mem_chosen_iff.1 asked
        exact plain f there is
      simpa using different

/-- If any field is chosen those that are chosen are selected. -/
theorem selectFields_eq_chosen (filled : chosen s levels visited own ≠ []) :
    selectFields s levels visited own = chosen s levels visited own := by
  rw [selectFields_eq, if_neg]
  rwa [List.isEmpty_iff]

/-- Where no field has that name, a field is chosen with what is chosen of its type, if it needs no arguments,
its type was not visited, and anything is chosen there. -/
theorem node_mem_chosen_iff (unreserved : s.Unreserved) {entries : List Selection} :
    selected name (some entries) ∈ chosen s levels visited own ↔
      ∃ f ∈ own, f.name = name ∧ (∀ a ∈ f.arguments, (s.parameter a).isRequired = false) ∧
        ∃ u inner n, s.named? f.type = some u ∧ u.outputFields? = some inner ∧ levels = n + 1 ∧
          u.name ∉ visited ∧ entries = chosen s n (u.name :: visited) inner ∧ entries ≠ [] := by
  rw [selected_mem_chosen_iff]
  constructor
  · rintro ⟨f, there, is, free, u, inner, n, known, has, rest, unvisited, rfl, something⟩
    have filled := (selectFields_ne_typeNameOnly_iff (unreserved _ u inner known has)).1 something
    have same := selectFields_eq_chosen filled
    exact ⟨f, there, is, free, u, inner, n, known, has, rest, unvisited, same, same ▸ filled⟩
  · rintro ⟨f, there, is, free, u, inner, n, known, has, rest, unvisited, rfl, filled⟩
    have something := (selectFields_ne_typeNameOnly_iff (unreserved _ u inner known has)).2 filled
    have same := selectFields_eq_chosen filled
    exact ⟨f, there, is, free, u, inner, n, known, has, rest, unvisited, same.symm, same ▸ something⟩

/-- Where nothing is reached the type is asked for its name alone. -/
theorem selectsExactly_typeNameOnly {t : NamedType} {depth : Int}
    (nowhere : ∀ path, ¬ s.Reaches t depth path) : s.SelectsExactly t depth typeNameOnly := by
  refine ⟨fun path other => ?_, fun ⟨path, way⟩ => absurd way (nowhere path), ?_, fun _ => rfl⟩
  · refine ⟨fun leaf => ?_, fun way => absurd way (nowhere path)⟩
    cases leaf with
    | leaf member =>
        cases List.mem_singleton.1 member
        exact absurd rfl other
    | step member _ => cases List.mem_singleton.1 member
  · intro path found inside deeper
    cases inside with
    | here _ => exact absurd rfl deeper
    | step member _ => cases List.mem_singleton.1 member

/-! ## Leaves that are chosen -/

/-- What is chosen of fields leads to a leaf. -/
theorem exists_hasLeaf_chosen (unreserved : s.Unreserved) (filled : chosen s levels visited own ≠ []) :
    ∃ path, Selection.HasLeaf (chosen s levels visited own) path := by
  induction levels using Nat.strongRecOn generalizing visited own with
  | ind levels ih =>
      obtain ⟨x, member⟩ := List.exists_mem_of_ne_nil _ filled
      obtain ⟨name, rfl | ⟨entries, rfl⟩⟩ := mem_chosen_cases member
      · exact ⟨[name], .leaf member⟩
      · obtain ⟨f, -, -, -, u, inner, n, -, -, rfl, -, rfl, deeper⟩ :=
          (node_mem_chosen_iff unreserved).1 member
        obtain ⟨path, leaf⟩ := ih n (Nat.lt_succ_self n) deeper
        exact ⟨name :: path, .step member leaf⟩

/-- The leaves that are chosen of the fields of a type are those to which there is a way on from it. -/
theorem hasLeaf_chosen_iff (unreserved : s.Unreserved) {t : NamedType} (has : t.outputFields? = some own)
    {path : List String} :
    Selection.HasLeaf (chosen s levels visited own) path ↔ s.WayOn levels visited t path := by
  induction path generalizing levels visited t own with
  | nil =>
      constructor
      · intro never
        cases never
      · intro never
        exact absurd never Schema.not_wayOn_nil
  | cons name path ih =>
      rw [Schema.wayOn_cons_iff has]
      constructor
      · intro leaf
        cases leaf with
        | leaf member =>
            obtain ⟨f, there, is, free, u, inner, leaf⟩ := leaf_mem_chosen_iff.1 member
            exact ⟨f, there, is, free, u, inner, .inl ⟨rfl, leaf⟩⟩
        | step member further =>
            obtain ⟨f, there, is, free, u, fields, n, inner, holds, rfl, unvisited, rfl, -⟩ :=
              (node_mem_chosen_iff unreserved).1 member
            exact ⟨f, there, is, free, u, inner, .inr ⟨n, rfl, unvisited, (ih holds).1 further⟩⟩
      · rintro ⟨f, there, is, free, u, inner, ⟨rfl, leaf⟩ | ⟨n, rfl, unvisited, further⟩⟩
        · exact .leaf (leaf_mem_chosen_iff.2 ⟨f, there, is, free, u, inner, leaf⟩)
        · obtain ⟨fields, holds⟩ := further.exists_outputFields?
          have leaf : Selection.HasLeaf (chosen s n (u.name :: visited) fields) path := (ih holds).2 further
          have member := (node_mem_chosen_iff unreserved).2
            ⟨f, there, is, free, u, fields, n, inner, holds, rfl, unvisited, rfl, leaf.ne_nil⟩
          exact .step member leaf

/-- What is selected inside of what was chosen of a type was itself chosen of a type on a walk from it; it is
not empty if the whole is not. -/
theorem exists_of_inside_chosen (unreserved : s.Unreserved) {t : NamedType}
    (has : t.outputFields? = some own) {path : List String} {found : List Selection}
    (inside : Selection.Inside (chosen s levels visited own) path found) :
    ∃ fs ts u inner n seen, s.Walk t fs ts u ∧ fs.map OutputField.name = path ∧
      u.outputFields? = some inner ∧ found = chosen s n seen inner ∧
      (chosen s levels visited own ≠ [] → found ≠ []) := by
  generalize is : chosen s levels visited own = entries at inside ⊢
  induction inside generalizing levels visited own t with
  | here entries => exact ⟨[], [], t, own, levels, visited, .here t, rfl, has, is.symm, id⟩
  | step member further ih =>
      subst is
      obtain ⟨f, there, rfl, -, u, fields, n, inner, holds, rfl, -, rfl, filled⟩ :=
        (node_mem_chosen_iff unreserved).1 member
      obtain ⟨fs, ts, v, ends, m, seen, walk, names, has', rfl, kept⟩ := ih holds rfl
      refine ⟨f :: fs, t :: ts, v, ends, m, seen, .step has there inner walk, ?_, has', rfl,
        fun _ => kept filled⟩
      rw [List.map_cons, names]

/-- What is selected of a type with fields is exactly what can be reached from it. -/
theorem selectsExactly_selectFields (unreserved : s.Unreserved) {t : NamedType}
    (has : t.outputFields? = some own) (depth : Int) :
    s.SelectsExactly t depth (selectFields s (depth.toNat - 1) [t.name] own) := by
  have leaves : ∀ path, Selection.HasLeaf (chosen s (depth.toNat - 1) [t.name] own) path ↔
      s.Reaches t depth path :=
    fun path => (hasLeaf_chosen_iff unreserved has).trans (Schema.reaches_iff has).symm
  by_cases empty : chosen s (depth.toNat - 1) [t.name] own = []
  · have nowhere : ∀ path, ¬ s.Reaches t depth path :=
      fun path way => ((leaves path).2 way).ne_nil empty
    have fallback : selectFields s (depth.toNat - 1) [t.name] own = typeNameOnly := by
      rw [selectFields_eq, empty]
      rfl
    rw [fallback]
    exact selectsExactly_typeNameOnly nowhere
  · rw [selectFields_eq_chosen empty]
    refine ⟨fun path _ => leaves path, ?_, ?_, ?_⟩
    · rintro - path found inside
      obtain ⟨fs, ts, u, inner, n, seen, walk, names, holds, rfl, -⟩ :=
        exists_of_inside_chosen unreserved has inside
      exact ⟨fs, ts, u, inner, walk, names, holds, sublist_names_chosen s n seen inner⟩
    · rintro path found inside -
      obtain ⟨fs, ts, u, inner, n, seen, -, -, -, rfl, kept⟩ :=
        exists_of_inside_chosen unreserved has inside
      obtain ⟨rest, leaf⟩ := exists_hasLeaf_chosen unreserved (kept empty)
      exact ⟨rest, (leaves _).1 (inside.hasLeaf leaf)⟩
    · intro nowhere
      obtain ⟨path, leaf⟩ := exists_hasLeaf_chosen unreserved empty
      exact absurd ((leaves path).1 leaf) (nowhere path)

/-! ## Documents -/

/-- **Documents select exactly what can be reached.**  Where no field has the name that types are asked by,
the document of an operation selects of its result just the leaves that are reached.  It is always made,
unless the default of an argument gives a value of a type that no value can be given for. -/
theorem makeDocument_selects (unreserved : s.Unreserved) {o : Operation} {type : TypeRef}
    {t : NamedType} (result : o.output = some type) (inner : s.named? type = some t)
    (branching : t.isLeaf = false) (depth : Int) :
    (∃ entries, (o.definition s depth.toNat).selections =
        [.field none o.name (o.parameters.map argument) [] (some entries)] ∧
      s.SelectsExactly t depth entries) ∧
    (∀ text, o.makeDocument s depth.toNat = .ok text → text = (o.definition s depth.toNat).line) ∧
    ∀ fault, o.makeDocument s depth.toNat = .error fault →
      ∃ name u v kind type, s.find? name = some u ∧ v ∈ u.inputValues ∧
        s.misusedDefault? v = some (kind, type) ∧ fault = .defaultOfOutput kind type := by
  refine ⟨?_, fun text made => eq_document_of_makeDocument made,
    fun fault failed => exists_of_makeDocument_eq_error failed⟩
  have selections : ∃ entries, selectOutput s depth.toNat type = some entries ∧
      s.SelectsExactly t depth entries := by
    unfold selectOutput
    simp only [inner, branching]
    cases has : t.outputFields? with
    | some own => exact ⟨_, rfl, selectsExactly_selectFields unreserved has depth⟩
    | none =>
        exact ⟨_, rfl, selectsExactly_typeNameOnly fun path => Schema.not_reaches has branching⟩
  obtain ⟨entries, selects, exact⟩ := selections
  refine ⟨entries, ?_, exact⟩
  rw [definition, result, Option.bind_some, selects]

/-- No field has the name that types are asked by if none that is declared has it. -/
theorem unreserved_of_types
    (each : s.types.all (fun t => t.outputFields?.all fun own =>
      own.all fun f => f.name != "__typename") = true) : s.Unreserved := by
  have standard : Standard.types.all (fun t => t.outputFields?.all fun own =>
      own.all fun f => f.name != "__typename") = true := by decide +kernel
  intro name t own found has f member
  have checked : (t.outputFields?.all fun own => own.all fun f => f.name != "__typename") = true := by
    rcases Schema.mem_of_find? found with there | there
    · exact List.all_eq_true.1 standard t there
    · exact List.all_eq_true.1 each t there
  rw [has, Option.all_some] at checked
  exact bne_iff_ne.1 (List.all_eq_true.1 checked f member)

/-- In the schema of pets the way back to the first type is cut, and so is the field that needs an
argument. -/
theorem makeDocument_selects_pets :
    ∃ s os o type t, Schema.parse petsText = .ok s ∧ s.Unreserved ∧
      s.operations [.query, .mutation] = .ok os ∧ o ∈ os ∧ o.output = some type ∧
      s.named? type = some t ∧ t.isLeaf = false ∧
      o.makeDocument s 3 = .ok "query user($id: ID) { user(id: $id) { id pet { name } } }" ∧
      ∃ entries, (o.definition s 3).selections =
          [.field none o.name (o.parameters.map argument) [] (some entries)] ∧
        s.SelectsExactly t 3 entries := by
  have run : anyOf (Schema.parse petsText) (fun s o =>
      s.types.all (fun t => t.outputFields?.all fun own => own.all fun f => f.name != "__typename") &&
      o.output.any (fun type => (s.named? type).any fun t => !t.isLeaf) &&
      (o.makeDocument s 3).toOption ==
        some "query user($id: ID) { user(id: $id) { id pet { name } } }") = true := by decide +kernel
  obtain ⟨s, os, o, parsed, listed, member, held⟩ := exists_of_anyOf run
  simp only [Bool.and_eq_true, Option.any_eq_true, beq_iff_eq, Bool.not_eq_true'] at held
  obtain ⟨⟨plain, type, result, t, inner, branching⟩, made⟩ := held
  have unreserved := unreserved_of_types plain
  have made := Outcome.toOption_eq_some_iff.1 made
  exact ⟨s, os, o, type, t, parsed, unreserved, listed, member, result, inner, branching, made,
    (makeDocument_selects unreserved result inner branching 3).1⟩

/-- A schema in which an argument is of an object type and has a default. -/
def mistypedText : String :=
  "type Query { f: A } type A { g(x: Query! = {}): Int h: Int }"

/-- **A document may not be made although a leaf is reached.**  The text is let in, and beside the field
with that argument there is one that could be selected. -/
theorem exists_unmade_document :
    ∃ s os o t fault, Schema.parse mistypedText = .ok s ∧ s.Unreserved ∧
      s.operations [.query, .mutation] = .ok os ∧ o ∈ os ∧ o.output.bind s.named? = some t ∧
      s.Reaches t 3 ["h"] ∧ o.makeDocument s 3 = .error fault := by
  have run : anyOf (Schema.parse mistypedText) (fun s o =>
      s.types.all (fun t => t.outputFields?.all fun own => own.all fun f => f.name != "__typename") &&
      (o.output.bind s.named?).any (fun t => t.outputFields?.any fun own => own.any fun f =>
        f.name == "h" && f.arguments.isEmpty && (s.named? f.type).any NamedType.isLeaf) &&
      !(o.makeDocument s 3).isOk) = true := by decide +kernel
  obtain ⟨s, os, o, parsed, listed, member, held⟩ := exists_of_anyOf run
  simp only [Bool.and_eq_true, Option.any_eq_true, List.any_eq_true, beq_iff_eq,
    List.isEmpty_iff] at held
  obtain ⟨⟨plain, t, result, own, has, f, there, ⟨named, none⟩, u, inner, leaf⟩, unmade⟩ := held
  have reached : s.Reaches t 3 ["h"] := by
    refine ⟨[f], [t], u, .step has there inner (.here u), leaf, ?_, ?_, ?_, ?_⟩
    · rw [← named]
      rfl
    · exact List.nodup_singleton t.name
    · intro g only a given
      rw [List.mem_singleton.1 only, none] at given
      cases given
    · decide
  cases failed : o.makeDocument s 3 with
  | error fault =>
      exact ⟨s, os, o, t, fault, parsed, unreserved_of_types plain, listed, member, result, reached, failed⟩
  | ok document =>
      rw [failed] at unmade
      cases unmade

end Operation

end QueryTools
