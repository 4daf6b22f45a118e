import QueryTools.Proofs.Settings.Variables

/-!
# Values that settings hold

Reading the value of one setting neither needs the others nor changes them.  So the values of all settings can
be read just where each of them can, and settings that were read hold every value that was given: to put it into
its place once more changes nothing.

Main statements:

* `Settings.exists_read_iff` -- just which values can be read;
* `Settings.put_of_read` and `Settings.mem_given_iff` -- what was given is held, and nothing else counts as given;
* `Settings.read_congr` -- a value counts only by what it is read as.
-/

namespace QueryTools.Settings

variable {values values' : SettingValues} {s s' : Settings} {t u : Setting} {v w : Json}

/-! ## One value -/

/-- Whether a value can be read is a matter of the value. -/
theorem exists_put_iff (s s' : Settings) :
    (∃ r, s.put t v = .ok r) ↔ ∃ r, s'.put t v = .ok r := by
  cases t <;> exact Outcome.exists_map_eq_ok.trans Outcome.exists_map_eq_ok.symm

/-- Setting a value does not say that it was given. -/
theorem given_put (placed : s.put t v = .ok s') : s'.given = s.given := by
  cases t <;>
    (obtain ⟨x, -, rfl⟩ := Outcome.map_eq_ok.1 placed
     rfl)

/-- A value that was put into its place is there. -/
theorem put_self (placed : s.put t v = .ok s') : s'.put t v = .ok s' := by
  cases t <;>
    (obtain ⟨x, read, rfl⟩ := Outcome.map_eq_ok.1 placed
     exact Outcome.map_eq_ok.2 ⟨x, read, rfl⟩)

/-- A value that is in its place stays there when another setting is read. -/
theorem put_of_put (differs : t ≠ u) (held : s.put t v = .ok s) (placed : s.put u w = .ok s') :
    s'.put t v = .ok s' := by
  cases t <;> obtain ⟨x, read, same⟩ := Outcome.map_eq_ok.1 held <;> cases u <;>
    first
    | exact absurd rfl differs
    | (obtain ⟨y, -, rfl⟩ := Outcome.map_eq_ok.1 placed
       refine Outcome.map_eq_ok.2 ⟨x, read, ?_⟩
       conv_rhs => rw [← same])

/-- What was given before makes no difference to a value that is in its place. -/
theorem put_of_given (held : s.put t v = .ok s) (given : List Setting) :
    { s with given }.put t v = .ok { s with given } := by
  cases t <;>
    (obtain ⟨x, read, same⟩ := Outcome.map_eq_ok.1 held
     refine Outcome.map_eq_ok.2 ⟨x, read, ?_⟩
     conv_rhs => rw [← same])

/-! ## One value after the other -/

/-- All that reading one more setting can do. -/
theorem readEach_cons_eq_ok {rest : List Setting} :
    readEach values (t :: rest) s = .ok s' ↔
      (valueOf? values t = none ∧ readEach values rest s = .ok s') ∨
        ∃ v r, valueOf? values t = some v ∧ s.put t v = .ok r ∧
          readEach values rest { r with given := r.given ++ [t] } = .ok s' := by
  rw [readEach]
  cases present : valueOf? values t with
  | none => simp
  | some v =>
      dsimp only
      cases placed : s.put t v with
      | ok r => simp [placed]
      | error es => cases readEach values rest s <;> simp [placed]

/-- Settings are read just if each value that is there can be set. -/
theorem exists_readEach_iff {ts : List Setting} (s : Settings) :
    (∃ r, readEach values ts s = .ok r) ↔
      ∀ t ∈ ts, ∀ v, valueOf? values t = some v → ∃ r, ({} : Settings).put t v = .ok r := by
  induction ts generalizing s with
  | nil => exact iff_of_true ⟨s, rfl⟩ nofun
  | cons t rest ih =>
      rw [List.forall_mem_cons]
      constructor
      · rintro ⟨s', made⟩
        rcases readEach_cons_eq_ok.1 made with ⟨absent, later⟩ | ⟨v, r, present, placed, later⟩
        · refine ⟨?_, (ih s).1 ⟨s', later⟩⟩
          intro v present
          cases absent.symm.trans present
        · refine ⟨?_, (ih _).1 ⟨s', later⟩⟩
          intro w again
          cases present.symm.trans again
          exact (exists_put_iff s {}).1 ⟨r, placed⟩
      · intro ⟨here, there⟩
        cases present : valueOf? values t with
        | none =>
            obtain ⟨s', later⟩ := (ih s).2 there
            exact ⟨s', readEach_cons_eq_ok.2 (.inl ⟨present, later⟩)⟩
        | some v =>
            obtain ⟨r, placed⟩ := (exists_put_iff {} s).1 (here v present)
            obtain ⟨s', later⟩ := (ih _).2 there
            exact ⟨s', readEach_cons_eq_ok.2 (.inr ⟨v, r, present, placed, later⟩)⟩

/-- What is in its place stays there when other settings are read. -/
theorem put_of_readEach {ts : List Setting} (other : u ∉ ts) (held : s.put u w = .ok s)
    (made : readEach values ts s = .ok s') : s'.put u w = .ok s' := by
  induction ts generalizing s with
  | nil =>
      cases made
      exact held
  | cons t rest ih =>
      obtain ⟨differs, other⟩ := List.ne_and_not_mem_of_not_mem_cons other
      rcases readEach_cons_eq_ok.1 made with ⟨-, later⟩ | ⟨v, r, -, placed, later⟩
      · exact ih other held later
      · have kept := put_of_put differs held placed
        exact ih other (put_of_given kept _) later

/-- What settings are read of is what they hold. -/
theorem put_of_mem {ts : List Setting} (distinct : ts.Nodup) (made : readEach values ts s = .ok s')
    (member : t ∈ ts) (present : valueOf? values t = some v) : s'.put t v = .ok s' := by
  induction ts generalizing s with
  | nil => cases member
  | cons u rest ih =>
      obtain ⟨other, distinct⟩ := List.nodup_cons.1 distinct
      rcases readEach_cons_eq_ok.1 made with ⟨absent, later⟩ | ⟨w, r, first, placed, later⟩
      · by_cases same : t = u
        · subst same
          cases absent.symm.trans present
        · exact ih distinct later (List.mem_of_ne_of_mem same member)
      · by_cases same : t = u
        · subst same
          cases first.symm.trans present
          exact put_of_readEach other (put_of_given (put_self placed) _) later
        · exact ih distinct later (List.mem_of_ne_of_mem same member)

/-- The settings that have a value are the ones that were given. -/
theorem given_of_readEach {ts : List Setting} (made : readEach values ts s = .ok s') :
    s'.given = s.given ++ ts.filter fun t => (valueOf? values t).isSome := by
  induction ts generalizing s with
  | nil =>
      cases made
      exact (List.append_nil _).symm
  | cons t rest ih =>
      rcases readEach_cons_eq_ok.1 made with ⟨absent, later⟩ | ⟨v, r, present, placed, later⟩
      · rw [ih later, List.filter_cons, absent]
        rfl
      · rw [ih later, given_put placed, List.filter_cons, present, List.append_assoc]
        rfl

/-- What is read turns on what each value sets. -/
theorem readEach_congr {ts : List Setting}
    (same : ∀ t ∈ ts, ∀ s : Settings, (valueOf? values t).map (s.put t) = (valueOf? values' t).map (s.put t))
    (s : Settings) : readEach values ts s = readEach values' ts s := by
  induction ts generalizing s with
  | nil => rfl
  | cons t rest ih =>
      have later := ih fun u member => same u (List.mem_cons_of_mem t member)
      have here := same t List.mem_cons_self s
      rw [readEach, readEach]
      cases present : valueOf? values t with
      | none =>
          rw [present] at here
          rw [Option.map_eq_none_iff.1 here.symm]
          exact later s
      | some v =>
          rw [present] at here
          obtain ⟨w, present', placed⟩ := Option.map_eq_some_iff.1 here.symm
          rw [present']
          dsimp only
          rw [placed]
          cases s.put t v with
          | ok r => exact later _
          | error es =>
              dsimp only
              rw [later]

/-! ## All settings -/

/-- **Each value is read by itself.** -/
theorem exists_read_iff :
    (∃ r, read values = .ok r) ↔ ∀ t v, valueOf? values t = some v → ∃ r, ({} : Settings).put t v = .ok r := by
  refine (exists_readEach_iff {}).trans ?_
  exact ⟨fun each t v present => each t t.mem_all v present, fun each t _ v present => each t v present⟩

/-- **Settings hold what was given.** -/
theorem put_of_read (made : read values = .ok s) (present : valueOf? values t = some v) :
    s.put t v = .ok s :=
  put_of_mem Setting.nodup_all made t.mem_all present

/-- Just the settings that have a value count as given. -/
theorem mem_given_iff (made : read values = .ok s) : t ∈ s.given ↔ (valueOf? values t).isSome = true := by
  rw [given_of_readEach made]
  simp [t.mem_all]

/-- What settings are read of turns on what each value sets. -/
theorem read_congr
    (same : ∀ t, ∀ s : Settings, (valueOf? values t).map (s.put t) = (valueOf? values' t).map (s.put t)) :
    read values = read values' :=
  readEach_congr (fun t _ => same t) {}

end QueryTools.Settings
