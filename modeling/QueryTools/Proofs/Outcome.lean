/-!
# Steps that may fail

What is known of a step, a chain of steps, or a step for each item of a list once it is known to have
succeeded.
-/

namespace QueryTools.Outcome

variable {ε ε' α β γ : Type}

/-- Two steps succeed just if the first does, and the second with its result. -/
theorem bind_eq_ok {x : Except ε α} {f : α → Except ε β} {b : β} :
    (x >>= f) = .ok b ↔ ∃ a, x = .ok a ∧ f a = .ok b := by
  cases x with
  | error e => simp [bind, Except.bind]
  | ok a => simp [bind, Except.bind]

/-- They fail just as the first does, or as the second does with its result. -/
theorem bind_eq_error {x : Except ε α} {f : α → Except ε β} {e : ε} :
    (x >>= f) = .error e ↔ x = .error e ∨ ∃ a, x = .ok a ∧ f a = .error e := by
  cases x with
  | error e' => simp [bind, Except.bind]
  | ok a => simp [bind, Except.bind]

theorem pure_eq_ok {a b : α} : (pure a : Except ε α) = .ok b ↔ a = b := by
  simp [pure, Except.pure]

theorem throw_ne_ok {e : ε} {a : α} : (throw e : Except ε α) ≠ .ok a := by
  simp [throw, throwThe, MonadExceptOf.throw]

/-- What is made of a result succeeds just if there is one. -/
theorem map_eq_ok {f : α → β} {x : Except ε α} {b : β} :
    f <$> x = .ok b ↔ ∃ a, x = .ok a ∧ f a = b := by
  cases x with
  | error e => simp [Functor.map, Except.map]
  | ok a => simp [Functor.map, Except.map]

/-- What is made of a result fails just as it does. -/
theorem map_eq_error {f : α → β} {x : Except ε α} {e : ε} : f <$> x = .error e ↔ x = .error e := by
  cases x with
  | error e' => simp [Functor.map, Except.map]
  | ok a => simp [Functor.map, Except.map]

/-- A step whose result is changed afterwards succeeds just where it does without that. -/
theorem exists_map_eq_ok {f : α → β} {x : Except ε α} :
    (∃ b, f <$> x = .ok b) ↔ ∃ a, x = .ok a := by
  cases x with
  | error e => simp [Functor.map, Except.map]
  | ok a => simp [Functor.map, Except.map]

theorem mapError_ok (f : ε → ε') (a : α) : (Except.ok a).mapError f = .ok a := rfl

theorem mapError_error (f : ε → ε') (e : ε) : (Except.error e : Except ε α).mapError f = .error (f e) :=
  rfl

theorem mapError_eq_ok {f : ε → ε'} {x : Except ε α} {a : α} :
    x.mapError f = .ok a ↔ x = .ok a := by
  cases x <;> simp [mapError_ok, mapError_error]

theorem mapError_eq_error {f : ε → ε'} {x : Except ε α} {e : ε'} :
    x.mapError f = .error e ↔ ∃ d, x = .error d ∧ e = f d := by
  cases x <;> simp [mapError_ok, mapError_error, eq_comm]

theorem toOption_eq_some_iff {x : Except ε α} {a : α} : x.toOption = some a ↔ x = .ok a := by
  cases x <;> simp [Except.toOption]

/-! ## A step for each item -/

/-- The steps of a list succeed just if the first does and the others do. -/
theorem mapM_cons_eq_ok {f : α → Except ε β} {x : α} {xs : List α} {ys : List β} :
    (x :: xs).mapM f = .ok ys ↔ ∃ y, f x = .ok y ∧ ∃ rest, xs.mapM f = .ok rest ∧ ys = y :: rest := by
  simp only [List.mapM_cons, bind_eq_ok, pure_eq_ok, eq_comm (a := ys)]

/-- Where the first step succeeds, what is known of all results is known behind its own. -/
theorem exists_mapM_cons_iff {f : α → Except ε β} {x : α} {xs : List α} {y : β} (first : f x = .ok y)
    {holds : List β → Prop} :
    (∃ ys, (x :: xs).mapM f = .ok ys ∧ holds ys) ↔ ∃ ys, xs.mapM f = .ok ys ∧ holds (y :: ys) := by
  constructor
  · rintro ⟨ys, made, held⟩
    obtain ⟨z, again, rest, later, rfl⟩ := mapM_cons_eq_ok.1 made
    cases first.symm.trans again
    exact ⟨rest, later, held⟩
  · rintro ⟨rest, later, held⟩
    exact ⟨y :: rest, mapM_cons_eq_ok.2 ⟨y, first, rest, later, rfl⟩, held⟩

/-- Each result was made of an item. -/
theorem exists_of_mem_mapM {f : α → Except ε β} {xs : List α} {ys : List β}
    (made : xs.mapM f = .ok ys) {y : β} (member : y ∈ ys) : ∃ x ∈ xs, f x = .ok y := by
  induction xs generalizing ys with
  | nil =>
      rw [List.mapM_nil, pure_eq_ok] at made
      rw [← made] at member
      cases member
  | cons x rest ih =>
      obtain ⟨z, first, zs, later, rfl⟩ := mapM_cons_eq_ok.1 made
      rcases List.mem_cons.1 member with rfl | deeper
      · exact ⟨x, List.mem_cons_self, first⟩
      · obtain ⟨w, there, makes⟩ := ih later deeper
        exact ⟨w, List.mem_cons_of_mem x there, makes⟩

/-- Of each item a result was made. -/
theorem exists_mem_of_mapM {f : α → Except ε β} {xs : List α} {ys : List β}
    (made : xs.mapM f = .ok ys) {x : α} (member : x ∈ xs) : ∃ y ∈ ys, f x = .ok y := by
  induction xs generalizing ys with
  | nil => cases member
  | cons w rest ih =>
      obtain ⟨z, first, zs, later, rfl⟩ := mapM_cons_eq_ok.1 made
      rcases List.mem_cons.1 member with rfl | deeper
      · exact ⟨z, List.mem_cons_self, first⟩
      · obtain ⟨y, there, makes⟩ := ih later deeper
        exact ⟨y, List.mem_cons_of_mem z there, makes⟩

/-- Where each step succeeds all of them do. -/
theorem mapM_map_of_forall {f : β → Except ε γ} {entry : α → β} {g : α → γ} {xs : List α}
    (each : ∀ x ∈ xs, f (entry x) = .ok (g x)) : (xs.map entry).mapM f = .ok (xs.map g) := by
  induction xs with
  | nil => rfl
  | cons x rest ih =>
      have first := each x List.mem_cons_self
      have later := ih fun y member => each y (List.mem_cons_of_mem x member)
      exact mapM_cons_eq_ok.2 ⟨g x, first, _, later, rfl⟩

/-- All steps succeed just where each does. -/
theorem exists_mapM_iff {f : α → Except ε β} {xs : List α} :
    (∃ ys, xs.mapM f = .ok ys) ↔ ∀ x ∈ xs, ∃ y, f x = .ok y := by
  induction xs with
  | nil => exact ⟨fun _ => nofun, fun _ => ⟨[], rfl⟩⟩
  | cons x rest ih =>
      rw [List.forall_mem_cons, ← ih]
      constructor
      · rintro ⟨ys, made⟩
        obtain ⟨y, first, zs, later, -⟩ := mapM_cons_eq_ok.1 made
        exact ⟨⟨y, first⟩, zs, later⟩
      · rintro ⟨⟨y, first⟩, zs, later⟩
        exact ⟨_, mapM_cons_eq_ok.2 ⟨y, first, zs, later, rfl⟩⟩

/-- Where a step fails all of them fail with its failure. -/
theorem exists_of_mapM_error {f : α → Except ε β} {xs : List α} {e : ε}
    (failed : xs.mapM f = .error e) : ∃ x ∈ xs, f x = .error e := by
  induction xs with
  | nil => cases failed
  | cons x rest ih =>
      rw [List.mapM_cons] at failed
      rcases bind_eq_error.1 failed with here | ⟨y, -, failed⟩
      · exact ⟨x, List.mem_cons_self, here⟩
      · rcases bind_eq_error.1 failed with later | ⟨ys, -, never⟩
        · obtain ⟨z, there, fails⟩ := ih later
          exact ⟨z, List.mem_cons_of_mem x there, fails⟩
        · cases never

/-- A property of results that the items already tell, read off all of them. -/
theorem map_of_mapM {f : α → Except ε β} {ofItem : α → γ} {ofResult : β → γ}
    (kept : ∀ x y, f x = .ok y → ofResult y = ofItem x) {xs : List α} {ys : List β}
    (made : xs.mapM f = .ok ys) : ys.map ofResult = xs.map ofItem := by
  induction xs generalizing ys with
  | nil =>
      rw [List.mapM_nil, pure_eq_ok] at made
      rw [← made]
      rfl
  | cons x rest ih =>
      obtain ⟨y, first, zs, later, rfl⟩ := mapM_cons_eq_ok.1 made
      rw [List.map_cons, List.map_cons, kept x y first, ih later]

end QueryTools.Outcome
