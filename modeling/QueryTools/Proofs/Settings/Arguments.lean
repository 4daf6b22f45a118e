import QueryTools.Proofs.Outcome
import QueryTools.Proofs.Settings.Variables
import QueryTools.Settings.CommandLine
import Mathlib.Data.List.TakeDrop

/-!
# Values from the command line

An option takes note of one value, which is no object, or cannot be used; which of the two, and which value,
is a matter of the arguments alone and not of what was used before (`CommandLine.useFollowing_cases`).  So two
runs over the same arguments that begin differently stay as different as they were (`CommandLine.useAll_pair`).

Main statements:

* `CommandLine.obj?_of_read` -- the command line gives no objects;
* `CommandLine.read_headers` -- what headers in front of other arguments give.
-/

namespace QueryTools

/-- A text is split at the first of the characters. -/
theorem Text.splitAt?_of_toList {c : Char} {s : String} {before after : List Char} (whole : c ∉ before)
    (shape : s.toList = before ++ c :: after) :
    splitAt? c s = some (String.ofList before, String.ofList after) := by
  have other (x : Char) (member : x ∈ before) : (x != c) = true := by
    simpa using fun same : x = c => whole (same ▸ member)
  unfold splitAt?
  rw [shape, List.span_eq_takeWhile_dropWhile, List.takeWhile_append_of_pos other,
    List.dropWhile_append_of_pos other]
  simp

namespace CommandLine

open Settings (valueOf?)

variable {p p' q : Progress} {o : CommandOption} {t u : Setting} {v w : Json} {arguments rest : List String}
  {given : SettingValues} {text : String}

/-! ## One option -/

/-- A value that is given to a setting is the one it has. -/
theorem valueOf?_give (p : Progress) (t u : Setting) (v : Json) :
    valueOf? (p.give t v).values u = if t = u then some v else valueOf? p.values u := by
  unfold Progress.give valueOf?
  rw [List.find?_append]
  by_cases same : t = u
  · subst same
    have gone : (p.values.filter fun q => q.1 != t).find? (fun q => q.1 = t) = none := by
      apply List.find?_eq_none.2
      intro q member
      simpa using (List.mem_filter.1 member).2
    rw [gone, if_pos rfl]
    simp
  · have kept : (p.values.filter fun q => q.1 != t).find? (fun q => q.1 = u) =
        p.values.find? fun q => q.1 = u := by
      rw [List.find?_filter]
      congr 1
      funext q
      by_cases found : q.1 = u
      · simp [found, Ne.symm same]
      · simp [found]
    rw [kept, if_neg same]
    simp [same]

/-- What is read of one argument is no object. -/
theorem obj?_of_readOne {argument : String} (read : readOne o argument = .ok v) : v.obj? = none := by
  unfold readOne at read
  split at read
  · split at read
    · cases read
      rfl
    · cases read
  · split at read
    · cases read
      rfl
    · cases read
  · split at read
    · cases read
      rfl
    · cases read
  · cases read
    rfl

/-- An option with its argument behind an equals sign gives a value that is no object, or cannot be used. -/
theorem useGiven_cases (o : CommandOption) (spelling argument : String) :
    (∃ v, v.obj? = none ∧ ∀ p, useGiven p o spelling argument = .ok (p.give o.setting v)) ∨
      ∃ f, ∀ p, useGiven p o spelling argument = .error f := by
  have reading (made : ∀ p, useGiven p o spelling argument =
        if argument = "--" then .ok (p.give o.setting (.arr []))
        else do return p.give o.setting (← readOne o argument)) :
      (∃ v, v.obj? = none ∧ ∀ p, useGiven p o spelling argument = .ok (p.give o.setting v)) ∨
        ∃ f, ∀ p, useGiven p o spelling argument = .error f := by
    by_cases empty : argument = "--"
    · exact .inl ⟨.arr [], rfl, fun p => by rw [made, if_pos empty]⟩
    · cases read : readOne o argument with
      | ok v => exact .inl ⟨v, obj?_of_readOne read, fun p => by rw [made, if_neg empty, read]; rfl⟩
      | error f => exact .inr ⟨f, fun p => by rw [made, if_neg empty, read]; rfl⟩
  cases form : o.form with
  | switch b => exact .inr ⟨.needlessArgument o argument, fun p => by rw [useGiven, form]⟩
  | help =>
      right
      unfold useGiven
      rw [form]
      dsimp only
      split
      · exact ⟨_, fun _ => rfl⟩
      · split
        · exact ⟨_, fun _ => rfl⟩
        · exact ⟨_, fun _ => rfl⟩
  | texts => exact .inl ⟨_, rfl, fun p => by rw [useGiven, form]⟩
  | text => exact reading fun p => by rw [useGiven, form]
  | whole => exact reading fun p => by rw [useGiven, form]
  | fraction => exact reading fun p => by rw [useGiven, form]
  | word choices => exact reading fun p => by rw [useGiven, form]

/-- An option with the arguments that follow it gives a value that is no object, or cannot be used. -/
theorem useFollowing_cases (o : CommandOption) (rest : List (String × Part)) :
    (∃ v used, v.obj? = none ∧ ∀ p, useFollowing p o rest = .ok (p.give o.setting v, used)) ∨
      ∃ f, ∀ p, useFollowing p o rest = .error f := by
  have reading (lacking : leadingValues rest = [] → ∀ p, useFollowing p o rest = .error (.noArgument o))
      (taking : ∀ a more, leadingValues rest = a :: more → ∀ p,
        useFollowing p o rest = do return (p.give o.setting (← readOne o a), 1)) :
      (∃ v used, v.obj? = none ∧ ∀ p, useFollowing p o rest = .ok (p.give o.setting v, used)) ∨
        ∃ f, ∀ p, useFollowing p o rest = .error f := by
    cases values : leadingValues rest with
    | nil => exact .inr ⟨.noArgument o, lacking values⟩
    | cons a more =>
        have made := taking a more values
        cases read : readOne o a with
        | ok v => exact .inl ⟨v, 1, obj?_of_readOne read, fun p => by rw [made, read]; rfl⟩
        | error f => exact .inr ⟨f, fun p => by rw [made, read]; rfl⟩
  cases form : o.form with
  | switch b => exact .inl ⟨.bool b, 0, rfl, fun p => by rw [useFollowing, form]⟩
  | help => exact .inr ⟨.helpAsked, fun p => by rw [useFollowing, form]⟩
  | texts => exact .inl ⟨_, _, rfl, fun p => by rw [useFollowing, form]⟩
  | _ =>
      apply reading
      · intro values p
        rw [useFollowing, form]
        dsimp only
        rw [values]
      · intro a more values p
        rw [useFollowing, form]
        dsimp only
        rw [values]

/-! ## All arguments -/

/-- **Two runs over the same arguments.**  What holds of two beginnings holds of the ends, if taking note of an
argument that could not be used, and of a value that is no object, keeps it. -/
theorem useAll_pair (Holds : Progress → Progress → Prop)
    (extra : ∀ p p' a, Holds p p' →
      Holds { p with extras := p.extras ++ [a] } { p' with extras := p'.extras ++ [a] })
    (give : ∀ p p' t v, v.obj? = none → Holds p p' → Holds (p.give t v) (p'.give t v))
    {skip : Nat} {ps : List (String × Part)} (p' : Progress) (begins : Holds p p')
    (used : useAll p skip ps = .ok q) :
    ∃ q', useAll p' skip ps = .ok q' ∧ Holds q q' := by
  induction ps generalizing skip p p' with
  | nil =>
      cases skip <;> cases used <;> exact ⟨p', rfl, begins⟩
  | cons here rest ih =>
      obtain ⟨a, what⟩ := here
      cases skip with
      | succ k => exact ih p' begins used
      | zero =>
          cases what with
          | value => exact ih _ (extra p p' a begins) used
          | separator => exact ih _ (extra p p' a begins) used
          | unknown => exact ih _ (extra p p' a begins) used
          | option o spelling argument =>
              cases argument with
              | some argument =>
                  obtain ⟨r, first, later⟩ := Outcome.bind_eq_ok.1 used
                  rcases useGiven_cases o spelling argument with ⟨v, plain, gives⟩ | ⟨f, fails⟩
                  · cases (gives p).symm.trans first
                    obtain ⟨q', made, ends⟩ := ih _ (give p p' o.setting v plain begins) later
                    exact ⟨q', Outcome.bind_eq_ok.2 ⟨_, gives p', made⟩, ends⟩
                  · cases (fails p).symm.trans first
              | none =>
                  obtain ⟨⟨r, count⟩, first, later⟩ := Outcome.bind_eq_ok.1 used
                  rcases useFollowing_cases o rest with ⟨v, count', plain, gives⟩ | ⟨f, fails⟩
                  · cases (gives p).symm.trans first
                    obtain ⟨q', made, ends⟩ := ih _ (give p p' o.setting v plain begins) later
                    exact ⟨q', Outcome.bind_eq_ok.2 ⟨_, gives p', made⟩, ends⟩
                  · cases (fails p).symm.trans first

/-- Arguments that are accepted leave nothing over. -/
theorem read_eq_ok : read arguments = .ok given ↔
    ∃ ps, parts arguments = .ok ps ∧ ∃ q, useAll {} 0 ps = .ok q ∧ q.extras = [] ∧ q.values = given := by
  have ends (q : Progress) :
      (if q.extras.isEmpty then return q.values else throw (.unrecognized q.extras) :
        Except UsageFault SettingValues) = .ok given ↔ q.extras = [] ∧ q.values = given := by
    cases left : q.extras with
    | nil => exact Outcome.pure_eq_ok.trans (and_iff_right rfl).symm
    | cons a more => exact iff_of_false Outcome.throw_ne_ok fun both => nomatch both.1
  unfold read
  rw [Outcome.bind_eq_ok]
  refine exists_congr fun ps => and_congr_right fun _ => ?_
  rw [Outcome.bind_eq_ok]
  exact exists_congr fun q => and_congr_right fun _ => ends q

/-- No value is an object. -/
def Progress.Plain (p : Progress) : Prop := ∀ t v, valueOf? p.values t = some v → v.obj? = none

/-- Giving a plain value keeps all values plain. -/
theorem Progress.Plain.give (holds : p.Plain) (t : Setting) (plain : v.obj? = none) : (p.give t v).Plain := by
  intro u w present
  rw [valueOf?_give] at present
  by_cases same : t = u
  · rw [if_pos same] at present
    cases present
    exact plain
  · rw [if_neg same] at present
    exact holds u w present

/-- **The command line gives no objects.** -/
theorem obj?_of_read (accepted : read arguments = .ok given) (present : valueOf? given t = some v) :
    v.obj? = none := by
  obtain ⟨ps, -, q, used, -, rfl⟩ := read_eq_ok.1 accepted
  have begins : ({} : Progress).Plain := fun _ _ => nofun
  obtain ⟨-, -, ends⟩ := useAll_pair (fun p _ => p.Plain) (fun _ _ _ holds => holds)
    (fun _ _ t _ plain holds => holds.give t plain) {} begins used
  exact ends t v present

/-! ## Headers in front -/

/-- Of two runs the second also has a value for a setting that the first has none for. -/
def Progress.Behind (t : Setting) (v : Json) (p p' : Progress) : Prop :=
  p'.extras = p.extras ∧
    ∀ u, valueOf? p'.values u = (valueOf? p.values u).or (if u = t then some v else none)

/-- Giving a value to both keeps one behind the other. -/
theorem Progress.Behind.give (holds : Behind t v p p') (u : Setting) (w : Json) :
    Behind t v (p.give u w) (p'.give u w) := by
  refine ⟨holds.1, fun x => ?_⟩
  rw [valueOf?_give, valueOf?_give, holds.2]
  by_cases same : u = x
  · rw [if_pos same, if_pos same, Option.some_or]
  · rw [if_neg same, if_neg same]

/-- A value that is given first is all that the other lacks. -/
theorem Progress.behind_first (t : Setting) (v : Json) : Behind t v {} (({} : Progress).give t v) := by
  refine ⟨rfl, fun u => ?_⟩
  rw [valueOf?_give]
  by_cases same : u = t
  · rw [if_pos same.symm, if_pos same]
    rfl
  · rw [if_neg (Ne.symm same), if_neg same]
    rfl

/-- The option for headers. -/
def headersOption : CommandOption := ⟨["--headers"], .text, .headers⟩

/-- The arguments are the option for headers with a text. -/
def SpellHeaders (text : String) (flag : List String) : Prop :=
  flag = ["--headers=" ++ text] ∨ flag = ["--headers", text] ∧ part text = .ok .value

/-- The value that the option for headers gives with a text. -/
def headersValue (text : String) : Json := if text = "--" then .arr [] else .str text

/-- Two hyphens are no JSON, and not for being too deep. -/
theorem headersValue_of_read (spells : Json.read text = .ok v) : headersValue text = .str text := by
  refine if_neg ?_
  rintro rfl
  cases spells

/-- Headers that nest too deeply stay a text. -/
theorem headersValue_of_deep {e : Json.ReadError} (fails : Json.read text = .error e)
    (deep : e.isTooDeep = true) : headersValue text = .str text := by
  refine if_neg ?_
  rintro rfl
  cases fails
  cases deep

/-- What has an equals sign is the name of no option. -/
theorem option?_eq_none {s : String} (equals : '=' ∈ s.toList) : option? s = none := by
  have plain : ∀ o ∈ options, ∀ n ∈ o.names, '=' ∉ n.toList := by decide +kernel
  apply List.find?_eq_none.2
  intro o member found
  exact plain o member s (List.contains_iff_mem.1 found) equals

/-- Headers behind an equals sign are the value of their option. -/
theorem part_headers (text : String) :
    part ("--headers=" ++ text) = .ok (.option headersOption "--headers" (some text)) := by
  have shape : ("--headers=" ++ text).toList = "--headers".toList ++ '=' :: text.toList := by
    rw [String.toList_append]
    rfl
  have split := Text.splitAt?_of_toList (by decide +kernel) shape
  have dashed : starts "-" ("--headers=" ++ text) = true := by
    unfold starts
    rw [shape]
    rfl
  have known : option? "--headers" = some headersOption := by decide +kernel
  unfold part
  dsimp only
  rw [dashed, option?_eq_none (shape ▸ by simp), split]
  simp [known]

/-- Two hyphens alone are no value. -/
theorem ne_dashes_of_part {argument : String} (plain : part argument = .ok .value) : argument ≠ "--" := by
  rintro rfl
  have dashed : starts "-" "--" = true := by decide +kernel
  have unknown : option? "--" = none := by decide +kernel
  have unsplit : Text.splitAt? '=' "--" = none := by decide +kernel
  have many : 1 < (candidates "--").length := by decide +kernel
  unfold part at plain
  rw [dashed, unknown, unsplit] at plain
  cases found : candidates "--" with
  | nil => simp [found] at many
  | cons first more =>
      cases more with
      | nil => simp [found] at many
      | cons second more => simp [found] at plain

/-- Arguments are parted one by one. -/
theorem parts_cons {a : String} {what : Part} (differs : a ≠ "--") (is : part a = .ok what)
    {ps : List (String × Part)} (parted : parts rest = .ok ps) : parts (a :: rest) = .ok ((a, what) :: ps) := by
  rw [parts, if_neg differs, is, parted]
  rfl

/-- What the option for headers is taken for, and what using it does. -/
theorem SpellHeaders.exists_front {text : String} {flag : List String} (spelled : SpellHeaders text flag)
    {ps : List (String × Part)} (parted : parts rest = .ok ps) (p : Progress) :
    ∃ front, parts (flag ++ rest) = .ok (front ++ ps) ∧
      useAll p 0 (front ++ ps) = useAll (p.give .headers (headersValue text)) 0 ps := by
  rcases spelled with rfl | ⟨rfl, plain⟩
  · have differs : "--headers=" ++ text ≠ "--" := by
      intro same
      have lengths := congrArg (fun s => s.toList.length) same
      simp at lengths
    refine ⟨[_], parts_cons differs (part_headers text) parted, ?_⟩
    have gives : useGiven p headersOption "--headers" text = .ok (p.give .headers (headersValue text)) := by
      unfold headersValue
      by_cases empty : text = "--"
      · rw [if_pos empty]
        exact if_pos empty
      · rw [if_neg empty]
        exact if_neg empty
    exact congrArg (· >>= fun q => useAll q 0 ps) gives
  · have differs := ne_dashes_of_part plain
    have named : part "--headers" = .ok (.option headersOption "--headers" none) := by
      have dashed : starts "-" "--headers" = true := by decide +kernel
      have known : option? "--headers" = some headersOption := by decide +kernel
      unfold part
      rw [dashed, known]
      rfl
    refine ⟨[_, _], parts_cons (by decide) named (parts_cons differs plain parted), ?_⟩
    unfold headersValue
    rw [if_neg differs]
    rfl

/-- **Headers in front of other arguments** give their text, where no headers come later. -/
theorem read_headers {text : String} {flag : List String} (spelled : SpellHeaders text flag)
    (accepted : read rest = .ok given) :
    ∃ given', read (flag ++ rest) = .ok given' ∧ ∀ t, valueOf? given' t =
      (valueOf? given t).or (if t = .headers then some (headersValue text) else none) := by
  obtain ⟨ps, parted, q, used, whole, rfl⟩ := read_eq_ok.1 accepted
  obtain ⟨q', used', ends⟩ := useAll_pair (Progress.Behind .headers (headersValue text))
    (fun p p' a holds => ⟨congrArg (· ++ [a]) holds.1, holds.2⟩) (fun p p' u w _ holds => holds.give u w)
    _ (Progress.behind_first .headers (headersValue text)) used
  obtain ⟨front, parted', first⟩ := spelled.exists_front parted {}
  exact ⟨q'.values, read_eq_ok.2 ⟨_, parted', q', first.trans used', ends.1.trans whole, rfl⟩, ends.2⟩

end CommandLine

end QueryTools
