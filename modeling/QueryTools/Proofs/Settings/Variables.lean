import QueryTools.Proofs.Keyed
import QueryTools.Proofs.Outcome
import QueryTools.Settings.Sources

/-!
# Settings from variables

What variables give for the settings.  A setting has the text of the last variable of its name, whatever the
case (`Setting.textIn?`).  Reading stops at the first text that cannot be read, which only one of JSON can be,
and gives what each text stands for otherwise (`SettingValues.ofTexts_eq`).

Main statements:

* `SettingValues.exists_ofTexts_iff` -- just which variables can be read;
* `SettingValues.ofTexts_agree` -- variables that differ in texts that can be read, and only under the names
  of some settings, give the same for all others.
-/

namespace QueryTools

/-! ## Variables -/

/-- A text is lowered once. -/
theorem Text.lower_lower (s : String) : lower (lower s) = lower s := by
  have fixed (c : Char) (other : ¬ (c.val ≥ 'A'.val ∧ c.val ≤ 'Z'.val)) : c.toLower = c := by
    unfold Char.toLower
    rw [dif_neg other]
  have letter (c : Char) : c.toLower.toLower = c.toLower := by
    by_cases upper : c.val ≥ 'A'.val ∧ c.val ≤ 'Z'.val
    · refine fixed c.toLower ?_
      unfold Char.toLower
      rw [dif_pos upper]
      intro again
      have low := UInt32.le_iff_toNat_le.1 upper.1
      have high := UInt32.le_iff_toNat_le.1 upper.2
      have top := UInt32.le_iff_toNat_le.1 again.2
      simp [UInt32.toNat_add] at low high top
      omega
    · rw [fixed c upper, fixed c upper]
  unfold lower
  rw [String.toList_ofList, List.map_map]
  exact congrArg String.ofList (List.map_congr_left fun c _ => letter c)

namespace EnvFile.Variables

/-- The value of a variable, whatever the case of its name; of several the last counts. -/
def value? (vars : Variables) (name : String) : Option String :=
  (vars.reverse.find? fun p => Text.lower p.1 == name).bind Prod.snd

/-- Two lists of variables hold the same under all names but those of some settings. -/
def AgreeBut (settings : List Setting) (vars vars' : Variables) : Prop :=
  ∀ name, (∀ s ∈ settings, name ∉ s.names) → vars.value? name = vars'.value? name

/-- The variables that are under no name of some settings. -/
def without (settings : List Setting) (vars : Variables) : Variables :=
  vars.filter fun p => settings.all fun s => !s.names.contains (Text.lower p.1)

/-- Variables agree with those that lack some settings, but in these. -/
theorem agreeBut_without (settings : List Setting) (vars : Variables) :
    vars.AgreeBut settings (vars.without settings) := by
  intro name other
  unfold value? without
  rw [← List.filter_reverse, List.find?_filter]
  congr 2
  funext p
  by_cases named : Text.lower p.1 = name
  · simpa [named] using other
  · simp [named]

end EnvFile.Variables

namespace Setting

/-- The text that variables give for a setting, under the first of its names that has a value. -/
def textIn? (s : Setting) (vars : EnvFile.Variables) : Option String := s.names.findSome? vars.value?

theorem mem_all (s : Setting) : s ∈ all := by
  cases s <;> decide

theorem nodup_all : all.Nodup := by decide

/-- No two settings share a name. -/
theorem eq_of_mem_names {s t : Setting} {name : String} (first : name ∈ s.names) (second : name ∈ t.names) :
    s = t := by
  have apart : ∀ s ∈ all, ∀ t ∈ all, ∀ name ∈ s.names, name ∈ t.names → s = t := by decide +kernel
  exact apart s s.mem_all t t.mem_all name first second

/-- Variables that agree but for some settings have the same texts for the others. -/
theorem textIn?_congr {settings : List Setting} {vars vars' : EnvFile.Variables}
    (agree : vars.AgreeBut settings vars') {s : Setting} (other : s ∉ settings) :
    s.textIn? vars = s.textIn? vars' := by
  unfold textIn?
  have same : ∀ name ∈ s.names, vars.value? name = vars'.value? name := by
    intro name named
    refine agree name fun t member alsoNamed => other ?_
    rwa [eq_of_mem_names named alsoNamed]
  generalize s.names = names at same
  induction names with
  | nil => rfl
  | cons name names ih =>
      rw [List.findSome?_cons, List.findSome?_cons, same name List.mem_cons_self,
        ih fun later member => same later (List.mem_cons_of_mem name member)]

/-- The text for a setting is none that its source fails to read: only what is written as JSON can be. -/
def ReadableIn (s : Setting) (vars : EnvFile.Variables) : Prop :=
  s.isStructured = true → ∀ text, s.textIn? vars = some text → ∃ v, Json.read text = .ok v

end Setting

/-! ## Values by setting -/

namespace Settings

/-- The first value of a setting counts. -/
theorem valueOf?_cons (p : Setting × Json) (values : SettingValues) (s : Setting) :
    valueOf? (p :: values) s = if p.1 = s then some p.2 else valueOf? values s := by
  unfold valueOf?
  by_cases same : p.1 = s <;> simp [same]

/-- What a list holds that was made setting by setting. -/
theorem valueOf?_each (f : Setting → Option Json) (s : Setting) :
    valueOf? (Setting.all.filterMap fun t => (f t).map fun v => (t, v)) s = f s := by
  have listed (ts : List Setting) :
      valueOf? (ts.filterMap fun t => (f t).map fun v => (t, v)) s = if s ∈ ts then f s else none := by
    induction ts with
    | nil => rfl
    | cons t rest ih =>
        rw [List.filterMap_cons]
        cases made : f t with
        | none =>
            rw [Option.map_none, ih]
            by_cases same : s = t
            · simp [same, made]
            · simp [same]
        | some v =>
            rw [Option.map_some, valueOf?_cons, ih]
            by_cases same : t = s
            · simp [← same, made]
            · simp [same, Ne.symm same]
  rw [listed, if_pos s.mem_all]

end Settings

/-! ## Reading variables -/

namespace SettingValues

variable {source : String} {vars vars' : EnvFile.Variables} {settings : List Setting} {s : Setting}

/-- The variables that have a value, under small names. -/
def held (vars : EnvFile.Variables) : Keyed String :=
  (Keyed.ofPairs (vars.map fun p => (Text.lower p.1, p.2))).filterMap fun p =>
    p.2.map fun text => (p.1, text)

/-- Variables are held under lowered names. -/
theorem lower_of_mem_held {p : String × String} (member : p ∈ held vars) : Text.lower p.1 = p.1 := by
  obtain ⟨q, made, has⟩ := List.mem_filterMap.1 member
  obtain ⟨text, -, rfl⟩ := Option.map_eq_some_iff.1 has
  obtain ⟨r, -, rfl⟩ := List.mem_map.1 (Keyed.mem_ofPairs made)
  exact Text.lower_lower r.1

/-- What is held under a name is the value that a variable of the name has. -/
theorem get?_held (vars : EnvFile.Variables) (name : String) : Keyed.get? name (held vars) = vars.value? name := by
  have join (x : Option (String × Option String)) :
      (x.map (Prod.snd ∘ fun p => (Text.lower p.1, p.2))).join = x.bind Prod.snd := by
    cases x <;> rfl
  unfold held EnvFile.Variables.value?
  rw [Keyed.get?_values (Keyed.nodup_names_ofPairs _), Keyed.ofPairs, Keyed.get?_merge, ← List.map_reverse,
    List.find?_map, Keyed.get?_nil, Option.or_none, Option.map_map]
  exact join _

/-- A setting is read under the first of its names that has a value. -/
theorem named?_held (vars : EnvFile.Variables) (s : Setting) : named? (held vars) s = s.textIn? vars := by
  unfold named? Setting.textIn?
  congr 1
  funext name
  rw [← get?_held, Keyed.get?_eq_find?]
  have small : ∀ p ∈ held vars, Text.lower p.1 = p.1 := fun p => lower_of_mem_held
  generalize held vars = ps at small
  induction ps with
  | nil => rfl
  | cons p ps ih =>
      have later := ih fun q member => small q (List.mem_cons_of_mem p member)
      rw [List.find?_cons, List.find?_cons, small p List.mem_cons_self]
      cases p.1 == name with
      | true => rfl
      | false => exact later

/-- What variables give for a setting. -/
def ofVariables (source : String) (vars : EnvFile.Variables) (s : Setting) : Except Failure (Option Json) :=
  match s.textIn? vars with
  | some text => ofText source s text
  | none => pure none

/-- What keeps variables from giving a setting its value. -/
def fault? (source : String) (vars : EnvFile.Variables) (s : Setting) : Option Failure :=
  match ofVariables source vars s with
  | .error f => some f
  | .ok _ => none

/-- The value that variables give for a setting, where nothing keeps them from it. -/
def given? (source : String) (vars : EnvFile.Variables) (s : Setting) : Option Json :=
  (ofVariables source vars s).toOption.join

/-- Variables give values to the settings that they name, or fail for the first that cannot be decoded. -/
theorem ofTextsFor_eq (source : String) (vars : EnvFile.Variables) (settings : List Setting) :
    ofTextsFor source (held vars) settings =
      match settings.findSome? (fault? source vars) with
      | some f => .error f
      | none => .ok (settings.filterMap fun s => (given? source vars s).map fun v => (s, v)) := by
  induction settings with
  | nil => rfl
  | cons s rest ih =>
      have next : ofTextsFor source (held vars) (s :: rest) = (do
          let here ← ofVariables source vars s
          let more ← ofTextsFor source (held vars) rest
          return (here.map fun v => (s, v)).toList ++ more) := by
        rw [ofTextsFor, ofVariables, named?_held]
        cases s.textIn? vars <;> rfl
      rw [next, ih]
      cases told : ofVariables source vars s with
      | error f =>
          have stops : fault? source vars s = some f := by simp only [fault?, told]
          rw [List.findSome?_cons, stops]
          rfl
      | ok here =>
          have passes : fault? source vars s = none := by simp only [fault?, told]
          have gives : given? source vars s = here := by simp only [given?, told, Except.toOption, Option.join_some]
          rw [List.findSome?_cons, passes]
          cases later : rest.findSome? (fault? source vars) with
          | some f => rfl
          | none =>
              rw [List.filterMap_cons, gives]
              cases here <;> rfl

/-- Variables give values to all settings that they name, or fail for the first that cannot be decoded. -/
theorem ofTexts_eq (source : String) (vars : EnvFile.Variables) :
    ofTexts source vars =
      match Setting.all.findSome? (fault? source vars) with
      | some f => .error f
      | none => .ok (Setting.all.filterMap fun s => (given? source vars s).map fun v => (s, v)) :=
  ofTextsFor_eq source vars Setting.all

/-- What variables give a setting turns on the text that they have for it. -/
theorem ofVariables_congr (same : s.textIn? vars = s.textIn? vars') :
    ofVariables source vars s = ofVariables source vars' s := by
  unfold ofVariables
  rw [same]

/-- A setting stops the reading just where it is written as JSON and its text is none. -/
theorem fault?_eq_none_iff : fault? source vars s = none ↔ s.ReadableIn vars := by
  unfold fault? ofVariables Setting.ReadableIn
  cases told : s.textIn? vars with
  | none => exact iff_of_true rfl fun _ _ => nofun
  | some text =>
      cases structured : s.isStructured with
      | false => simp [ofText, structured]
      | true => cases read : Json.read text with
        | error e => simp [ofText, structured, read]
        | ok v => cases v <;> simp [ofText, structured, read]

/-- Variables that differ in texts that can be read, and only under the names of some settings, are read alike
but for these settings. -/
theorem ofTexts_agree (agree : vars.AgreeBut settings vars')
    (readable : ∀ s ∈ settings, s.ReadableIn vars) (readable' : ∀ s ∈ settings, s.ReadableIn vars') :
    (∃ f, ofTexts source vars = .error f ∧ ofTexts source vars' = .error f) ∨
      ∃ values values', ofTexts source vars = .ok values ∧ ofTexts source vars' = .ok values' ∧
        ∀ s ∉ settings, Settings.valueOf? values s = Settings.valueOf? values' s := by
  have same : fault? source vars = fault? source vars' := by
    funext s
    by_cases member : s ∈ settings
    · rw [fault?_eq_none_iff.2 (readable s member), fault?_eq_none_iff.2 (readable' s member)]
    · unfold fault?
      rw [ofVariables_congr (Setting.textIn?_congr agree member)]
  rw [ofTexts_eq, ofTexts_eq, same]
  cases Setting.all.findSome? (fault? source vars') with
  | some f => exact .inl ⟨f, rfl, rfl⟩
  | none =>
      refine .inr ⟨_, _, rfl, rfl, fun s other => ?_⟩
      rw [Settings.valueOf?_each, Settings.valueOf?_each]
      unfold given?
      rw [ofVariables_congr (Setting.textIn?_congr agree other)]

/-- Reading variables fails where a text cannot be read, and only there. -/
theorem exists_ofTexts_iff : (∃ values, ofTexts source vars = .ok values) ↔ ∀ s : Setting, s.ReadableIn vars := by
  have none_iff : Setting.all.findSome? (fault? source vars) = none ↔ ∀ s : Setting, s.ReadableIn vars := by
    rw [List.findSome?_eq_none_iff]
    exact ⟨fun passed s => fault?_eq_none_iff.1 (passed s s.mem_all),
      fun passed s _ => fault?_eq_none_iff.2 (passed s)⟩
  rw [ofTexts_eq, ← none_iff]
  cases Setting.all.findSome? (fault? source vars) with
  | some f => exact iff_of_false (fun ⟨_, made⟩ => nomatch made) nofun
  | none => exact iff_of_true ⟨_, rfl⟩ rfl

/-- Where variables can be decoded each setting has what they give it. -/
theorem valueOf?_ofTexts {values : SettingValues} (made : ofTexts source vars = .ok values) (s : Setting) :
    Settings.valueOf? values s = given? source vars s := by
  rw [ofTexts_eq] at made
  cases stopped : Setting.all.findSome? (fault? source vars) with
  | some f =>
      rw [stopped] at made
      cases made
  | none =>
      rw [stopped] at made
      cases made
      exact Settings.valueOf?_each (given? source vars) s

/-- A setting without a text is given nothing. -/
theorem given?_of_absent (absent : s.textIn? vars = none) : given? source vars s = none := by
  unfold given? ofVariables
  rw [absent]
  rfl

/-- What variables give turns on the texts that they have for the settings. -/
theorem ofTexts_congr (same : ∀ s : Setting, s.textIn? vars = s.textIn? vars') :
    ofTexts source vars = ofTexts source vars' := by
  have alike : ofVariables source vars = ofVariables source vars' := by
    funext s
    exact ofVariables_congr (same s)
  rw [ofTexts_eq, ofTexts_eq]
  unfold fault? given?
  rw [alike]

/-- Headers come first of what is written as JSON, so a fault with them is the one that is told. -/
theorem ofTexts_of_headers_fault {f : Failure} (fails : ofVariables source vars .headers = .error f) :
    ofTexts source vars = .error f := by
  have plain {s : Setting} (other : s.isStructured = false) : fault? source vars s = none := by
    apply fault?_eq_none_iff.2
    intro structured
    rw [other] at structured
    cases structured
  have first : fault? source vars .headers = some f := by
    unfold fault?
    rw [fails]
  have found : Setting.all.findSome? (fault? source vars) = some f := by
    unfold Setting.all
    rw [List.findSome?_cons, plain rfl]
    dsimp only
    rw [List.findSome?_cons, plain rfl]
    dsimp only
    rw [List.findSome?_cons, plain rfl]
    dsimp only
    rw [List.findSome?_cons, first]
  rw [ofTexts_eq, found]

end SettingValues

end QueryTools
