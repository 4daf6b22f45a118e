import QueryTools.Proofs.Settings.Variables

/-!
# Settings from all sources

What is given outright hides what the environment gives, and this hides what the file of variables gives,
setting by setting (`SettingValues.valueOf?_layOver`); but all texts of all sources are read, hidden or not.
So what is given outright shields its settings from the variables only as far as these can be read.

Main statements:

* `Settings.gather_congr` -- backgrounds that differ only in readable texts for settings that are given
  outright give the same;
* `Settings.exists_gather_iff` -- one text that cannot be read is enough for nothing to be given;
* `Settings.load_failure` -- the ways in which loading fails;
* `SettingValues.gather_differsAt_given` and `SettingValues.gather_differsAt_variable` -- what one value more adds,
  given outright or by a variable.
-/

namespace QueryTools

/-- A value that is no object lies over whatever is below. -/
theorem Json.overlay_of_obj?_eq_none {v : Json} (plain : v.obj? = none) (below : Json) :
    below.overlay v = v := by
  cases v with
  | obj members => cases plain
  | _ => simp only [Json.overlay]

namespace SettingValues

variable {above below : SettingValues} {s : Setting}

/-- A value over another one, either of which may be missing. -/
def laid : Option Json → Option Json → Option Json
  | some v, some old => some (old.overlay v)
  | some v, none => some v
  | none, old => old

/-- A value that is no object is laid over whatever is there, or over nothing. -/
theorem laid_of_obj?_eq_none {v : Json} (plain : v.obj? = none) (old : Option Json) :
    laid (some v) old = some v := by
  cases old with
  | none => rfl
  | some below => exact congrArg some (Json.overlay_of_obj?_eq_none plain below)

/-- Values lie over others setting by setting. -/
theorem layOver_eq (above below : SettingValues) :
    layOver above below = Setting.all.filterMap fun s =>
      (laid (Settings.valueOf? above s) (Settings.valueOf? below s)).map fun v => (s, v) := by
  unfold layOver
  congr 1
  funext s
  cases Settings.valueOf? above s <;> cases Settings.valueOf? below s <;> rfl

/-- What a setting has then is what it has above, laid over what it has below. -/
theorem valueOf?_layOver (above below : SettingValues) (s : Setting) :
    Settings.valueOf? (layOver above below) s =
      laid (Settings.valueOf? above s) (Settings.valueOf? below s) := by
  rw [layOver_eq, Settings.valueOf?_each]

/-- A value of three layers. -/
theorem valueOf?_layers (given environment file : SettingValues) (s : Setting) :
    Settings.valueOf? ((given.layOver environment).layOver file) s =
      laid (laid (Settings.valueOf? given s) (Settings.valueOf? environment s)) (Settings.valueOf? file s) := by
  rw [valueOf?_layOver, valueOf?_layOver]

/-- Only what values give counts for what is laid over. -/
theorem layOver_congr {above' below' : SettingValues}
    (same : ∀ s, laid (Settings.valueOf? above s) (Settings.valueOf? below s) =
      laid (Settings.valueOf? above' s) (Settings.valueOf? below' s)) :
    layOver above below = layOver above' below' := by
  rw [layOver_eq, layOver_eq]
  congr 1
  funext s
  rw [same s]

end SettingValues

namespace Settings

/-- What settings are read from besides the values given outright. -/
structure Background where
  environment : Keyed String
  files : Files

namespace Background

/-- The variables of the environment. -/
def environmentVariables (b : Background) : EnvFile.Variables := Keyed.mapValues some b.environment

/-- The variables of the file in the working directory. -/
def fileVariables (b : Background) : Except Failure EnvFile.Variables :=
  Settings.fileVariables b.environment b.files

/-- Two backgrounds hold the same but under the names of some settings.  A file that is no text has no
variables to compare. -/
def AgreeBut (settings : List Setting) (b b' : Background) : Prop :=
  b.environmentVariables.AgreeBut settings b'.environmentVariables ∧
    ∀ vars vars', b.fileVariables = .ok vars → b'.fileVariables = .ok vars' →
      vars.AgreeBut settings vars'

/-- The file of variables is a text, and neither it nor the environment holds something for one of the
settings that cannot be read. -/
def Readable (settings : List Setting) (b : Background) : Prop :=
  (∀ s ∈ settings, s.ReadableIn b.environmentVariables) ∧
    ∃ vars, b.fileVariables = .ok vars ∧ ∀ s ∈ settings, s.ReadableIn vars

/-- A background that is readable for some settings is so for fewer. -/
theorem Readable.mono {settings settings' : List Setting} {b : Background}
    (readable : b.Readable settings) (subset : settings' ⊆ settings) : b.Readable settings' := by
  obtain ⟨here, vars, legible, there⟩ := readable
  exact ⟨fun s member => here s (subset member), vars, legible, fun s member => there s (subset member)⟩

/-- Settings that are not written as JSON can always be read. -/
theorem readable_of_not_isStructured {settings : List Setting} {b : Background} {vars : EnvFile.Variables}
    (plain : ∀ s ∈ settings, s.isStructured = false) (legible : b.fileVariables = .ok vars) :
    b.Readable settings := by
  have each (s : Setting) (member : s ∈ settings) (vars : EnvFile.Variables) : s.ReadableIn vars := by
    intro structured
    rw [plain s member] at structured
    cases structured
  exact ⟨fun s member => each s member _, vars, legible, fun s member => each s member _⟩

end Background

variable {given values : SettingValues} {settings : List Setting} {b b' : Background}

/-- Values are gathered from the command line, over the environment, over the file. -/
theorem gather_eq {vars : EnvFile.Variables} (legible : b.fileVariables = .ok vars) :
    gather given b.environment b.files = (do
      let fromEnvironment ← SettingValues.ofTexts "EnvSettingsSource" b.environmentVariables
      let fromFile ← SettingValues.ofTexts "DotEnvSettingsSource" vars
      return (given.layOver fromEnvironment).layOver fromFile) := by
  unfold gather
  unfold Background.fileVariables at legible
  rw [legible]
  rfl

/-- They are gathered just where each layer can be read. -/
theorem gather_eq_ok : gather given b.environment b.files = .ok values ↔
    ∃ vars, b.fileVariables = .ok vars ∧
      ∃ environment, SettingValues.ofTexts "EnvSettingsSource" b.environmentVariables = .ok environment ∧
        ∃ file, SettingValues.ofTexts "DotEnvSettingsSource" vars = .ok file ∧
          (given.layOver environment).layOver file = values := by
  unfold gather Background.fileVariables
  rw [Outcome.bind_eq_ok]
  refine exists_congr fun vars => and_congr_right fun _ => ?_
  rw [Outcome.bind_eq_ok]
  refine exists_congr fun environment => and_congr_right fun _ => ?_
  rw [Outcome.bind_eq_ok]
  exact exists_congr fun file => and_congr_right fun _ => Outcome.pure_eq_ok

/-- **Hidden texts do not count, where they can be read.**  Backgrounds that differ only in readable texts for
settings that are given outright, and not as objects, give the same. -/
theorem gather_congr (agree : b.AgreeBut settings b') (readable : b.Readable settings)
    (readable' : b'.Readable settings)
    (hidden : ∀ s ∈ settings, ∃ v, valueOf? given s = some v ∧ v.obj? = none) :
    gather given b.environment b.files = gather given b'.environment b'.files := by
  obtain ⟨here, vars, legible, there⟩ := readable
  obtain ⟨here', vars', legible', there'⟩ := readable'
  rw [gather_eq legible, gather_eq legible']
  rcases SettingValues.ofTexts_agree agree.1 here here' with
    ⟨f, failed, failed'⟩ | ⟨environment, environment', read, read', sameHere⟩
  · rw [failed, failed']
    rfl
  · rcases SettingValues.ofTexts_agree (agree.2 vars vars' legible legible') there there' with
      ⟨f, failed, failed'⟩ | ⟨file, file', readFile, readFile', sameThere⟩
    · rw [read, read', failed, failed']
      rfl
    · have above : given.layOver environment = given.layOver environment' := by
        refine SettingValues.layOver_congr fun s => ?_
        by_cases member : s ∈ settings
        · obtain ⟨v, outright, plain⟩ := hidden s member
          rw [outright, SettingValues.laid_of_obj?_eq_none plain, SettingValues.laid_of_obj?_eq_none plain]
        · rw [sameHere s member]
      have whole : (given.layOver environment).layOver file = (given.layOver environment').layOver file' := by
        rw [above]
        refine SettingValues.layOver_congr fun s => ?_
        by_cases member : s ∈ settings
        · obtain ⟨v, outright, plain⟩ := hidden s member
          rw [SettingValues.valueOf?_layOver, outright, SettingValues.laid_of_obj?_eq_none plain,
            SettingValues.laid_of_obj?_eq_none plain, SettingValues.laid_of_obj?_eq_none plain]
        · rw [sameThere s member]
      rw [read, read', readFile, readFile']
      exact congrArg Except.ok whole

/-- **Every text counts.**  Something is given just where all texts of all sources can be read. -/
theorem exists_gather_iff :
    (∃ values, gather given b.environment b.files = .ok values) ↔ b.Readable Setting.all := by
  constructor
  · rintro ⟨values, made⟩
    obtain ⟨vars, legible, environment, read, file, readFile, -⟩ := gather_eq_ok.1 made
    have here := SettingValues.exists_ofTexts_iff.1 ⟨environment, read⟩
    have there := SettingValues.exists_ofTexts_iff.1 ⟨file, readFile⟩
    exact ⟨fun s _ => here s, vars, legible, fun s _ => there s⟩
  · rintro ⟨here, vars, legible, there⟩
    obtain ⟨environment, read⟩ :
        ∃ values, SettingValues.ofTexts "EnvSettingsSource" b.environmentVariables = .ok values :=
      SettingValues.exists_ofTexts_iff.2 fun s => here s s.mem_all
    obtain ⟨file, readFile⟩ : ∃ values, SettingValues.ofTexts "DotEnvSettingsSource" vars = .ok values :=
      SettingValues.exists_ofTexts_iff.2 fun s => there s s.mem_all
    exact ⟨_, gather_eq_ok.2 ⟨vars, legible, environment, read, file, readFile, rfl⟩⟩

/-- What fails in loading is explained as bad settings, but for a file that is no text and for a text that
nests too deeply. -/
def IsLoadFailure (f : Failure) : Prop :=
  f.kind = .configuration ∨ (∃ fault, f = .undecodable fault) ∨ ∃ text, f = .tooDeep text

/-- A text that cannot be decoded fails as loading may: it is a bad value, or it nests too deeply. -/
theorem ofText_failure {source text : String} {s : Setting} {f : Failure}
    (failed : SettingValues.ofText source s text = .error f) : IsLoadFailure f := by
  unfold SettingValues.ofText at failed
  split at failed
  · split at failed
    · cases failed
    · cases failed
    · rename_i e _
      cases failed
      cases e.isTooDeep with
      | true => exact .inr (.inr ⟨e.message, rfl⟩)
      | false => exact .inl rfl
  · cases failed

/-- Variables of which one cannot be decoded fail as loading may. -/
theorem ofTexts_failure {source : String} {vars : EnvFile.Variables} {f : Failure}
    (failed : SettingValues.ofTexts source vars = .error f) : IsLoadFailure f := by
  rw [SettingValues.ofTexts_eq] at failed
  cases stopped : Setting.all.findSome? (SettingValues.fault? source vars) with
  | none =>
      rw [stopped] at failed
      cases failed
  | some fault =>
      rw [stopped] at failed
      cases failed
      obtain ⟨s, -, faulty⟩ := List.exists_of_findSome?_eq_some stopped
      unfold SettingValues.fault? SettingValues.ofVariables at faulty
      split at faulty
      · rename_i told
        cases faulty
        split at told
        · exact ofText_failure told
        · cases told
      · cases faulty

/-- Loading fails for bad settings, for a file that is no text, or for a text that nests too deeply. -/
theorem load_failure {f : Failure} (failed : load given b.environment b.files = .error f) :
    IsLoadFailure f := by
  rcases Outcome.bind_eq_error.1 failed with unread | ⟨values, -, refused⟩
  · rcases Outcome.bind_eq_error.1 unread with noText | ⟨vars, -, unread⟩
    · unfold Settings.fileVariables at noText
      split at noText
      · cases noText
      · split at noText
        · cases noText
        · rename_i fault _
          cases noText
          exact .inr (.inl ⟨fault, rfl⟩)
    · rcases Outcome.bind_eq_error.1 unread with here | ⟨_, -, unread⟩
      · exact ofTexts_failure here
      · rcases Outcome.bind_eq_error.1 unread with there | ⟨_, -, made⟩
        · exact ofTexts_failure there
        · cases made
  · split at refused
    · rename_i text _
      cases refused
      exact .inr (.inr ⟨text, rfl⟩)
    · obtain ⟨issues, -, rfl⟩ := Outcome.mapError_eq_error.1 refused
      exact .inl rfl

/-- What is given outright and is no object stays as it is. -/
theorem valueOf?_gather (made : gather given b.environment b.files = .ok values) {s : Setting} {v : Json}
    (outright : valueOf? given s = some v) (plain : v.obj? = none) : valueOf? values s = some v := by
  obtain ⟨-, -, environment, -, file, -, rfl⟩ := gather_eq_ok.1 made
  rw [SettingValues.valueOf?_layers, outright, SettingValues.laid_of_obj?_eq_none plain,
    SettingValues.laid_of_obj?_eq_none plain]

end Settings

/-! ## One value more -/

open Settings (Background valueOf?)

namespace SettingValues

variable {source : String} {vars vars' : EnvFile.Variables} {s : Setting} {x : Option Json} {v : Json}
  {given given' values : SettingValues} {b b' : Background}

/-- Two steps give the same values but for one setting, which the second gives a certain value or none; or
they fail alike. -/
def DiffersAt (s : Setting) (x : Option Json) (g g' : Except Failure SettingValues) : Prop :=
  match g with
  | .error f => g' = .error f
  | .ok values => ∃ values', g' = .ok values' ∧ valueOf? values' s = x ∧
      ∀ t ≠ s, valueOf? values' t = valueOf? values t

/-- A variable that can be read adds what it gives. -/
theorem ofTexts_differsAt (agree : vars.AgreeBut [s] vars') (absent : s.textIn? vars = none)
    (present : ofVariables source vars' s = .ok x) :
    DiffersAt s x (ofTexts source vars) (ofTexts source vars') := by
  have others {t : Setting} (other : t ≠ s) : ofVariables source vars t = ofVariables source vars' t :=
    ofVariables_congr (Setting.textIn?_congr agree fun member => other (List.mem_singleton.1 member))
  have faults : fault? source vars = fault? source vars' := by
    funext t
    by_cases same : t = s
    · subst same
      unfold fault?
      rw [present, ofVariables, absent]
      rfl
    · unfold fault?
      rw [others same]
  rw [ofTexts_eq, ofTexts_eq, faults]
  cases Setting.all.findSome? (fault? source vars') with
  | some f => exact rfl
  | none =>
      refine ⟨_, rfl, ?_, fun t other => ?_⟩
      · rw [Settings.valueOf?_each, given?, present]
        cases x <;> rfl
      · rw [Settings.valueOf?_each, Settings.valueOf?_each]
        unfold given?
        rw [others other]

/-- What is given outright, and is no object, adds just that. -/
theorem gather_differsAt_given (outright : valueOf? given' s = some v) (plain : v.obj? = none)
    (others : ∀ t ≠ s, valueOf? given' t = valueOf? given t) (b : Background) :
    DiffersAt s (some v) (Settings.gather given b.environment b.files)
      (Settings.gather given' b.environment b.files) := by
  cases legible : b.fileVariables with
  | error f =>
      unfold Background.fileVariables at legible
      unfold Settings.gather
      rw [legible]
      exact rfl
  | ok vars =>
      rw [Settings.gather_eq legible, Settings.gather_eq legible]
      cases ofTexts "EnvSettingsSource" b.environmentVariables with
      | error f => exact rfl
      | ok environment =>
          cases ofTexts "DotEnvSettingsSource" vars with
          | error f => exact rfl
          | ok file =>
              refine ⟨_, rfl, ?_, fun t other => ?_⟩
              · rw [valueOf?_layers, outright, laid_of_obj?_eq_none plain, laid_of_obj?_eq_none plain]
              · rw [valueOf?_layers, valueOf?_layers, others t other]

/-- What a variable gives for a setting that has no value otherwise adds just that. -/
theorem gather_differsAt_variable (outright : valueOf? given s = none)
    (agree : b.environmentVariables.AgreeBut [s] b'.environmentVariables)
    (absent : s.textIn? b.environmentVariables = none)
    (present : ofVariables "EnvSettingsSource" b'.environmentVariables s = .ok x)
    (legible : b.fileVariables = .ok vars) (legible' : b'.fileVariables = .ok vars')
    (alike : ∀ t : Setting, t.textIn? vars = t.textIn? vars') (unfiled : s.textIn? vars = none) :
    DiffersAt s x (Settings.gather given b.environment b.files)
      (Settings.gather given b'.environment b'.files) := by
  rw [Settings.gather_eq legible, Settings.gather_eq legible', ← ofTexts_congr alike]
  have differs : DiffersAt s x (ofTexts "EnvSettingsSource" b.environmentVariables)
      (ofTexts "EnvSettingsSource" b'.environmentVariables) := ofTexts_differsAt agree absent present
  cases read : ofTexts "EnvSettingsSource" b.environmentVariables with
  | error f =>
      rw [read] at differs
      have failed : ofTexts "EnvSettingsSource" b'.environmentVariables = .error f := differs
      rw [failed]
      exact rfl
  | ok environment =>
      rw [read] at differs
      obtain ⟨environment', read', here, others⟩ := differs
      rw [read']
      cases readFile : ofTexts "DotEnvSettingsSource" vars with
      | error f => exact rfl
      | ok file =>
          refine ⟨_, rfl, ?_, fun t other => ?_⟩
          · rw [valueOf?_layers, outright, here, valueOf?_ofTexts readFile, given?_of_absent unfiled]
            cases x <;> rfl
          · rw [valueOf?_layers, valueOf?_layers, others t other]

/-- A setting that no source gives has no value. -/
theorem valueOf?_gather_of_absent (outright : valueOf? given s = none)
    (absent : s.textIn? b.environmentVariables = none) (legible : b.fileVariables = .ok vars)
    (unfiled : s.textIn? vars = none) (made : Settings.gather given b.environment b.files = .ok values) :
    valueOf? values s = none := by
  obtain ⟨vars', legible', environment, read, file, readFile, rfl⟩ := Settings.gather_eq_ok.1 made
  cases legible.symm.trans legible'
  rw [valueOf?_layers, outright, valueOf?_ofTexts read, valueOf?_ofTexts readFile, given?_of_absent absent,
    given?_of_absent unfiled]
  rfl

end SettingValues

end QueryTools
