import QueryTools.Program
import QueryTools.Proofs.Settings.Arguments
import QueryTools.Proofs.Settings.Reading
import QueryTools.Proofs.Settings.Sources

/-!
# Options that shield from variables

An option of the command line takes the place of the variables of its setting.  Still every variable is read, so
a text that cannot be read counts although the option hides it: this is so for the headers and for the operations
that are left out, which variables give as JSON.  `Program.flags_shield` says just how far options shield, and
`Program.exists_leaking_variable` shows a variable that a program does not start with.
-/

namespace QueryTools.Program

open Settings (Background valueOf?)

variable {arguments : List String} {given : SettingValues} {b b' : Background}

/-- The settings of a run in a background, or how the run ends without them. -/
def settingsIn (arguments : List String) (b : Background) : Except Ending Settings :=
  settings arguments b.environment b.files

/-- Arguments that are accepted give the settings that are loaded beneath them. -/
theorem settings_of_read (accepted : CommandLine.read arguments = .ok given) (b : Background) :
    settingsIn arguments b =
      (Settings.load given b.environment b.files).mapError Ending.ofSettingsFailure := by
  unfold settingsIn settings
  rw [accepted]
  rfl

/-- Settings are those of all sources, read. -/
theorem settings_eq_ok (accepted : CommandLine.read arguments = .ok given) {s : Settings} :
    settingsIn arguments b = .ok s ↔
      ∃ values, Settings.gather given b.environment b.files = .ok values ∧
        Settings.deepHeaders? values = none ∧ Settings.read values = .ok s := by
  rw [settings_of_read accepted, Outcome.mapError_eq_ok, Settings.load, Outcome.bind_eq_ok]
  refine exists_congr fun values => and_congr_right fun _ => ?_
  cases deep : Settings.deepHeaders? values with
  | some text => exact iff_of_false Outcome.throw_ne_ok fun both => nomatch both.1
  | none => exact Outcome.mapError_eq_ok.trans (and_iff_right rfl).symm

/-- The settings that options give a value for are given outright, and not as objects. -/
theorem exists_value_of_read (accepted : CommandLine.read arguments = .ok given) {t : Setting}
    (member : t ∈ given.map Prod.fst) : ∃ v, valueOf? given t = some v ∧ v.obj? = none := by
  obtain ⟨p, there, rfl⟩ := List.mem_map.1 member
  cases found : valueOf? given p.1 with
  | none =>
      unfold valueOf? at found
      have missing := List.find?_eq_none.1 (Option.map_eq_none_iff.1 found) p there
      simp at missing
  | some v => exact ⟨v, rfl, CommandLine.obj?_of_read accepted found⟩

/-- Backgrounds that agree but for the settings given outright give the same settings. -/
theorem settings_congr (accepted : CommandLine.read arguments = .ok given)
    (agree : b.AgreeBut (given.map Prod.fst) b') (readable : b.Readable (given.map Prod.fst))
    (readable' : b'.Readable (given.map Prod.fst)) :
    settingsIn arguments b = settingsIn arguments b' := by
  have hidden (t : Setting) (member : t ∈ given.map Prod.fst) := exists_value_of_read accepted member
  rw [settings_of_read accepted, settings_of_read accepted, Settings.load, Settings.load,
    Settings.gather_congr agree readable readable' hidden]

/-- Where there are settings the background was readable. -/
theorem readable_of_settings (accepted : CommandLine.read arguments = .ok given) {s : Settings}
    (made : settingsIn arguments b = .ok s) : b.Readable (given.map Prod.fst) := by
  obtain ⟨values, gathered, -, -⟩ := (settings_eq_ok accepted).1 made
  have readable := Settings.exists_gather_iff.1 ⟨values, gathered⟩
  exact readable.mono fun t _ => t.mem_all

/-- Without settings the program ends as misconfigured, or crashes over a text that is none or too deep. -/
theorem cases_of_settings_error (accepted : CommandLine.read arguments = .ok given) {ending : Ending}
    (failed : settingsIn arguments b = .error ending) :
    (∃ f, ending = .misconfigured f) ∨ (∃ fault, ending = .crashed (.undecodable fault)) ∨
      ∃ text, ending = .crashed (.tooDeep text) := by
  rw [settings_of_read accepted, Outcome.mapError_eq_error] at failed
  obtain ⟨f, unloaded, rfl⟩ := failed
  rcases Settings.load_failure unloaded with explained | ⟨fault, rfl⟩ | ⟨text, rfl⟩
  · exact .inl ⟨f, if_pos explained⟩
  · exact .inr (.inl ⟨fault, rfl⟩)
  · exact .inr (.inr ⟨text, rfl⟩)

/-- What is given outright is what the settings hold. -/
theorem put_of_settings (accepted : CommandLine.read arguments = .ok given) {s : Settings}
    (made : settingsIn arguments b = .ok s) {t : Setting} {v : Json}
    (outright : valueOf? given t = some v) : s.put t v = .ok s ∧ t ∈ s.given := by
  obtain ⟨values, gathered, -, read⟩ := (settings_eq_ok accepted).1 made
  have kept := Settings.valueOf?_gather gathered outright (CommandLine.obj?_of_read accepted outright)
  refine ⟨Settings.put_of_read read kept, ?_⟩
  apply (Settings.mem_given_iff read).2
  rw [kept]
  rfl

/-- **How far options shield from variables.**  Take arguments that are accepted, and two backgrounds that hold
the same but for the settings that the arguments give.  Where all hidden texts can be read, both lead to the same
settings or to the same failure; and where one leads to settings, the other does just if its hidden texts can be
read, and to the same ones.  Only texts for settings that are written as JSON cannot be read, so arguments that
give none of these shield always, as long as the file of variables is a text.  A failure is explained as bad
settings, but for a file that is no text and for a text that nests too deeply.  And settings hold the values that
the arguments give, whatever these are. -/
theorem flags_shield (accepted : CommandLine.read arguments = .ok given)
    (agree : b.AgreeBut (given.map Prod.fst) b') :
    (b.Readable (given.map Prod.fst) → b'.Readable (given.map Prod.fst) →
        settingsIn arguments b = settingsIn arguments b') ∧
      (∀ s, settingsIn arguments b = .ok s →
        (settingsIn arguments b' = .ok s ↔ b'.Readable (given.map Prod.fst))) ∧
      ((∀ t ∈ given.map Prod.fst, t.isStructured = false) → ∀ vars vars', b.fileVariables = .ok vars →
        b'.fileVariables = .ok vars' →
          settingsIn arguments b = settingsIn arguments b') ∧
      (∀ ending, settingsIn arguments b = .error ending →
        (∃ f, ending = .misconfigured f) ∨ (∃ fault, ending = .crashed (.undecodable fault)) ∨
          ∃ text, ending = .crashed (.tooDeep text)) ∧
      ∀ s, settingsIn arguments b = .ok s →
        ∀ t v, valueOf? given t = some v → s.put t v = .ok s ∧ t ∈ s.given := by
  refine ⟨settings_congr accepted agree, ?_, ?_, ?_, ?_⟩
  · intro s made
    constructor
    · intro made'
      exact readable_of_settings accepted made'
    · intro readable'
      have readable := readable_of_settings accepted made
      exact (settings_congr accepted agree readable readable').symm.trans made
  · intro plain vars vars' legible legible'
    have readable := Background.readable_of_not_isStructured plain legible
    have readable' := Background.readable_of_not_isStructured plain legible'
    exact settings_congr accepted agree readable readable'
  · intro ending failed
    exact cases_of_settings_error accepted failed
  · intro s made t v outright
    exact put_of_settings accepted made outright

/-- Variables for operations to leave out and for mutations, in the environment and in a file. -/
def crowded : Background :=
  { environment := [("EXCLUDE_QUERIES", "[\"a\"]"), ("TIMEOUT", "5"), ("Allow_Mutations", "perhaps")]
    files := [(".env", "exclude_queries=[]\n".toUTF8.data.toList)] }

/-- The same without what two options hide. -/
def bare : Background := { environment := [("TIMEOUT", "5")], files := [] }

/-- Two options shield their settings from what the background says, an empty list among them. -/
theorem flags_shield_emptied :
    ∃ s, crowded.AgreeBut [.excludedQueries, .allowMutations] bare ∧
      settingsIn ["--exclude-queries", "--no-allow-mutations"] crowded = .ok s ∧
      settingsIn ["--exclude-queries", "--no-allow-mutations"] bare = .ok s ∧
      s.excludedQueries = [] ∧ s.allowMutations = false ∧ s.given = [.allowMutations, .excludedQueries, .timeout] := by
  have accepted : CommandLine.read ["--exclude-queries", "--no-allow-mutations"] =
      .ok [(.excludedQueries, .arr []), (.allowMutations, .bool false)] := by rfl
  have agree : crowded.AgreeBut [.excludedQueries, .allowMutations] bare := by
    constructor
    · exact EnvFile.Variables.agreeBut_without [.excludedQueries, .allowMutations] crowded.environmentVariables
    · intro vars vars' read read'
      cases read
      cases read'
      exact EnvFile.Variables.agreeBut_without [.excludedQueries, .allowMutations] [("exclude_queries", some "[]")]
  have readable : bare.Readable [.excludedQueries, .allowMutations] := by
    have gathered : ∃ values, Settings.gather [] bare.environment bare.files = .ok values := ⟨_, rfl⟩
    exact (Settings.exists_gather_iff.1 gathered).mono fun t _ => t.mem_all
  obtain ⟨-, shields, -⟩ := flags_shield accepted agree
  exact ⟨_, agree, rfl, (shields _ rfl).2 readable, rfl, rfl, rfl⟩

/-- **A variable that an option hides can keep a program from starting.** -/
theorem exists_leaking_variable :
    (∃ s f, settings ["--exclude-queries", "a"] [] [] = .ok s ∧
      settings ["--exclude-queries", "a"] [("EXCLUDE_QUERIES", "x")] [] = .error (.misconfigured f)) ∧
    ∃ s fault, settings ["--name", "a"] [] [] = .ok s ∧
      settings ["--name", "a"] [] [(".env", "NAME=".toUTF8.data.toList ++ [0xff])] =
        .error (.crashed (.undecodable fault)) :=
  ⟨⟨_, _, rfl, rfl⟩, _, _, rfl, rfl⟩

end QueryTools.Program
