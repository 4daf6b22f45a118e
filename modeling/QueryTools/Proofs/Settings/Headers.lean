import QueryTools.Proofs.Settings.Shielding

/-!
# Headers given in two ways

Headers can be given as a text by an option and by a variable.  The option's text is read with the settings, the
variable's already by its source, which then hands over what the text spells.  `Program.headers_two_ways`
compares the two for every text; they differ for the empty text, for null, and for a text inside a text.
-/

namespace QueryTools

open Settings (Background valueOf?)

/-! ## Headers as a variable gives them -/

namespace SettingValues

variable {source text : String} {v : Json}

/-- Headers in the environment are decoded, and null counts as no value. -/
theorem ofText_headers (source text : String) : ofText source .headers text =
    match Json.read text with
    | .ok .null => .ok none
    | .ok v => .ok (some v)
    | .error e =>
      .error (if e.isTooDeep then .tooDeep e.message else .unreadableSetting Setting.headers.word source) := rfl

/-- A text that spells another value than null gives that value. -/
theorem ofText_of_read (spells : Json.read text = .ok v) (filled : v.isNull = false) :
    ofText source .headers text = .ok (some v) := by
  rw [ofText_headers, spells]
  cases v with
  | null => cases filled
  | _ => rfl

end SettingValues

/-! ## Headers read with the settings -/

namespace Settings

variable {values values' : SettingValues} {g g' g'' : Except Failure SettingValues} {x y : Option Json} {v : Json}
  {text : String} {h : Keyed String} {e : Json.ReadError}

/-- The settings that the values of all sources make. -/
def ofValues (values : SettingValues) : Except Failure Settings :=
  match deepHeaders? values with
  | some text => throw (.tooDeep text)
  | none => (read values).mapError Failure.badSettings

/-- What the wording is of headers that nest too deeply inside a text, if they do. -/
def deepText? (x : Option Json) : Option String :=
  match x.bind Json.str? with
  | none => none
  | some text =>
    match Json.read text with
    | .ok _ => none
    | .error e => if e.isTooDeep then some e.message else none

/-- Whether headers nest too deeply turns on their last value alone. -/
theorem deepHeaders?_eq (values : SettingValues) :
    deepHeaders? values = deepText? (valueOf? values .headers) := rfl

/-- A text that can be read does not nest too deeply. -/
theorem deepText?_of_read (spells : Json.read text = .ok v) : deepText? (some (.str text)) = none := by
  unfold deepText?
  rw [Option.bind_some, Json.str?]
  dsimp only
  rw [spells]

/-- A text that cannot be read nests too deeply just where that is what is wrong with it. -/
theorem deepText?_of_error (fails : Json.read text = .error e) :
    deepText? (some (.str text)) = if e.isTooDeep then some e.message else none := by
  unfold deepText?
  rw [Option.bind_some, Json.str?]
  dsimp only
  rw [fails]

theorem deepText?_of_str?_eq_none (plain : v.str? = none) : deepText? (some v) = none := by
  unfold deepText?
  rw [Option.bind_some, plain]

/-- Two values for the headers are read alike. -/
def ReadAlike (x y : Option Json) : Prop :=
  deepText? x = deepText? y ∧ ∀ s : Settings, x.map (s.put .headers) = y.map (s.put .headers)

/-- Values that differ in the headers alone give the same settings where these are read alike. -/
theorem bind_ofValues_congr (differs : SettingValues.DiffersAt .headers x g g')
    (differs' : SettingValues.DiffersAt .headers y g g'') (alike : ReadAlike x y) :
    g' >>= ofValues = g'' >>= ofValues := by
  cases g with
  | error f =>
      have failed : g' = .error f := differs
      have failed' : g'' = .error f := differs'
      rw [failed, failed']
  | ok values =>
      obtain ⟨values', rfl, here, others⟩ := differs
      obtain ⟨values'', rfl, here', others'⟩ := differs'
      have deep : deepHeaders? values' = deepHeaders? values'' := by
        rw [deepHeaders?_eq, deepHeaders?_eq, here, here', alike.1]
      have same : read values' = read values'' := by
        refine read_congr fun t s => ?_
        by_cases isHeaders : t = .headers
        · subst isHeaders
          rw [here, here', alike.2]
        · rw [others t isHeaders, others' t isHeaders]
      show ofValues values' = ofValues values''
      unfold ofValues
      rw [deep, same]

/-- Headers that are no text are read as they are. -/
theorem readHeaders_of_str?_eq_none (plain : v.str? = none) : readHeaders v = headersOf v := by
  cases v with
  | str text => cases plain
  | _ => rfl

/-- Headers in a text are read as what the text spells. -/
theorem readHeaders_of_read (spells : Json.read text = .ok v) : readHeaders (.str text) = headersOf v := by
  have filled : text ≠ "" := by
    rintro rfl
    cases spells
  rw [readHeaders, if_neg filled, spells]

/-- A text that spells nothing gives no headers, unless it is empty. -/
theorem readHeaders_of_error (filled : text ≠ "") (fails : Json.read text = .error e) :
    readHeaders (.str text) ≠ .ok h := by
  rw [readHeaders, if_neg filled, fails]
  nofun

/-- A text that spells neither null nor a text is read alike with the settings and before them. -/
theorem readAlike_of_read (spells : Json.read text = .ok v) (plain : v.str? = none) :
    ReadAlike (some v) (some (.str text)) := by
  refine ⟨(deepText?_of_str?_eq_none plain).trans (deepText?_of_read spells).symm, fun s => ?_⟩
  have same : readHeaders v = readHeaders (.str text) := by
    rw [readHeaders_of_str?_eq_none plain, readHeaders_of_read spells]
  show some ((readHeaders v).map _) = some ((readHeaders (.str text)).map _)
  rw [same]

/-- A value that is no object gives no headers. -/
theorem headersOf_of_obj?_eq_none (plain : v.obj? = none) : headersOf v ≠ .ok h := by
  cases v with
  | obj members => cases plain
  | _ => nofun

theorem exists_put_headers_iff (s : Settings) : (∃ r, s.put .headers v = .ok r) ↔ ∃ h, readHeaders v = .ok h :=
  Outcome.exists_map_eq_ok

/-- Settings hold their headers as they are read. -/
theorem readHeaders_of_put {s : Settings} (held : s.put .headers v = .ok s) : readHeaders v = .ok s.headers := by
  obtain ⟨h, read, same⟩ := Outcome.map_eq_ok.1 held
  rw [read, ← same]

/-- Headers that are refused keep settings from being made. -/
theorem exists_of_refused (differs : SettingValues.DiffersAt .headers (some v) g g')
    (refused : ∀ h, readHeaders v ≠ .ok h) (shallow : deepText? (some v) = none)
    (calm : ∀ f, g = .error f → f.kind = .configuration) :
    ∃ f, (g' >>= ofValues) = .error f ∧ f.kind = .configuration := by
  cases g with
  | error f =>
      have failed : g' = .error f := differs
      exact ⟨f, by rw [failed]; rfl, calm f rfl⟩
  | ok values =>
      obtain ⟨values', rfl, here, -⟩ := differs
      have unread : ¬ ∃ r, read values' = .ok r := by
        intro made
        obtain ⟨h, accepted⟩ := (exists_put_headers_iff {}).1 (exists_read_iff.1 made .headers v here)
        exact refused h accepted
      cases made : read values' with
      | ok r => exact absurd ⟨r, made⟩ unread
      | error issues =>
          refine ⟨.badSettings issues, ?_, rfl⟩
          show ofValues values' = .error (.badSettings issues)
          unfold ofValues
          rw [deepHeaders?_eq, here, shallow, made]
          rfl

/-- Headers that are accepted are held, and keep no settings from being made. -/
theorem ofValues_of_accepted (differs : SettingValues.DiffersAt .headers (some v) g g')
    (accepted : readHeaders v = .ok h) (shallow : deepText? (some v) = none) :
    ((∃ s, (g >>= ofValues) = .ok s) → ∃ s, (g' >>= ofValues) = .ok s) ∧
      ∀ s, (g' >>= ofValues) = .ok s → s.headers = h := by
  have made_iff {values : SettingValues} (whole : deepHeaders? values = none) {s : Settings} :
      ofValues values = .ok s ↔ read values = .ok s := by
    unfold ofValues
    rw [whole]
    exact Outcome.mapError_eq_ok
  cases g with
  | error f =>
      have failed : g' = .error f := differs
      have stays : (Except.error f >>= ofValues) = .error f := rfl
      rw [failed, stays]
      constructor
      · rintro ⟨s, made⟩
        cases made
      · intro s made
        cases made
  | ok values =>
      obtain ⟨values', rfl, here, others⟩ := differs
      have whole : deepHeaders? values' = none := (congrArg deepText? here).trans shallow
      constructor
      · rintro ⟨s, made⟩
        have first : ∃ r, read values = .ok r := by
          have made : ofValues values = .ok s := made
          unfold ofValues at made
          split at made
          · cases made
          · exact ⟨s, Outcome.mapError_eq_ok.1 made⟩
        have second : ∃ r, read values' = .ok r := by
          refine exists_read_iff.2 fun t w present => ?_
          by_cases isHeaders : t = .headers
          · subst isHeaders
            cases here.symm.trans present
            exact (exists_put_headers_iff {}).2 ⟨h, accepted⟩
          · exact exists_read_iff.1 first t w ((others t isHeaders).symm.trans present)
        obtain ⟨r, read⟩ := second
        exact ⟨r, (made_iff whole).2 read⟩
      · intro s made
        have held := put_of_read ((made_iff whole).1 made) here
        exact Except.ok.inj ((readHeaders_of_put held).symm.trans accepted)

/-- Headers that nest too deeply inside a text keep settings from being made. -/
theorem ofValues_of_deep {said : String} (differs : SettingValues.DiffersAt .headers (some v) g g')
    (deep : deepText? (some v) = some said) :
    (g' >>= ofValues) = .error (.tooDeep said) ∨ ∃ f, g = .error f ∧ (g' >>= ofValues) = .error f := by
  cases g with
  | error f =>
      have failed : g' = .error f := differs
      exact .inr ⟨f, rfl, by rw [failed]; rfl⟩
  | ok values =>
      obtain ⟨values', rfl, here, -⟩ := differs
      left
      show ofValues values' = .error (.tooDeep said)
      unfold ofValues
      rw [deepHeaders?_eq, here, deep]
      rfl

end Settings

namespace Program

open CommandLine (SpellHeaders headersValue headersValue_of_read headersValue_of_deep)
open Settings (deepText? readHeaders)
open SettingValues (DiffersAt ofText)

variable {text : String} {flag rest : List String} {b b' : Background}

/-- Headers are given as a text, by an option in front of other arguments or by a variable.  All else is the
same, and gives no headers. -/
structure TwoWays (text : String) (flag rest : List String) (b b' : Background) : Prop where
  spelled : SpellHeaders text flag
  unflagged : ∃ given, CommandLine.read rest = .ok given ∧ valueOf? given .headers = none
  agree : b.environmentVariables.AgreeBut [.headers] b'.environmentVariables
  absent : Setting.headers.textIn? b.environmentVariables = none
  present : Setting.headers.textIn? b'.environmentVariables = some text
  filed : ∃ vars vars', b.fileVariables = .ok vars ∧ b'.fileVariables = .ok vars' ∧ vars.AgreeBut [] vars' ∧
    Setting.headers.textIn? vars = none

/-- What is gathered without headers, and what with the variable; the option adds to the former. -/
structure Gathered (text : String) (rest : List String) (b b' : Background)
    (g shown : Except Failure SettingValues) : Prop where
  without_eq : settingsIn rest b = (g >>= Settings.ofValues).mapError Ending.ofSettingsFailure
  without_differs : DiffersAt .headers none g g
  flag_differs : ∀ {inner : String} {flag : List String}, SpellHeaders inner flag → ∃ flagged,
    settingsIn (flag ++ rest) b = (flagged >>= Settings.ofValues).mapError Ending.ofSettingsFailure ∧
      DiffersAt .headers (some (headersValue inner)) g flagged
  variable_eq : settingsIn rest b' = (shown >>= Settings.ofValues).mapError Ending.ofSettingsFailure
  variable_differs : ∀ {x}, ofText "EnvSettingsSource" .headers text = .ok x →
    DiffersAt .headers x g shown
  variable_fails : ∀ {f}, ofText "EnvSettingsSource" .headers text = .error f → shown = .error f

/-- Two ways of giving headers gather values that differ in the headers alone. -/
theorem TwoWays.exists_gathered (ways : TwoWays text flag rest b b') :
    ∃ g shown, Gathered text rest b b' g shown := by
  obtain ⟨given, accepted, unflagged⟩ := ways.unflagged
  obtain ⟨vars, vars', legible, legible', alike, unfiled⟩ := ways.filed
  have told : SettingValues.ofVariables "EnvSettingsSource" b'.environmentVariables .headers =
      ofText "EnvSettingsSource" .headers text := by
    unfold SettingValues.ofVariables
    rw [ways.present]
  refine ⟨Settings.gather given b.environment b.files, Settings.gather given b'.environment b'.files, ?_⟩
  constructor
  case without_eq => exact settings_of_read accepted b
  case without_differs =>
    cases made : Settings.gather given b.environment b.files with
    | error f => exact rfl
    | ok values =>
        have none := SettingValues.valueOf?_gather_of_absent unflagged ways.absent legible unfiled made
        exact ⟨values, rfl, none, fun _ _ => rfl⟩
  case flag_differs =>
    intro inner flag spelled
    obtain ⟨given', accepted', values⟩ := CommandLine.read_headers spelled accepted
    have flagged : valueOf? given' .headers = some (headersValue inner) := by
      rw [values, unflagged, if_pos rfl, Option.none_or]
    have others (t : Setting) (other : t ≠ .headers) : valueOf? given' t = valueOf? given t := by
      rw [values, if_neg other, Option.or_none]
    have plain := CommandLine.obj?_of_read accepted' flagged
    exact ⟨_, settings_of_read accepted' b, SettingValues.gather_differsAt_given flagged plain others b⟩
  case variable_eq => exact settings_of_read accepted b'
  case variable_differs =>
    intro x made
    exact SettingValues.gather_differsAt_variable unflagged ways.agree ways.absent (told.trans made) legible
      legible' (fun t => Setting.textIn?_congr alike List.not_mem_nil) unfiled
  case variable_fails =>
    intro f made
    rw [Settings.gather_eq legible', SettingValues.ofTexts_of_headers_fault (told.trans made)]
    rfl

section

variable {g shown : Except Failure SettingValues} {v : Json} {e : Json.ReadError}

/-- A failure of the configuration ends the program as misconfigured. -/
theorem exists_misconfigured {made : Except Failure Settings}
    (failed : ∃ f, made = .error f ∧ f.kind = .configuration) :
    ∃ f, made.mapError Ending.ofSettingsFailure = .error (.misconfigured f) := by
  obtain ⟨f, rfl, explained⟩ := failed
  exact ⟨f, congrArg Except.error (if_pos explained)⟩

namespace Gathered

/-- An ending that is explained comes from a failure that is. -/
theorem calm (gathered : Gathered text rest b b' g shown)
    (explained : ∀ ending, settingsIn rest b = .error ending → ∃ f, ending = .misconfigured f) (f : Failure)
    (failed : g = .error f) : f.kind = .configuration := by
  subst failed
  obtain ⟨f', same⟩ := explained _ gathered.without_eq
  by_contra other
  cases (if_neg other).symm.trans same

/-- A text that spells something else than null is what the option would make of a text that is read alike. -/
theorem variable_eq_flag (gathered : Gathered text rest b b' g shown) {inner : String}
    (spelled : SpellHeaders inner flag) (spells : Json.read text = .ok v) (filled : v.isNull = false)
    (alike : Settings.ReadAlike (some v) (some (headersValue inner))) :
    settingsIn rest b' = settingsIn (flag ++ rest) b := by
  obtain ⟨flagged, flag_eq, differs⟩ := gathered.flag_differs spelled
  have added := gathered.variable_differs (SettingValues.ofText_of_read spells filled)
  rw [gathered.variable_eq, flag_eq, Settings.bind_ofValues_congr added differs alike]

/-- A text that spells neither null nor a text means the same either way. -/
theorem alike (gathered : Gathered text rest b b' g shown) (spelled : SpellHeaders text flag)
    (spells : Json.read text = .ok v) (filled : v.isNull = false) (plain : v.str? = none) :
    settingsIn rest b' = settingsIn (flag ++ rest) b := by
  refine gathered.variable_eq_flag spelled spells filled ?_
  rw [headersValue_of_read spells]
  exact Settings.readAlike_of_read spells plain

/-- A text inside a text is what the option would make of the inner text. -/
theorem inner (gathered : Gathered text rest b b' g shown) {inner : String} (spelled : SpellHeaders inner flag)
    (differs : inner ≠ "--") (spells : Json.read text = .ok (.str inner)) :
    settingsIn rest b' = settingsIn (flag ++ rest) b := by
  refine gathered.variable_eq_flag spelled spells rfl ?_
  rw [headersValue, if_neg differs]
  exact ⟨rfl, fun _ => rfl⟩

/-- Null counts as no variable. -/
theorem without (gathered : Gathered text rest b b' g shown) (spells : Json.read text = .ok .null) :
    settingsIn rest b' = settingsIn rest b := by
  have nothing : ofText "EnvSettingsSource" .headers text = .ok none := by
    rw [SettingValues.ofText_headers, spells]
  have added := gathered.variable_differs nothing
  rw [gathered.variable_eq, gathered.without_eq,
    Settings.bind_ofValues_congr added gathered.without_differs ⟨rfl, fun _ => rfl⟩]

/-- The variable's source refuses a text that spells nothing. -/
theorem unreadable (gathered : Gathered text rest b b' g shown) (fails : Json.read text = .error e)
    (shallow : e.isTooDeep = false) : ∃ f, settingsIn rest b' = .error (.misconfigured f) := by
  have told : ofText "EnvSettingsSource" .headers text =
      .error (.unreadableSetting Setting.headers.word "EnvSettingsSource") := by
    rw [SettingValues.ofText_headers, fails]
    dsimp only
    rw [shallow]
    rfl
  rw [gathered.variable_eq, gathered.variable_fails told]
  exact exists_misconfigured ⟨_, rfl, rfl⟩

/-- The option holds headers that it accepts, and they keep no settings from being made. -/
theorem accepted {h : Keyed String} (gathered : Gathered text rest b b' g shown)
    (spelled : SpellHeaders text flag) (accepted : readHeaders (headersValue text) = .ok h)
    (shallow : deepText? (some (headersValue text)) = none) :
    ((∃ s, settingsIn rest b = .ok s) → ∃ s, settingsIn (flag ++ rest) b = .ok s) ∧
      ∀ s, settingsIn (flag ++ rest) b = .ok s → s.headers = h := by
  obtain ⟨flagged, flag_eq, differs⟩ := gathered.flag_differs spelled
  obtain ⟨loads, holds⟩ := Settings.ofValues_of_accepted differs accepted shallow
  rw [gathered.without_eq, flag_eq]
  constructor
  · rintro ⟨s, made⟩
    obtain ⟨s', made'⟩ := loads ⟨s, Outcome.mapError_eq_ok.1 made⟩
    exact ⟨s', Outcome.mapError_eq_ok.2 made'⟩
  · intro s made
    exact holds s (Outcome.mapError_eq_ok.1 made)

/-- An object is accepted from the command line wherever it is from the environment, each value as its text. -/
theorem accepted_of_read {members : List (String × Json)} (gathered : Gathered text rest b b' g shown)
    (spelled : SpellHeaders text flag) (spells : Json.read text = .ok (.obj members)) :
    ((∃ s, settingsIn rest b = .ok s) → ∃ s, settingsIn (flag ++ rest) b = .ok s) ∧
      ∀ s, settingsIn (flag ++ rest) b = .ok s → s.headers = members.map fun p => (p.1, p.2.plain) := by
  have value := headersValue_of_read spells
  refine gathered.accepted spelled ?_ ?_
  · rw [value, Settings.readHeaders_of_read spells]
    rfl
  · rw [value]
    exact Settings.deepText?_of_read spells

/-- The option refuses headers that are not read as such. -/
theorem refused (gathered : Gathered text rest b b' g shown) (spelled : SpellHeaders text flag)
    (calm : ∀ f, g = .error f → f.kind = .configuration)
    (refused : ∀ h, readHeaders (headersValue text) ≠ .ok h)
    (shallow : deepText? (some (headersValue text)) = none) :
    ∃ f, settingsIn (flag ++ rest) b = .error (.misconfigured f) := by
  obtain ⟨flagged, flag_eq, differs⟩ := gathered.flag_differs spelled
  rw [flag_eq]
  exact exists_misconfigured (Settings.exists_of_refused differs refused shallow calm)

/-- A value that is no object is refused from the command line. -/
theorem refused_of_read (gathered : Gathered text rest b b' g shown) (spelled : SpellHeaders text flag)
    (calm : ∀ f, g = .error f → f.kind = .configuration) (spells : Json.read text = .ok v)
    (plain : v.obj? = none) : ∃ f, settingsIn (flag ++ rest) b = .error (.misconfigured f) := by
  have value := headersValue_of_read spells
  refine gathered.refused spelled calm ?_ ?_
  · intro h
    rw [value, Settings.readHeaders_of_read spells]
    exact Settings.headersOf_of_obj?_eq_none plain
  · rw [value]
    exact Settings.deepText?_of_read spells

/-- A text that spells no value, and does not nest too deeply, is refused from the command line. -/
theorem refused_of_error (gathered : Gathered text rest b b' g shown) (spelled : SpellHeaders text flag)
    (calm : ∀ f, g = .error f → f.kind = .configuration) (filled : text ≠ "")
    (fails : Json.read text = .error e) (shallow : e.isTooDeep = false) :
    ∃ f, settingsIn (flag ++ rest) b = .error (.misconfigured f) := by
  by_cases dashes : text = "--"
  · have value : headersValue text = .arr [] := if_pos dashes
    refine gathered.refused spelled calm ?_ ?_
    · intro h
      rw [value]
      nofun
    · rw [value]
      rfl
  · have value : headersValue text = .str text := if_neg dashes
    refine gathered.refused spelled calm ?_ ?_
    · intro h
      rw [value]
      exact Settings.readHeaders_of_error filled fails
    · rw [value, Settings.deepText?_of_error fails, shallow]
      rfl

/-- A text that nests too deeply fails either way. -/
theorem deep (gathered : Gathered text rest b b' g shown) (spelled : SpellHeaders text flag)
    (calm : ∀ f, g = .error f → f.kind = .configuration) (fails : Json.read text = .error e)
    (deep : e.isTooDeep = true) :
    settingsIn rest b' = .error (.crashed (.tooDeep e.message)) ∧
      (settingsIn (flag ++ rest) b = .error (.crashed (.tooDeep e.message)) ∨
        ∃ f, settingsIn (flag ++ rest) b = .error (.misconfigured f)) := by
  have told : ofText "EnvSettingsSource" .headers text = .error (.tooDeep e.message) := by
    rw [SettingValues.ofText_headers, fails]
    exact congrArg Except.error (if_pos deep)
  obtain ⟨flagged, flag_eq, differs⟩ := gathered.flag_differs spelled
  have within : deepText? (some (headersValue text)) = some e.message := by
    rw [headersValue_of_deep fails deep, Settings.deepText?_of_error fails, if_pos deep]
  constructor
  · rw [gathered.variable_eq, gathered.variable_fails told]
    rfl
  · rw [flag_eq]
    rcases Settings.ofValues_of_deep differs within with failed | ⟨f, first, failed⟩
    · left
      rw [failed]
      rfl
    · right
      exact exists_misconfigured ⟨f, failed, calm f first⟩

end Gathered

end

/-- **Headers by an option and by a variable.**  A text that spells an object gives its members either way, and
one that spells anything else but null and a text is refused either way, and so is one that spells nothing.  But
null counts as no variable and as bad headers for the option; a text that spells a text is what the option would
make of the inner text where it is a variable, and bad headers for the option; and the empty text is a bad
variable and no headers for the option.  What nests too deeply fails either way, but without an explanation. -/
theorem headers_two_ways (ways : TwoWays text flag rest b b')
    (explained : ∀ ending, settingsIn rest b = .error ending → ∃ f, ending = .misconfigured f) :
    match Json.read text with
    | .ok (.obj members) =>
        settingsIn rest b' = settingsIn (flag ++ rest) b ∧
          ((∃ s, settingsIn rest b = .ok s) → ∃ s, settingsIn (flag ++ rest) b = .ok s) ∧
          ∀ s, settingsIn (flag ++ rest) b = .ok s → s.headers = members.map fun p => (p.1, p.2.plain)
    | .ok .null =>
        settingsIn rest b' = settingsIn rest b ∧ ∃ f, settingsIn (flag ++ rest) b = .error (.misconfigured f)
    | .ok (.str inner) =>
        (∀ flag', inner ≠ "--" → SpellHeaders inner flag' → settingsIn rest b' = settingsIn (flag' ++ rest) b) ∧
          ∃ f, settingsIn (flag ++ rest) b = .error (.misconfigured f)
    | .ok _ =>
        settingsIn rest b' = settingsIn (flag ++ rest) b ∧
          ∃ f, settingsIn (flag ++ rest) b = .error (.misconfigured f)
    | .error e =>
        if text = "" then
          (∃ f, settingsIn rest b' = .error (.misconfigured f)) ∧
            ((∃ s, settingsIn rest b = .ok s) → ∃ s, settingsIn (flag ++ rest) b = .ok s) ∧
            ∀ s, settingsIn (flag ++ rest) b = .ok s → s.headers = []
        else if e.isTooDeep = true then
          settingsIn rest b' = .error (.crashed (.tooDeep e.message)) ∧
            (settingsIn (flag ++ rest) b = .error (.crashed (.tooDeep e.message)) ∨
              ∃ f, settingsIn (flag ++ rest) b = .error (.misconfigured f))
        else
          (∃ f, settingsIn rest b' = .error (.misconfigured f)) ∧
            ∃ f, settingsIn (flag ++ rest) b = .error (.misconfigured f) := by
  obtain ⟨g, shown, gathered⟩ := ways.exists_gathered
  have spelled := ways.spelled
  have calm := gathered.calm explained
  cases spells : Json.read text with
  | ok v =>
      have alike := gathered.alike spelled spells
      have refused := gathered.refused_of_read spelled calm spells
      cases v with
      | obj members => exact ⟨alike rfl rfl, gathered.accepted_of_read spelled spells⟩
      | null => exact ⟨gathered.without spells, refused rfl⟩
      | str inner =>
          refine ⟨?_, refused rfl⟩
          intro flag' differs spelled'
          exact gathered.inner spelled' differs spells
      | bool value => exact ⟨alike rfl rfl, refused rfl⟩
      | int value => exact ⟨alike rfl rfl, refused rfl⟩
      | float value => exact ⟨alike rfl rfl, refused rfl⟩
      | arr items => exact ⟨alike rfl rfl, refused rfl⟩
  | error e =>
      dsimp only
      by_cases empty : text = ""
      · subst empty
        rw [if_pos rfl]
        cases spells
        exact ⟨gathered.unreadable rfl rfl, gathered.accepted spelled rfl rfl⟩
      · rw [if_neg empty]
        by_cases deep : e.isTooDeep = true
        · rw [if_pos deep]
          exact gathered.deep spelled calm spells deep
        · rw [if_neg deep]
          have shallow : e.isTooDeep = false := Bool.eq_false_iff.2 deep
          have fails := gathered.unreadable spells shallow
          exact ⟨fails, gathered.refused_of_error spelled calm empty spells shallow⟩

/-- A background without anything. -/
def blank : Background := { environment := [], files := [] }

/-- A background with headers alone. -/
def headed (text : String) : Background := { environment := [("HEADERS", text)], files := [] }

/-- One object given in both ways gives the same headers. -/
theorem headers_two_ways_object :
    ∃ s, settingsIn [] (headed "\x7b\"a\": [1, null]\x7d") = .ok s ∧
      settingsIn ["--headers", "\x7b\"a\": [1, null]\x7d"] blank = .ok s ∧ s.headers = [("a", "[1, None]")] := by
  have ways : TwoWays "\x7b\"a\": [1, null]\x7d" ["--headers", "\x7b\"a\": [1, null]\x7d"] [] blank
      (headed "\x7b\"a\": [1, null]\x7d") := by
    constructor
    case spelled => exact .inr ⟨rfl, rfl⟩
    case unflagged => exact ⟨[], rfl, rfl⟩
    case agree =>
      intro name other
      exact (EnvFile.Variables.agreeBut_without [.headers] [("HEADERS", some "\x7b\"a\": [1, null]\x7d")] name
        other).symm
    case absent => rfl
    case present => rfl
    case filed => exact ⟨[], [], rfl, rfl, fun _ _ => rfl, rfl⟩
  have explained (ending : Ending) (failed : settingsIn [] blank = .error ending) :
      ∃ f, ending = .misconfigured f := by cases failed
  -- The text stays a variable until what it spells is known, so that it is read once.
  have both (text : String) (ways : TwoWays text ["--headers", text] [] blank (headed text))
      (spells : Json.read text = .ok (.obj [("a", .arr [.int 1, .null])])) :
      settingsIn [] (headed text) = settingsIn ["--headers", text] blank ∧
        ∀ s, settingsIn ["--headers", text] blank = .ok s → s.headers = [("a", "[1, None]")] := by
    have compared := headers_two_ways ways explained
    rw [spells] at compared
    exact ⟨compared.1, fun s made => (compared.2.2 s made).trans (by rfl)⟩
  obtain ⟨same, holds⟩ := both _ ways (by rfl)
  exact ⟨_, same, rfl, holds _ rfl⟩

/-- **Headers that mean different things by an option and by a variable**: the empty text, null, and a text
inside a text. -/
theorem exists_headers_apart :
    (∃ f s, settingsIn [] (headed "") = .error (.misconfigured f) ∧
      settingsIn ["--headers", ""] blank = .ok s ∧ s.headers = []) ∧
    (∃ s f, settingsIn [] (headed "null") = .ok s ∧
      settingsIn ["--headers", "null"] blank = .error (.misconfigured f)) ∧
    ∃ s f, settingsIn [] (headed "\"\x7b\x7d\"") = .ok s ∧
      settingsIn ["--headers", "\"\x7b\x7d\""] blank = .error (.misconfigured f) :=
  ⟨⟨_, _, rfl, rfl, rfl⟩, ⟨_, _, rfl, rfl⟩, _, _, rfl, rfl⟩

end Program

end QueryTools
