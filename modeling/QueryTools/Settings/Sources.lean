import QueryTools.Settings.Reading
import QueryTools.Settings.EnvFile
import QueryTools.Failure
import QueryTools.Files

/-!
# Where settings come from

Settings are given outright, by the environment, or by a file of variables in the working
directory, and in this order one source hides another; only objects are laid over each other member
by member.  In the environment and the file everything is text, so what has parts is written there
as JSON.  Every source is read in full, also where another one hides it.
-/

namespace QueryTools

mutual

/-- A value laid over another: objects member by member, anything else as a whole. -/
def Json.overlay (below : Json) : Json → Json
  | .obj above =>
    match below with
    | .obj members => .obj (Json.overlayMembers members above)
    | _ => .obj above
  | v => v

/-- The members of an object with others laid over them. -/
def Json.overlayMembers (below : List (String × Json)) :
    List (String × Json) → List (String × Json)
  | [] => below
  | (k, v) :: rest =>
    let laid := match Keyed.get? k below with
      | some old => Json.overlay old v
      | none => v
    Json.overlayMembers (Keyed.put k laid below) rest

end

namespace SettingValues

/-- The values that hold where some are laid over others. -/
def layOver (above below : SettingValues) : SettingValues :=
  Setting.all.filterMap fun setting =>
    match Settings.valueOf? above setting, Settings.valueOf? below setting with
    | some v, some old => some (setting, old.overlay v)
    | some v, none => some (setting, v)
    | none, some old => some (setting, old)
    | none, none => none

/-- The value under one of the names of a setting, whatever their case. -/
def named? (values : Keyed α) (setting : Setting) : Option α :=
  setting.names.findSome? fun name =>
    (values.find? fun p => Text.lower p.1 == name).map Prod.snd

/-- Values given under names of settings; other names do not count. -/
def ofNames (values : Keyed Json) : SettingValues :=
  Setting.all.filterMap fun setting => (named? values setting).map fun v => (setting, v)

/-- The value that a text gives for a setting, if any: null in JSON gives none. -/
def ofText (source : String) (setting : Setting) (text : String) : Except Failure (Option Json) :=
  if setting.isStructured then
    match Json.read text with
    | .ok .null => .ok none
    | .ok v => .ok (some v)
    | .error e =>
      .error (if e.isTooDeep then .tooDeep e.message else .unreadableSetting setting.word source)
  else .ok (some (.str text))

/-- The values that texts give for some settings. -/
def ofTextsFor (source : String) (vars : Keyed String) :
    List Setting → Except Failure SettingValues
  | [] => .ok []
  | setting :: rest => do
    let here ← match named? vars setting with
      | some text => ofText source setting text
      | none => pure none
    let more ← ofTextsFor source vars rest
    return (here.map fun v => (setting, v)).toList ++ more

/-- The values that variables give.  Of two whose names differ only in case the later counts. -/
def ofTexts (source : String) (vars : EnvFile.Variables) : Except Failure SettingValues :=
  let held := Keyed.ofPairs (vars.map fun p => (Text.lower p.1, p.2))
  ofTextsFor source (held.filterMap fun p => p.2.map fun text => (p.1, text)) Setting.all

end SettingValues

namespace Settings

/-- The name of the file of variables. -/
def envFileName : String := ".env"

/-- The variables of the file in the working directory, if there is one. -/
def fileVariables (environment : Keyed String) (files : Files) :
    Except Failure EnvFile.Variables :=
  match files.read envFileName with
  | .error _ => .ok []
  | .ok bytes =>
    match Utf8.decode bytes with
    | .ok cs => .ok (EnvFile.read environment (String.ofList (Text.unifyLineEnds cs)))
    | .error fault => .error (.undecodable fault)

/-- The values of all sources together. -/
def gather (outright : SettingValues) (environment : Keyed String) (files : Files) :
    Except Failure SettingValues := do
  let vars ← fileVariables environment files
  let fromEnvironment ← SettingValues.ofTexts "EnvSettingsSource" (Keyed.mapValues some environment)
  let fromFile ← SettingValues.ofTexts "DotEnvSettingsSource" vars
  return (outright.layOver fromEnvironment).layOver fromFile

/-- What the wording is of headers given as a text that nests too deeply, if they are. -/
def deepHeaders? (values : SettingValues) : Option String :=
  match (valueOf? values .headers).bind Json.str? with
  | none => none
  | some text =>
    match Json.read text with
    | .ok _ => none
    | .error e => if e.isTooDeep then some e.message else none

/-- The settings from all sources. -/
def load (outright : SettingValues) (environment : Keyed String) (files : Files) :
    Except Failure Settings := do
  let values ← gather outright environment files
  match deepHeaders? values with
  | some text => throw (.tooDeep text)
  | none => (read values).mapError Failure.badSettings

/-- Settings that are loaded once: those held already, or else what loading gives, which is held
from then on unless it is a failure. -/
def remembered (held : Option Settings) (loaded : Except Failure Settings) :
    Option Settings × Except Failure Settings :=
  match held with
  | some s => (some s, .ok s)
  | none => (loaded.toOption, loaded)

end Settings

end QueryTools
