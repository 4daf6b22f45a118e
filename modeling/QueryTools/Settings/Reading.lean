import QueryTools.Settings.Basic
import QueryTools.Shape.Validation
import QueryTools.Number.Numeral
import QueryTools.Json.Reader
import QueryTools.Json.Display

/-!
# Reading the values of settings

A value for a setting need not have the setting's form: texts that spell numbers or truth values
are taken for them, and so are numbers where they lose nothing.  `Settings.read` reads all values
that are given, and reports every issue in the order of the settings.
-/

namespace QueryTools

/-- Values given for settings. -/
abbrev SettingValues := List (Setting × Json)

namespace Settings

/-- A value refused for one reason. -/
def refuse (cause : IssueCause) : Checked α := Checked.refuse [] cause

/-- A text. -/
def readText : Json → Checked String
  | .str s => .ok s
  | _ => refuse .notString

/-- A text, or null for none. -/
def readOptionalText : Json → Checked (Option String)
  | .null => .ok none
  | v => (readText v).map some

/-- The words for yes. -/
def yesWords : List String := ["1", "on", "t", "true", "y", "yes"]

/-- The words for no. -/
def noWords : List String := ["0", "off", "f", "false", "n", "no"]

/-- One past the greatest whole number of 64 bits with a sign. -/
def wordBound : Int := Nat.pow 2 63

/-- A truth value; one and zero stand for it, and so do some words. -/
def readSwitch : Json → Checked Bool
  | .bool b => .ok b
  | .str s =>
    let word := Text.lower s
    if yesWords.contains word then .ok true
    else if noWords.contains word then .ok false
    else refuse .unreadableBool
  | .int n => if -wordBound ≤ n ∧ n < wordBound then ofWhole n else refuse .notBool
  | .float x =>
    match x.toInt? with
    | some n => if n.natAbs < wordBound.natAbs then ofWhole n else refuse .notBool
    | none => refuse .notBool
  | _ => refuse .notBool
where
  /-- One for yes and zero for no. -/
  ofWhole (n : Int) : Checked Bool :=
    if n = 1 then .ok true else if n = 0 then .ok false else refuse .unreadableBool

/-- A whole number. -/
def readWhole : Json → Checked Int
  | .int n => .ok n
  | .bool b => .ok (if b then 1 else 0)
  | .float x =>
    match x.toInt? with
    | some n => if n.natAbs < wordBound.natAbs then .ok n else refuse .oversizedInt
    | none => refuse (if x.isFinite then .fractionalInt else .notFinite)
  | .str s =>
    if Json.digitLimit < s.utf8ByteSize then refuse .oversizedInt
    else
      match Numeral.settingWhole? s with
      | some n => .ok n
      | none => refuse .unreadableInt
  | _ => refuse .notInt

/-- A whole number that is at least one. -/
def readCount (v : Json) : Checked Nat :=
  match readWhole v with
  | .ok n => if 1 ≤ n then .ok n.toNat else refuse (.belowMinimum 1)
  | .error es => .error es

/-- A number. -/
def readNumber : Json → Checked Double
  | .float x => .ok x
  | .int n =>
    let x := Double.ofInt n
    if x.isFinite then .ok x else refuse .notFloat
  | .bool b => .ok (.ofInt (if b then 1 else 0))
  | .str s =>
    match Numeral.settingFraction? s with
    | some x => .ok x
    | none => refuse .unreadableFloat
  | _ => refuse .notFloat

/-- A number above zero. -/
def readPositive (v : Json) : Checked Double :=
  match readNumber v with
  | .ok x => if x.isPositive then .ok x else refuse (.notAbove 0)
  | .error es => .error es

/-- A list of texts. -/
def readTexts : Json → Checked (List String)
  | .arr vs =>
    Checked.items (fun path v =>
      match v with
      | .str s => .ok s
      | _ => Checked.refuse path .notString) [] 0 vs
  | _ => refuse .notList

/-- One of a set of words, in any case and with white space around it. -/
def readWord (ofWord? : String → Option α) (words : List String) : Json → Checked α
  | .str s =>
    match ofWord? (Text.lower (Text.trim s)) with
    | some a => .ok a
    | none => refuse (.notEnum words)
  | _ => refuse (.notEnum words)

/-- The style of a credential, or null for none. -/
def readAuthStyle : Json → Checked (Option AuthStyle)
  | .null => .ok none
  | .str s =>
    match AuthStyle.ofWord? s with
    | some style => .ok (some style)
    | none => refuse (.notChoice (AuthStyle.all.map AuthStyle.word))
  | _ => refuse (.notChoice (AuthStyle.all.map AuthStyle.word))

/-- The starts of an address that requests can go to. -/
def addressStarts : List String := ["http://", "https://"]

/-- An address that requests can go to. -/
def readEndpoint (v : Json) : Checked String :=
  match readText v with
  | .ok s =>
    let address := Text.trim s
    if addressStarts.any fun start => start.toList.isPrefixOf address.toList then .ok address
    else refuse (.refused s!"endpoint must be an http(s) URL, got {Text.quoted address}")
  | .error es => .error es

/-- Headers from an object; the values are shown as texts. -/
def headersOf : Json → Checked (Keyed String)
  | .obj members => .ok (members.map fun p => (p.1, p.2.plain))
  | _ => refuse (.refused "HEADERS must be a JSON object")

/-- Headers as an object, or as a text that spells one; the empty text stands for none. -/
def readHeaders : Json → Checked (Keyed String)
  | .str s =>
    if s = "" then .ok []
    else
      match Json.read s with
      | .ok v => headersOf v
      | .error e =>
        refuse (.refused (if e.fault.isForm then "HEADERS must be a valid JSON string" else e.message))
  | v => headersOf v

/-- The settings with one value read into its place. -/
def put (s : Settings) (setting : Setting) (v : Json) : Checked Settings :=
  match setting with
  | .name => (readText v).map fun x => { s with name := x }
  | .endpoint => (readEndpoint v).map fun x => { s with endpoint := x }
  | .schemaPath => (readOptionalText v).map fun x => { s with schemaPath := x }
  | .headers => (readHeaders v).map fun x => { s with headers := x }
  | .authStyle => (readAuthStyle v).map fun x => { s with authStyle := x }
  | .authValue => (readOptionalText v).map fun x => { s with authValue := x }
  | .allowMutations => (readSwitch v).map fun x => { s with allowMutations := x }
  | .excludedQueries => (readTexts v).map fun x => { s with excludedQueries := x }
  | .excludedMutations => (readTexts v).map fun x => { s with excludedMutations := x }
  | .convention =>
    (readWord Convention.ofWord? (Convention.all.map Convention.word) v).map fun x =>
      { s with convention := x }
  | .describeOutput => (readSwitch v).map fun x => { s with describeOutput := x }
  | .selectionDepth => (readCount v).map fun x => { s with selectionDepth := x }
  | .timeout => (readPositive v).map fun x => { s with timeout := x }
  | .logLevel =>
    (readWord LogLevel.ofWord? (LogLevel.all.map LogLevel.word) v).map fun x =>
      { s with logLevel := x }
  | .logToFile => (readSwitch v).map fun x => { s with logToFile := x }
  | .logFile => (readOptionalText v).map fun x => { s with logFile := x }
  | .logFolder => (readOptionalText v).map fun x => { s with logFolder := x }

/-- An issue with a setting, from the issue with its value. -/
def issueOf (setting : Setting) (i : Issue) : Issue :=
  { i with path := .name setting.word :: i.path }

/-- The value given for a setting. -/
def valueOf? (values : SettingValues) (setting : Setting) : Option Json :=
  (values.find? fun p => p.1 = setting).map Prod.snd

/-- Reads the values given for some settings, one after the other, into `s`. -/
def readEach (values : SettingValues) : List Setting → Settings → Checked Settings
  | [], s => .ok s
  | setting :: rest, s =>
    match valueOf? values setting with
    | none => readEach values rest s
    | some v =>
      match s.put setting v with
      | .ok s => readEach values rest { s with given := s.given ++ [setting] }
      | .error es =>
        let here := es.map (issueOf setting)
        match readEach values rest s with
        | .ok _ => .error here
        | .error more => .error (here ++ more)

/-- The settings that values give, with defaults for what is not given. -/
def read (values : SettingValues) : Checked Settings := readEach values Setting.all {}

end Settings

end QueryTools
