import QueryTools.Proofs.Building
import QueryTools.Proofs.Text.Utf8
import QueryTools.Program

/-!
# Schemas in files

The schema that a server works with can be in a file, and what a file holds is anyone's guess: it may be
missing, a directory, or refused by the system, and its bytes are any bytes.  The program explains each
of these failures but three: a path that no bytes spell, a path that holds the character that ends paths, and
bytes that are no text.  Where none of them is met the file is `Surroundings.Legible`, and loading fails as the
program says.

Main statements:

* `Schema.legible_iff` -- the three failures of loading that are not explained are all there are;
* `Server.cases_of_failsToLoad` -- what keeps a server from loading its schema;
* `Program.result_serve_of_error` -- a run whose schema is not loaded ends with the failure;
* `Server.schema_file_outcome` -- all of this, for the settings of a server.
-/

namespace QueryTools

/-! ## Files -/

/-- A file can be read as a text, if it can be read: bytes spell the path, which does not end early, and the
bytes in the file are those of a text. -/
structure Surroundings.Legible (s : Surroundings) (path : String) : Prop where
  spelled : ∀ c ∈ path.toList, Files.isStray c = false
  whole : '\x00' ∉ path.toList
  isText : ∀ bytes, s.read path = .ok bytes → ∃ text : String, bytes = text.toUTF8.data.toList

/-- A fault of a path by itself, whatever files there are. -/
def FileFault.isOfSpelling : FileFault → Bool
  | .embeddedNull | .unencodable => true
  | _ => false

namespace Files

/-- A path is spelled just if no character of it is stray and it does not end early. -/
theorem spellingFault?_eq_none_iff {path : String} :
    spellingFault? path = none ↔ (∀ c ∈ path.toList, isStray c = false) ∧ '\x00' ∉ path.toList := by
  unfold spellingFault?
  by_cases stray : path.toList.any isStray = true
  · rw [if_pos stray]
    obtain ⟨c, there, is⟩ := List.any_eq_true.1 stray
    refine ⟨nofun, fun ⟨spelled, _⟩ => ?_⟩
    rw [spelled c there] at is
    cases is
  · rw [if_neg stray]
    have spelled : ∀ c ∈ path.toList, isStray c = false := by simpa using stray
    by_cases ends : path.toList.contains '\x00' = true
    · rw [if_pos ends]
      exact ⟨nofun, fun ⟨_, whole⟩ => absurd (List.contains_iff_mem.1 ends) whole⟩
    · rw [if_neg ends]
      exact ⟨fun _ => ⟨spelled, fun there => ends (List.contains_iff_mem.2 there)⟩, fun _ => rfl⟩

/-- What is wrong with the spelling of a path is of its spelling. -/
theorem isOfSpelling_of_spellingFault? {path : String} {fault : FileFault}
    (misspelled : spellingFault? path = some fault) : fault.isOfSpelling = true := by
  unfold spellingFault? at misspelled
  split at misspelled
  · cases misspelled
    rfl
  · split at misspelled
    · cases misspelled
      rfl
    · cases misspelled

/-- What is wrong with following it is not. -/
theorem isOfSpelling_of_follow {files : Files} {here : Place} {ps : List String} {fault : FileFault}
    (failed : files.follow here ps = .error fault) : fault.isOfSpelling = false := by
  fun_induction follow files here ps with
  | case2 here rest ih => exact ih failed
  | case6 here name rest there free short new below ih => exact ih failed
  | _ => cases failed <;> rfl

/-- What keeps a file from being read whose path bytes spell is no fault of the path by itself. -/
theorem isOfSpelling_of_read {files : Files} {path : String} (spelled : spellingFault? path = none)
    {fault : FileFault} (failed : files.read path = .error fault) : fault.isOfSpelling = false := by
  unfold read lookup at failed
  rw [spelled] at failed
  dsimp only at failed
  by_cases long : pathLimit ≤ byteCount (plainPath path)
  · rw [if_pos long] at failed
    cases failed
    rfl
  · rw [if_neg long] at failed
    cases led : files.follow (.start path) (parts path) with
    | error fault =>
        rw [led] at failed
        cases failed
        exact isOfSpelling_of_follow led
    | ok place =>
        rw [led] at failed
        cases place <;> cases failed
        rfl

end Files

namespace Surroundings

variable {s : Surroundings} {path : String} {fault : FileFault}

/-- A path that is not spelled cannot be read. -/
theorem read_of_spellingFault? (misspelled : Files.spellingFault? path = some fault) :
    s.read path = .error fault := by
  unfold read
  rw [misspelled]

/-- What keeps a file from being read is a fault of the path by itself just where the path has one. -/
theorem isOfSpelling_of_read (spelled : Files.spellingFault? path = none)
    (failed : s.read path = .error fault) : fault.isOfSpelling = false := by
  unfold read at failed
  rw [spelled] at failed
  dsimp only at failed
  cases refuses : s.refusal? path with
  | some text =>
      rw [refuses] at failed
      cases failed
      rfl
  | none =>
      rw [refuses] at failed
      exact Files.isOfSpelling_of_read spelled failed

end Surroundings

namespace Schema

/-- The schema that a text in a file defines: its lines may end in any way. -/
theorem ofBytes_toUTF8 (text : String) :
    ofBytes text.toUTF8.data.toList = parse (String.ofList (Text.unifyLineEnds text.toList)) := by
  have decoded : Utf8.decode text.toUTF8.data.toList = .ok text.toList :=
    Utf8.decode_eq_ok_iff.2 (Utf8.bytes_toList text).symm
  rw [ofBytes, decoded]
  rfl

/-- Bytes that are no text are refused, and not explained. -/
theorem ofBytes_of_not_text {bytes : List UInt8}
    (strange : ¬ ∃ text : String, bytes = text.toUTF8.data.toList) :
    ∃ fault, ofBytes bytes = .error (.undecodable fault) := by
  cases decoded : Utf8.decode bytes with
  | ok cs =>
      have same := Utf8.decode_eq_ok_iff.1 decoded
      refine absurd ⟨String.ofList cs, ?_⟩ strange
      rw [← Utf8.bytes_toList, String.toList_ofList, same]
  | error fault =>
      refine ⟨fault, ?_⟩
      rw [ofBytes, decoded]
      rfl

/-- A text that is no schema is told of as such. -/
theorem kind_of_parse {text : String} {f : Failure} (failed : parse text = .error f) :
    f.kind = .schema := by
  obtain ⟨fault, -, rfl⟩ := Outcome.mapError_eq_error.1 failed
  rfl

variable {s : Surroundings} {path : String}

/-- What comes of a file depends on what is read. -/
theorem result_ofFile (path : String) (s : Surroundings) :
    (ofFile path s).result =
      ((s.read path).mapError (Failure.unreadableFile path)).bind ofBytes := by
  unfold ofFile
  rw [Action.result_bind_of_ok (x := ()) rfl, Action.result_bind_of_ok (x := s) rfl]
  cases s.read path with
  | error fault => rfl
  | ok bytes => exact Action.result_bind_of_ok rfl

/-- A file that holds a text gives the schema of the text. -/
theorem result_ofFile_of_text {text : String} (reads : s.read path = .ok text.toUTF8.data.toList) :
    (ofFile path s).result = parse (String.ofList (Text.unifyLineEnds text.toList)) := by
  rw [result_ofFile, reads]
  exact ofBytes_toUTF8 text

/-- A file that cannot be read is said to be so just where the fault is not one of the path by itself. -/
theorem kind_unreadableFile (path : String) (fault : FileFault) :
    (fault.isOfSpelling = false → (Failure.unreadableFile path fault).kind = .schema) ∧
      (fault.isOfSpelling = true → (Failure.unreadableFile path fault).kind = .wrongValue ∨
        (Failure.unreadableFile path fault).kind = .unencodable) := by
  cases fault <;> simp [FileFault.isOfSpelling, Failure.kind]

/-- **Loading from a file fails as the program says** just where the file is legible. -/
theorem legible_iff :
    s.Legible path ↔ ∀ f, (ofFile path s).result = .error f → f.kind = .schema := by
  constructor
  · intro legible f failed
    have spelled := Files.spellingFault?_eq_none_iff.2 ⟨legible.spelled, legible.whole⟩
    cases reads : s.read path with
    | error fault =>
        rw [result_ofFile, reads] at failed
        cases failed
        exact (kind_unreadableFile path fault).1 (Surroundings.isOfSpelling_of_read spelled reads)
    | ok bytes =>
        obtain ⟨text, rfl⟩ := legible.isText bytes reads
        rw [result_ofFile_of_text reads] at failed
        exact kind_of_parse failed
  · intro explained
    have spelled : Files.spellingFault? path = none := by
      refine Option.eq_none_iff_forall_ne_some.2 fun fault misspelled => ?_
      have failed : (ofFile path s).result = .error (.unreadableFile path fault) := by
        rw [result_ofFile, Surroundings.read_of_spellingFault? misspelled]
        rfl
      have said := explained _ failed
      rcases (kind_unreadableFile path fault).2 (Files.isOfSpelling_of_spellingFault? misspelled) with
        value | unencodable
      · cases value.symm.trans said
      · cases unencodable.symm.trans said
    obtain ⟨spells, whole⟩ := Files.spellingFault?_eq_none_iff.1 spelled
    refine ⟨spells, whole, fun bytes reads => ?_⟩
    by_contra strange
    obtain ⟨fault, refused⟩ := ofBytes_of_not_text strange
    have failed : (ofFile path s).result = .error (.undecodable fault) := by
      rw [result_ofFile, reads]
      exact refused
    cases explained _ failed

/-- A failure of loading that the program does not explain is that of a path or of bytes. -/
theorem cases_of_ofFile_error {f : Failure} (failed : (ofFile path s).result = .error f) :
    f.kind = .schema ∨
      ¬ s.Legible path ∧ (f.kind = .wrongValue ∨ f.kind = .unencodable ∨ f.kind = .encoding) := by
  by_cases legible : s.Legible path
  · exact .inl (legible_iff.1 legible f failed)
  · rw [result_ofFile] at failed
    cases reads : s.read path with
    | error fault =>
        rw [reads] at failed
        cases failed
        cases spelling : fault.isOfSpelling with
        | false => exact .inl ((kind_unreadableFile path fault).1 spelling)
        | true =>
            have kind := (kind_unreadableFile path fault).2 spelling
            exact .inr ⟨legible, kind.imp id .inl⟩
    | ok bytes =>
        rw [reads] at failed
        have failed : ofBytes bytes = .error f := failed
        rcases Outcome.bind_eq_error.1 failed with undecoded | ⟨cs, -, unparsed⟩
        · obtain ⟨fault, -, rfl⟩ := Outcome.mapError_eq_error.1 undecoded
          exact .inr ⟨legible, .inr (.inr rfl)⟩
        · exact .inl (kind_of_parse unparsed)

end Schema

/-! ## Servers -/

/-- The schema can be worked with: values can be given and told wherever it asks for some, and told in its
text. -/
structure Schema.Workable (schema : Schema) : Prop where
  usable : schema.Usable
  told : schema.valuesFault? = none

namespace Server

/-- A server fails to load its schema, for the first time or anew; for a schema that is loaded anew its text
has to be given too. -/
inductive FailsToLoad (v : Server) (s : Surroundings) (f : Failure) : Prop
  | start : (v.start s).result = .error f → FailsToLoad v s f
  | refresh : (v.refresh s).result = .error f → FailsToLoad v s f
  | text (w : Server) : (v.refresh s).result = .ok (w, .error f) → FailsToLoad v s f

variable {v : Server} {settings : Settings} {s : Surroundings} {f : Failure}

/-- What keeps a server from loading its schema: it cannot be loaded, its tools cannot be made, or its text
cannot be given. -/
theorem cases_of_failsToLoad (fails : v.FailsToLoad s f) :
    (v.settings.loadSchema (some v.client) s).result = .error f ∨
      ∃ schema, (v.settings.loadSchema (some v.client) s).result = .ok schema ∧
        ((v.toolset.rules.compute schema s).result = .error f ∨ schema.print = .error f) := by
  cases fails with
  | start failed =>
      rw [result_start] at failed
      rcases Outcome.bind_eq_error.1 failed with unloaded | ⟨schema, loaded, uninstalled⟩
      · exact .inl unloaded
      · exact .inr ⟨schema, loaded, .inl (result_install_build_eq_error uninstalled)⟩
  | refresh failed =>
      rw [result_refresh] at failed
      rcases Outcome.bind_eq_error.1 failed with unloaded | ⟨schema, loaded, failed⟩
      · exact .inl unloaded
      · cases installed : (v.install Toolset.build schema s).result with
        | error g =>
            rw [installed] at failed
            cases failed
            exact .inr ⟨schema, loaded, .inl (result_install_build_eq_error installed)⟩
        | ok w =>
            rw [installed] at failed
            cases failed
  | text w refreshed =>
      obtain ⟨schema, loaded, -, text⟩ := result_refresh_eq_ok.1 refreshed
      exact .inr ⟨schema, loaded, .inr text.symm⟩

/-- Where the schema that was loaded is to blame it cannot be worked with. -/
theorem cases_of_compute_or_print {schema : Schema} {reserved : List String} (loaded : schema.Loaded)
    (failed : ((ToolRules.ofSettings settings reserved).compute schema s).result = .error f ∨
      schema.print = .error f) :
    ¬ schema.Workable ∧ ((∃ fault, f = .roots fault) ∨ ∃ text, f = .untoldValues text) := by
  rcases failed with unmade | unprinted
  · refine ⟨fun workable => ?_, ToolRules.blame_of_compute_error loaded unmade⟩
    obtain ⟨tools, made⟩ := ToolRules.exists_compute loaded workable.usable
    rw [made] at unmade
    cases unmade
  · unfold Schema.print at unprinted
    cases fault : schema.valuesFault? with
    | none =>
        rw [fault] at unprinted
        cases unprinted
    | some text =>
        rw [fault] at unprinted
        cases unprinted
        refine ⟨fun workable => ?_, .inr ⟨text, rfl⟩⟩
        have told := workable.told
        rw [fault] at told
        cases told

end Server

/-! ## Runs -/

namespace Program

/-- A run whose schema is not loaded ends with the failure. -/
theorem result_serve_of_error {settings : Settings} {s : Surroundings} {f : Failure}
    (failed : ((Server.new settings client).start s).result = .error f) (messages : List Incoming) :
    (serve settings messages s).result = .error f := by
  unfold serve
  rw [Action.result_bind_of_ok (x := ()) rfl]
  show ((begin settings >>= fun c => converse c messages) s).result = .error f
  refine Action.result_bind_of_error ?_
  exact Action.result_bind_of_error failed

end Program

namespace Ending

/-- A failure that is explained stops the program with its text. -/
theorem ofStop_of_isExplained {f : Failure} (explained : f.isExplained = true) :
    ofStop (.error (.failure f)) = .stopped f := if_pos explained

/-- Any other one crashes it. -/
theorem ofStop_of_not_isExplained {f : Failure} (unexplained : ¬ f.isExplained = true) :
    ofStop (.error (.failure f)) = .crashed f := if_neg unexplained

/-- However serving fails, the status of the run is 1. -/
theorem exitStatus_ofStop_failure (f : Failure) :
    (ofStop (.error (.failure f))).exitStatus = some 1 := by
  by_cases explained : f.isExplained = true
  · rw [ofStop_of_isExplained explained]
    rfl
  · rw [ofStop_of_not_isExplained explained]
    rfl

end Ending

namespace Server

variable {v : Server} {settings : Settings} {path : String} {s : Surroundings} {f : Failure}

/-- A server that works with a file fails to load its schema as the program says, or the file is not
legible, or the schema cannot be worked with. -/
theorem Reachable.cases_of_failsToLoad (reachable : v.Reachable settings)
    (source : settings.schemaFile? = some path) (fails : v.FailsToLoad s f) :
    f.kind = .schema ∨
      ¬ s.Legible path ∧ (f.kind = .wrongValue ∨ f.kind = .unencodable ∨ f.kind = .encoding) ∨
      ∃ schema, (Schema.ofFile path s).result = .ok schema ∧ ¬ schema.Workable ∧
        ((∃ fault, f = .roots fault) ∨ ∃ text, f = .untoldValues text) := by
  have loads : v.settings.loadSchema (some v.client) = Schema.ofFile path := by
    unfold Settings.loadSchema
    rw [reachable.settings_eq, source]
  rcases Server.cases_of_failsToLoad fails with unloaded | ⟨schema, loaded, failed⟩
  · rw [loads] at unloaded
    rcases Schema.cases_of_ofFile_error unloaded with explained | strange
    · exact .inl explained
    · exact .inr (.inl strange)
  · rw [loads] at loaded
    rw [reachable.rules_eq] at failed
    exact .inr (.inr ⟨schema, loaded, cases_of_compute_or_print (Schema.loaded_of_ofFile loaded) failed⟩)

/-- The program explains that a server does not load the schema of a file just where it says so. -/
theorem Reachable.isExplained_iff (reachable : v.Reachable settings)
    (source : settings.schemaFile? = some path) (fails : v.FailsToLoad s f) :
    f.isExplained = true ↔ f.kind = .schema := by
  constructor
  · intro explained
    rcases reachable.cases_of_failsToLoad source fails with said | ⟨-, value | unencodable | encoding⟩ |
      ⟨schema, -, -, ⟨fault, rfl⟩ | ⟨text, rfl⟩⟩
    · exact said
    · simp only [Failure.isExplained, value] at explained
      cases explained
    · simp only [Failure.isExplained, unencodable] at explained
      cases explained
    · simp only [Failure.isExplained, encoding] at explained
      cases explained
    · cases fault <;> cases explained
    · cases explained
  · intro said
    simp only [Failure.isExplained, said]

/-- **What comes of a schema in a file.**  A file that holds a text gives the schema of the text, its lines
ending in any way.  Loading fails as the program says just where the file is legible.  A server that works
with the file fails to load it as the program says, or the file is not legible, or it defines a schema that
cannot be worked with.  A run whose server does not start ends with the failure and the status 1, and says
why just where loading failed as the program says. -/
theorem schema_file_outcome (source : settings.schemaFile? = some path) (s : Surroundings) :
    (∀ text : String, s.read path = .ok text.toUTF8.data.toList →
      (Schema.ofFile path s).result = Schema.parse (String.ofList (Text.unifyLineEnds text.toList))) ∧
    (s.Legible path ↔ ∀ f, (Schema.ofFile path s).result = .error f → f.kind = .schema) ∧
    (∀ v f, Reachable settings v → v.FailsToLoad s f →
      f.kind = .schema ∨
        ¬ s.Legible path ∧ (f.kind = .wrongValue ∨ f.kind = .unencodable ∨ f.kind = .encoding) ∨
        ∃ schema, (Schema.ofFile path s).result = .ok schema ∧ ¬ schema.Workable ∧
          ((∃ fault, f = .roots fault) ∨ ∃ text, f = .untoldValues text)) ∧
    ∀ f, ((new settings Program.client).start s).result = .error f →
      (∀ messages, (Program.serve settings messages s).result = .error f) ∧
      (Ending.ofStop (.error (.failure f))).exitStatus = some 1 ∧
      Ending.ofStop (.error (.failure f)) = if f.kind = .schema then .stopped f else .crashed f := by
  refine ⟨fun text => Schema.result_ofFile_of_text, Schema.legible_iff,
    fun v f reachable => reachable.cases_of_failsToLoad source, fun f failed => ?_⟩
  have reachable : (new settings Program.client).Reachable settings :=
    reachable_after settings Program.client []
  have explained := reachable.isExplained_iff source (.start failed)
  refine ⟨Program.result_serve_of_error failed, Ending.exitStatus_ofStop_failure f, ?_⟩
  by_cases said : f.kind = .schema
  · rw [if_pos said]
    exact Ending.ofStop_of_isExplained (explained.2 said)
  · rw [if_neg said]
    exact Ending.ofStop_of_not_isExplained fun told => said (explained.1 told)

/-- Settings whose schema is in a file. -/
def filed : Settings := { schemaPath := some "s.graphql" }

/-- Surroundings with one file. -/
def withFile (bytes : List UInt8) : Surroundings := { cutOff with files := [("s.graphql", bytes)] }

/-- Surroundings that refuse every file. -/
def guarded : Surroundings :=
  { withFile [] with refusal? := fun path => some ("[Errno 13] Permission denied: " ++ path) }

/-- A text that defines a schema. -/
def shortText : String := "type Query \x7b a: Int \x7d"

/-- A schema is read from a file, and a file that the system refuses ends a run as the program says. -/
theorem schema_file_outcome_filed :
    (∃ schema, (Schema.ofFile "s.graphql" (withFile shortText.toUTF8.data.toList)).result = .ok schema) ∧
    ∃ f, ((new filed Program.client).start guarded).result = .error f ∧ f.kind = .schema ∧
      Ending.ofStop (.error (.failure f)) = .stopped f := by
  have source : filed.schemaFile? = some "s.graphql" := by decide
  constructor
  · have reads : (withFile shortText.toUTF8.data.toList).read "s.graphql" =
        .ok shortText.toUTF8.data.toList := by rfl
    have gives := (schema_file_outcome source _).1 _ reads
    have parses : (Schema.parse (String.ofList (Text.unifyLineEnds shortText.toList))).isOk = true := by
      decide +kernel
    rw [gives]
    cases parsed : Schema.parse (String.ofList (Text.unifyLineEnds shortText.toList)) with
    | ok schema => exact ⟨schema, rfl⟩
    | error f =>
        rw [parsed] at parses
        cases parses
  · have failed : ((new filed Program.client).start guarded).result =
        .error (.unreadableFile "s.graphql" (.refused "[Errno 13] Permission denied: s.graphql")) := by rfl
    obtain ⟨-, -, fails, ends⟩ := schema_file_outcome source guarded
    have reachable : (new filed Program.client).Reachable filed :=
      reachable_after filed Program.client []
    rcases fails _ _ reachable (.start failed) with said | ⟨-, value | unencodable | encoding⟩ |
      ⟨_, -, -, ⟨_, never⟩ | ⟨_, never⟩⟩
    · exact ⟨_, failed, said, (ends _ failed).2.2⟩
    · cases value
    · cases unencodable
    · cases encoding
    · cases never
    · cases never

/-- **A file whose bytes are no text, and a path that ends early or that no bytes spell, stop a run without an
explanation.** -/
theorem exists_unexplained_file :
    (∃ fault, ((new filed Program.client).start (withFile [0xff])).result = .error (.undecodable fault) ∧
      Ending.ofStop (.error (.failure (.undecodable fault))) = .crashed (.undecodable fault)) ∧
    (∃ path, ((new { schemaPath := some path } Program.client).start (withFile [])).result =
        .error (.unreadableFile path .embeddedNull) ∧
      (Failure.unreadableFile path .embeddedNull).kind ≠ .schema) ∧
    ∃ path, ((new { schemaPath := some path } Program.client).start (withFile [])).result =
        .error (.unreadableFile path .unencodable) ∧
      (Failure.unreadableFile path .unencodable).kind ≠ .schema := by
  refine ⟨⟨⟨.badStart, 0, 1, 0xff⟩, rfl, rfl⟩, ⟨"a\x00b", rfl, nofun⟩, ?_⟩
  exact ⟨String.singleton (Text.half 0xd800), rfl, nofun⟩

end Server

end QueryTools
