import QueryTools.Http.Headers
import QueryTools.Tool.Basic
import QueryTools.Log.Basic

/-!
# Settings

What can be configured, with the values that hold where nothing is given.
-/

namespace QueryTools

/-- The settings by name, in the order in which they are read and reported. -/
inductive Setting where
  | name
  | endpoint
  | schemaPath
  | headers
  | authStyle
  | authValue
  | allowMutations
  | excludedQueries
  | excludedMutations
  | convention
  | describeOutput
  | selectionDepth
  | timeout
  | logLevel
  | logToFile
  | logFile
  | logFolder
  deriving DecidableEq, Repr

namespace Setting

/-- All settings in order. -/
def all : List Setting :=
  [.name, .endpoint, .schemaPath, .headers, .authStyle, .authValue, .allowMutations,
    .excludedQueries, .excludedMutations, .convention, .describeOutput, .selectionDepth, .timeout,
    .logLevel, .logToFile, .logFile, .logFolder]

/-- The word for a setting. -/
def word : Setting → String
  | .name => "name"
  | .endpoint => "endpoint"
  | .schemaPath => "schema_path"
  | .headers => "headers"
  | .authStyle => "auth_type"
  | .authValue => "auth_value"
  | .allowMutations => "allow_mutations"
  | .excludedQueries => "exclude_queries"
  | .excludedMutations => "exclude_mutations"
  | .convention => "calling_convention"
  | .describeOutput => "describe_output_types"
  | .selectionDepth => "selection_depth"
  | .timeout => "timeout"
  | .logLevel => "log_level"
  | .logToFile => "log_to_file"
  | .logFile => "log_file"
  | .logFolder => "log_folder"

/-- The names under which a setting can be given, the preferred one first.  Case does not count. -/
def names : Setting → List String
  | .schemaPath => ["schema_path", "schema"]
  | s => [s.word]

/-- Whether a setting is written as JSON where only texts can be given. -/
def isStructured : Setting → Bool
  | .headers | .excludedQueries | .excludedMutations => true
  | _ => false

end Setting

/-- The values of all settings. -/
structure Settings where
  /-- The name under which the program presents itself. -/
  name : String := "mcp-graphql"
  /-- The address that queries go to. -/
  endpoint : String := "http://localhost:4000/graphql"
  /-- A file with the schema; without one the endpoint is asked for it. -/
  schemaPath : Option String := none
  headers : Keyed String := []
  authStyle : Option AuthStyle := none
  authValue : Option String := none
  allowMutations : Bool := false
  excludedQueries : List String := []
  excludedMutations : List String := []
  convention : Convention := .query
  describeOutput : Bool := true
  selectionDepth : Nat := 3
  /-- How many seconds a request may take. -/
  timeout : Double := .ofInt 30
  logLevel : LogLevel := .info
  logToFile : Bool := false
  logFile : Option String := none
  logFolder : Option String := none
  /-- The settings that were given. -/
  given : List Setting := []
  deriving Repr

namespace Settings

/-- The path of the schema file, if one is set. -/
def schemaFile? (s : Settings) : Option String := s.schemaPath.filter (· != "")

/-- The headers of every request. -/
def requestHeaders (s : Settings) : Keyed String :=
  Headers.build s.headers s.authStyle s.authValue

/-- How tools are made. -/
def synthesizer (s : Settings) : Synthesizer :=
  { convention := s.convention, describe := s.describeOutput, depth := s.selectionDepth }

/-- The kinds of operations that become tools. -/
def allowedKinds (s : Settings) : List OperationKind :=
  if s.allowMutations then [.query, .mutation] else [.query]

/-- Whether an operation is kept from becoming a tool. -/
def excludes (s : Settings) (kind : OperationKind) (name : String) : Bool :=
  match kind with
  | .query => s.excludedQueries.contains name
  | _ => s.excludedMutations.contains name

end Settings

end QueryTools
