import QueryTools.Schema.Definition
import QueryTools.Schema.Introspection
import QueryTools.Operation
import QueryTools.Issue
import QueryTools.Files
import QueryTools.Http.Message
import QueryTools.Json.Writer

/-!
# Failures

Everything that an operation of the library can fail with, by cause, and the wording of each.  The
last group are causes that the caller of the program is not told about in terms of its own: they
say that a value had an unexpected form.
-/

namespace QueryTools

/-- The kinds of failures that a caller can tell apart. -/
inductive FailureKind where
  | general
  | configuration
  | transport
  | introspection
  | schema
  | query
  | mutationsDisabled
  | response
  | internal
  | toolNotFound
  | arguments
  | manifest
  | address
  | wrongType
  | wrongValue
  | missingKey
  | missingAttribute
  | encoding
  | unencodable
  | unicode
  | assertion
  | depth
  | schemaValues
  deriving DecidableEq, Repr

/-- Why an operation failed. -/
inductive Failure where
  /-- Values for settings that do not fit. -/
  | badSettings (issues : List Issue)
  /-- A setting whose source holds no readable text for it. -/
  | unreadableSetting (field source : String)
  /-- No successful response; without a response there is no status. -/
  | transport (status : Option Int) (statusText body : String)
  | introspection (fault : IntrospectionFault)
  | schema (text : String) (fault : SchemaFault)
  | unreadableFile (path : String) (fault : FileFault)
  | query (text : String) (error : SyntaxError)
  | mutationsDisabled
  /-- The server answered with errors. -/
  | response (payload : List (String × Json))
  | unnamedOperation
  | duplicateTool (name : String)
  | schemaNotLoaded
  /-- A tree of shapes with something else in it. -/
  | unknownShape (value : Json)
  | toolNotFound (name : String)
  | badArguments (tool : String) (issues : List Issue)
  /-- A tool that clients cannot be told of. -/
  | badManifest (issues : List Issue)
  | variablesNotJson (error : Json.ReadError)
  | variablesNotObject
  /-- A failure of a kind with a wording of its own. -/
  | stated (kind : FailureKind) (text : String)
  | unusableAddress (text : String)
  | roots (fault : RootFault)
  | access (cause : AccessFault)
  | undecodable (fault : Utf8Fault)
  /-- A response whose body cannot be shown. -/
  | unreadableBody (fault : BodyFault)
  /-- The values of an enum cannot be told. -/
  | untoldValues (text : String)
  /-- Things stand in each other more deeply than can be followed. -/
  | tooDeep (text : String)
  /-- A list that cannot be read as pairs of a name and a value. -/
  | notPairs (index length : Nat)
  deriving Repr

namespace Failure

/-- The kind of a failure. -/
def kind : Failure → FailureKind
  | .badSettings _ | .unreadableSetting .. => .configuration
  | .transport .. => .transport
  | .introspection (.access (.missingKey _)) => .missingKey
  | .introspection (.access (.noMembers _)) => .missingAttribute
  | .introspection (.unreadableErrors _) => .wrongType
  | .introspection _ => .introspection
  | .unreadableFile _ .embeddedNull => .wrongValue
  | .unreadableFile _ .unencodable => .unencodable
  | .schema .. | .unreadableFile .. => .schema
  | .query .. => .query
  | .mutationsDisabled => .mutationsDisabled
  | .response _ => .response
  | .unnamedOperation | .duplicateTool _ | .schemaNotLoaded | .unknownShape _ => .internal
  | .toolNotFound _ => .toolNotFound
  | .variablesNotJson error =>
    if error.isOversized then .wrongValue else if error.isTooDeep then .depth else .arguments
  | .badArguments .. | .variablesNotObject => .arguments
  | .badManifest _ => .manifest
  | .stated kind _ => kind
  | .unusableAddress _ => .address
  | .roots (.defaultOfOutput ..) => .wrongType
  | .roots _ => .missingAttribute
  | .access (.missingKey _) => .missingKey
  | .access (.noMembers _) => .missingAttribute
  | .access _ => .wrongType
  | .undecodable _ => .encoding
  | .unreadableBody (.contentType (.mixedPieces _)) => .wrongType
  | .unreadableBody (.contentType .embeddedNull) => .wrongValue
  | .unreadableBody (.charset .bytesCode) => .assertion
  | .unreadableBody (.charset .lettersCode) => .wrongType
  | .unreadableBody (.charset (.beyondAscii ..)) => .encoding
  | .unreadableBody (.charset _) => .unicode
  | .unreadableBody (.nesting _) | .tooDeep _ => .depth
  | .untoldValues _ => .schemaValues
  | .notPairs .. => .wrongValue

/-- Whether the failure is one that the program explains to its caller. -/
def isExplained (f : Failure) : Bool :=
  match f.kind with
  | .manifest | .address | .wrongType | .wrongValue | .missingKey | .missingAttribute | .encoding | .unencodable
  | .unicode | .assertion | .depth | .schemaValues => false
  | _ => true

/-- The wording of a failed request. -/
def transportMessage (statusText body : String) : String :=
  "GraphQL request failed: " ++ statusText ++ (if body = "" then "" else "\n" ++ body)

/-- The wording of a syntax error in a query. -/
def queryMessage (detail : String) : String := "Invalid GraphQL query: " ++ detail

/-- The wording for a tool that is not there. -/
def toolNotFoundMessage (name : String) : String := s!"Tool {name} not found"

/-- The wording for an answer with errors, which it shows in full. -/
def responseMessage (payload : List (String × Json)) : String :=
  "The GraphQL response has errors, please fix the query: " ++ (Json.obj payload).indented

/-- The line for an issue with a setting. -/
def settingLine (i : Issue) : String :=
  "  " ++ ".".intercalate (i.path.map PathStep.text) ++ ": " ++ i.cause.message

/-- The wording of a failure. -/
def message : Failure → String
  | .badSettings issues =>
    "Invalid configuration:\n" ++ "\n".intercalate (issues.map settingLine)
  | .unreadableSetting field source =>
    s!"Invalid configuration: error parsing value for field \"{field}\" from source \"{source}\""
  | .transport _ statusText body => transportMessage statusText body
  | .introspection (.access (.missingKey key)) => (AccessFault.missingKey key).message
  | .introspection (.access (.noMembers kind)) => (AccessFault.noMembers kind).message
  | .introspection fault => fault.message
  | .schema text fault => "Invalid schema definition: " ++ fault.message text
  | .unreadableFile path .embeddedNull => FileFault.embeddedNull.message path
  | .unreadableFile path .unencodable => FileFault.unencodable.message (Files.plainPath path)
  | .unreadableFile path fault =>
    s!"Failed to read schema file {path}: {fault.message (Files.plainPath path)}"
  | .query text error => queryMessage (error.message text)
  | .mutationsDisabled =>
    "Mutations are not allowed unless you enable them in the configuration. Please use a query "
      ++ "operation instead."
  | .response payload => responseMessage payload
  | .unnamedOperation => "Operation name is required"
  | .duplicateTool name => s!"Duplicate tool name {name}"
  | .schemaNotLoaded => "Schema has not been loaded"
  | .unknownShape value => s!"Unknown schema node: {value.display}"
  | .toolNotFound name => toolNotFoundMessage name
  | .badArguments tool issues =>
    s!"Invalid arguments for tool {tool}: {Issue.heading tool issues}"
  | .badManifest issues => Issue.heading "Tool" issues
  | .variablesNotJson error =>
    if error.fault.isForm then s!"Variables must be a JSON object: {error.message}" else error.message
  | .variablesNotObject => "Variables must be a JSON object"
  | .stated _ text => text
  | .unusableAddress text => text
  | .roots fault => fault.message
  | .access cause => cause.message
  | .undecodable fault => fault.message
  | .unreadableBody fault => fault.message
  | .untoldValues text | .tooDeep text => text
  | .notPairs index length =>
    s!"dictionary update sequence element #{index} has length {length}; 2 is required"

/-- The errors that an answer carries, one by one. -/
def responseErrors (payload : List (String × Json)) : Except AccessFault (List Json) :=
  match Keyed.get? "errors" payload with
  | some errors => if errors.isTruthy then errors.elements else .ok []
  | none => .ok []

end Failure

end QueryTools
