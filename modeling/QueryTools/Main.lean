import QueryTools.Program

/-!
# The command line program

Reads arguments, environment and files, talks to a client over the standard streams, and logs to the
error stream and, where the settings ask for it, to a file.  What is said and done is decided in
`Program`; this layer has no way to the network, so that every endpoint is out of reach.
-/

namespace QueryTools.CommandLine

/-- The variables of the environment that settings can be given by. -/
def readEnvironment : IO (Keyed String) := do
  let names := Setting.all.flatMap Setting.names
  let mut vars : Keyed String := []
  for name in names ++ names.map String.toUpper do
    if let some value ← IO.getEnv name then
      vars := Keyed.put name value vars
  return vars

/-- The files with those read from some paths, as far as they can be read. -/
def readFiles (paths : List String) : IO Files := do
  let mut files : Files := []
  for path in paths do
    try
      let bytes ← IO.FS.readBinFile path
      files := files.write path bytes.toList
    catch _ => pure ()
  return files

/-- What an action finds around it. -/
def surroundings (settings : Settings) : IO Surroundings := do
  let files ← readFiles settings.schemaFile?.toList
  return { files, reply := fun _ => .failed "ConnectError" "All connection attempts failed" }

/-- Writes the records that were logged since an earlier stage of a run. -/
def writeRecords (before after : Run) : IO Unit := do
  for record in after.loggers.passed.drop before.loggers.passed.length do
    (← IO.getStderr).putStrLn (" - ".intercalate [record.logger, record.label, record.text])
  if let some path := after.loggers.file then
    let file ← IO.FS.Handle.mk path .append
    for record in after.loggers.written.drop before.loggers.written.length do
      file.putStrLn (Json.obj [("name", .str record.logger), ("levelname", .str record.label),
        ("message", .str record.text)]).compact

/-- A run after an action whose records are written. -/
def act (r : Run) (a : Action α) (s : Surroundings) : IO (Run × Except Failure α) := do
  let (performed, result) := r.perform a s
  writeRecords r performed
  return (performed, result)

/-- Takes messages from the client until there are no more. -/
partial def serve (r : Run) (c : Conversation) : IO (Run × Except Stop Unit) := do
  let line ← (← IO.getStdin).getLine
  if line.isEmpty then return (r, .ok ())
  let message := match Json.read line with
    | .ok v => Incoming.ofJson v
    | .error _ => .unexpected
  match ← act r (c.take message) (← surroundings c.session.server.settings) with
  | (r, .ok (c, sent)) =>
    let output ← IO.getStdout
    for message in sent do
      output.putStrLn message.compact
    output.flush
    serve r c
  | (r, .error f) => return (r, .error (.failure f))

/-- Serves a client with the settings of a run. -/
def run (settings : Settings) : IO (Run × Ending) := do
  match Program.start.configure (some settings) [] with
  | (configured, .error f) => return (configured, Ending.ofStop (.error (.failure f)))
  | (configured, .ok ()) =>
    if let some (folder, _) := settings.logFile? then
      if folder ≠ "" then IO.FS.createDirAll folder
    writeRecords Program.start configured
    let (r, served) ← match ← act configured (Program.begin settings) (← surroundings settings) with
      | (r, .ok c) => serve r c
      | (r, .error f) => pure (r, .error (.failure f))
    return (r, Ending.ofStop served)

/-- Runs the program and gives its status. -/
def runProgram (arguments : List String) : IO UInt32 := do
  let files ← readFiles [".env"]
  let (r, ending) ← match Program.settings arguments (← readEnvironment) files with
    | .ok settings => run settings
    | .error ending => pure (Program.start, ending)
  if let .misused fault := ending then
    (← IO.getStderr).putStrLn fault.report
  writeRecords r (r.finish ending)
  return ((ending.exitStatus.getD 0).toUInt32)

end QueryTools.CommandLine

/-- Runs the program. -/
def main (arguments : List String) : IO UInt32 := QueryTools.CommandLine.runProgram arguments
