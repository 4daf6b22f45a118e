import QueryTools.Log.Loggers
import QueryTools.Session.Message
import QueryTools.Settings.CommandLine
import QueryTools.Settings.Sources

/-!
# The program

A run sets up the loggers, reads the settings, and serves a client until the client is done.  The
connection that it opens for this is closed however serving ends (`Program.closed_mem_serve`).  A
failure that the program explains ends it with a status of its own, and so does one of the
settings; only what is severe enough for its logger at that moment is logged.
-/

namespace QueryTools

/-- Why serving ended before the client was done. -/
inductive Stop where
  | failure (f : Failure)
  | interruption
  deriving Repr

/-- How a run of the program ends. -/
inductive Ending where
  | done
  | interrupted
  /-- The arguments cannot be read. -/
  | misused (fault : UsageFault)
  /-- The settings are no good. -/
  | misconfigured (f : Failure)
  /-- Serving failed. -/
  | stopped (f : Failure)
  /-- Something failed that the program does not explain. -/
  | crashed (f : Failure)
  deriving Repr

/-- The status that a run ends with, if it does not end by itself. -/
def Ending.exitStatus : Ending → Option Nat
  | .done | .interrupted => none
  | .misused fault => some fault.exitStatus
  | .misconfigured _ | .stopped _ | .crashed _ => some 1

/-- What is logged at the end of a run. -/
def Ending.record? : Ending → Option LogRecord
  | .done | .misused _ | .crashed _ => none
  | .interrupted => some (.ofLevel .info Server.logger "Shutting down...")
  | .misconfigured f => some (.ofLevel .error Server.logger f.message)
  | .stopped f => some (.ofLevel .error Server.logger ("Fatal error in main(): " ++ f.message))

/-- How a run ends when reading the settings failed. -/
def Ending.ofSettingsFailure (f : Failure) : Ending :=
  if f.kind = .configuration then .misconfigured f else .crashed f

/-- How a run ends when serving did. -/
def Ending.ofStop : Except Stop Unit → Ending
  | .ok () => .done
  | .error .interruption => .interrupted
  | .error (.failure f) => if f.isExplained then .stopped f else .crashed f

/-- A run of the program as far as it has come. -/
structure Run where
  service : LogService := {}
  loggers : Loggers := {}
  events : List Event := []

namespace Run

/-- The run after an event. -/
def record (r : Run) (e : Event) : Run :=
  { r with
    loggers := match e.record? with
      | some said => r.loggers.log said
      | none => r.loggers
    events := r.events ++ [e] }

/-- The run after the loggers were set up, and what came of that. -/
def configure (r : Run) (settings : Option Settings) (files : Files) : Run × Except Failure Unit :=
  let (service, loggers, fault) := r.service.configure settings files r.loggers
  ({ r with service, loggers },
    match fault with
    | some fault => .error (.stated fault.kind fault.message)
    | none => .ok ())

/-- The run after an action, and what came of the action. -/
def perform (r : Run) (a : Action α) (s : Surroundings) : Run × Except Failure α :=
  let o := a s
  (o.events.foldl record r, o.result)

/-- The run after its end. -/
def finish (r : Run) (ending : Ending) : Run :=
  match ending.record? with
  | some said => r.record (.said said)
  | none => r

end Run

namespace Program

/-- A run at its beginning.  The server's own logger is there from the start. -/
def start : Run :=
  let run : Run :=
    { service := ({} : LogService).obtain Server.logger, loggers := ({} : Loggers).add Server.logger }
  (run.configure none []).1

/-- The settings of a run, or how the run ends without them. -/
def settings (arguments : List String) (environment : Keyed String) (files : Files) :
    Except Ending Settings := do
  let given ← (CommandLine.read arguments).mapError Ending.misused
  (Settings.load given environment files).mapError Ending.ofSettingsFailure

/-- The connection that a run uses. -/
def client : Client := .own 0

/-- Serves a client that has some messages: what the client is sent, and the conversation as it is
then. -/
def converse (c : Conversation) : List Incoming → Action (Conversation × List Json)
  | [] => pure (c, [])
  | message :: rest => do
    let (c, sent) ← c.take message
    let (c, more) ← converse c rest
    return (c, sent ++ more)

/-- A server that has loaded its schema, and its conversation with a client. -/
def begin (settings : Settings) : Action Conversation := do
  let server ← (Server.new settings client).start
  return { session := { server } }

/-- Loads the schema and serves a client that has some messages. -/
def serve (settings : Settings) (messages : List Incoming) : Action (Conversation × List Json) := do
  Action.emit (.opened client settings.timeout)
  Action.thenAlways (begin settings >>= fun c => converse c messages) (.closed client)

/-- The connection is closed however serving ends. -/
theorem closed_mem_serve (settings : Settings) (messages : List Incoming) (s : Surroundings) :
    .closed client ∈ (serve settings messages s).events := by
  unfold serve
  rw [Action.events_bind_of_ok (x := ()) rfl]
  simp [Action.thenAlways]

end Program

end QueryTools
