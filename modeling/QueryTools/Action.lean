import QueryTools.Failure
import QueryTools.Http.Message
import QueryTools.Log.Basic
import QueryTools.Shape.Basic

/-!
# Actions

What the program does to the outside: it says something in the log, opens and closes connections,
and posts requests.  An `Action` is a pure function from the surroundings to an outcome, which
holds the events in order beside the result.  Events stay where an action fails, so an outcome
tells what had happened by then.

Main statements: the events of a sequence are those of its parts one after the other
(`Action.events_bind_of_ok`), and nothing follows a failure (`Action.events_bind_of_error`).
-/

namespace QueryTools

/-- A connection that requests go through. -/
inductive Client where
  /-- One that was handed over, and that others may use too. -/
  | shared
  /-- The one opened as the given one in a row. -/
  | own (index : Nat)
  /-- One for a single request. -/
  | temporary
  deriving DecidableEq, Repr

/-- Something done to the outside. -/
inductive Event where
  | said (record : LogRecord)
  | opened (client : Client) (timeout : Double)
  | posted (client : Client) (request : Request)
  | closed (client : Client)
  deriving Repr

namespace Event

/-- The log record of an event, if it is one. -/
def record? : Event → Option LogRecord
  | .said record => some record
  | _ => none

/-- The request of an event, if it is one. -/
def request? : Event → Option Request
  | .posted _ request => some request
  | _ => none

end Event

/-- What an action depends on. -/
structure Surroundings where
  files : Files := []
  /-- What comes of a request. -/
  reply : Request → Reply
  /-- How long a request takes, in tenths of a millisecond. -/
  duration : Nat := 0
  /-- Why the system does not let a file be read, where it does not: for want of a right, for example. -/
  refusal? : String → Option String := fun _ => none
  /-- Whether the stack runs out where the check for values of fields is built. -/
  exhausts : List (Member Shape) → Bool := fun fields => Shape.rowLimit < Shape.longestRowIn fields

/-- The bytes of a file. -/
def Surroundings.read (s : Surroundings) (path : String) : Except FileFault (List UInt8) :=
  match Files.spellingFault? path with
  | some fault => .error fault
  | none =>
    match s.refusal? path with
    | some text => .error (.refused text)
    | none => s.files.read path

/-- What comes of an action. -/
structure Outcome (α : Type) where
  result : Except Failure α
  events : List Event

namespace Outcome

/-- The log records among the events. -/
def records (o : Outcome α) : List LogRecord := o.events.filterMap Event.record?

/-- The requests among the events. -/
def requests (o : Outcome α) : List Request := o.events.filterMap Event.request?

end Outcome

/-- Something that is done in given surroundings. -/
def Action (α : Type) := Surroundings → Outcome α

namespace Action

variable {α β : Type}

/-- Does nothing, with a result. -/
def ofResult (result : Except Failure α) : Action α := fun _ => ⟨result, []⟩

/-- Does one thing and then another, which depends on the result; a failure ends both. -/
def andThen (a : Action α) (f : α → Action β) : Action β := fun s =>
  let first := a s
  match first.result with
  | .error e => ⟨.error e, first.events⟩
  | .ok x =>
    let second := f x s
    ⟨second.result, first.events ++ second.events⟩

instance : Monad Action where
  pure x := ofResult (.ok x)
  bind := andThen

/-- Fails. -/
def fail (f : Failure) : Action α := ofResult (.error f)

/-- One event. -/
def emit (e : Event) : Action Unit := fun _ => ⟨.ok (), [e]⟩

/-- Says something under the name of a logger. -/
def say (level : LogLevel) (logger text : String) : Action Unit :=
  emit (.said (.ofLevel level logger text))

/-- Says something if there is something to say. -/
def sayIf (record : Option LogRecord) : Action Unit :=
  match record with
  | some r => emit (.said r)
  | none => pure ()

/-- Posts a request. -/
def post (client : Client) (request : Request) : Action Reply := fun s =>
  ⟨.ok (s.reply request), [.posted client request]⟩

/-- What is around. -/
def surroundings : Action Surroundings := fun s => ⟨.ok s, []⟩

/-- Does something and then, whatever came of it, one thing more. -/
def thenAlways (a : Action α) (e : Event) : Action α := fun s =>
  let o := a s
  { o with events := o.events ++ [e] }

/-- Does something and gives what came of it, a failure included. -/
def attempt (a : Action α) : Action (Except Failure α) := fun s =>
  let o := a s
  ⟨.ok o.result, o.events⟩

theorem events_bind_of_ok {a : Action α} {f : α → Action β} {s : Surroundings} {x : α}
    (h : (a s).result = .ok x) : ((a >>= f) s).events = (a s).events ++ (f x s).events := by
  show (andThen a f s).events = _
  simp [andThen, h]

theorem events_bind_of_error {a : Action α} {f : α → Action β} {s : Surroundings} {e : Failure}
    (h : (a s).result = .error e) : ((a >>= f) s).events = (a s).events := by
  show (andThen a f s).events = _
  simp [andThen, h]

theorem result_bind_of_ok {a : Action α} {f : α → Action β} {s : Surroundings} {x : α}
    (h : (a s).result = .ok x) : ((a >>= f) s).result = (f x s).result := by
  show (andThen a f s).result = _
  simp [andThen, h]

theorem result_bind_of_error {a : Action α} {f : α → Action β} {s : Surroundings} {e : Failure}
    (h : (a s).result = .error e) : ((a >>= f) s).result = .error e := by
  show (andThen a f s).result = _
  simp [andThen, h]

/-- A sequence succeeds just where both its parts do. -/
theorem result_bind_eq_ok {a : Action α} {f : α → Action β} {s : Surroundings} {y : β} :
    ((a >>= f) s).result = .ok y ↔ ∃ x, (a s).result = .ok x ∧ (f x s).result = .ok y := by
  cases h : (a s).result with
  | error e => simp [result_bind_of_error h]
  | ok x => simp [result_bind_of_ok h]

/-- A sequence fails where its first part does, or where that succeeds and the second part fails. -/
theorem result_bind_eq_error {a : Action α} {f : α → Action β} {s : Surroundings}
    {e : Failure} :
    ((a >>= f) s).result = .error e ↔
      (a s).result = .error e ∨ ∃ x, (a s).result = .ok x ∧ (f x s).result = .error e := by
  cases first : (a s).result with
  | error e' => simp [result_bind_of_error first]
  | ok x => simp [result_bind_of_ok first]

@[simp] theorem result_pure {x : α} {s : Surroundings} :
    ((pure x : Action α) s).result = .ok x := rfl

@[simp] theorem result_attempt {a : Action α} {s : Surroundings} :
    (a.attempt s).result = .ok (a s).result := rfl

@[simp] theorem result_say {level : LogLevel} {logger text : String} {s : Surroundings} :
    (say level logger text s).result = .ok () := rfl

@[simp] theorem result_fail {f : Failure} {s : Surroundings} :
    ((fail f : Action α) s).result = .error f := rfl

@[simp] theorem result_ofResult {r : Except Failure α} {s : Surroundings} :
    (ofResult r s).result = r := rfl

end Action

end QueryTools
