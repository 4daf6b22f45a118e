/-!
# Log records

What is said while the program works: a severity, the name of the logger that says it, and the
text.  Loggers have dotted names under one package name.
-/

namespace QueryTools

/-- The levels of severity that can be configured. -/
inductive LogLevel where
  | debug
  | info
  | notice
  | warning
  | error
  | critical
  | alert
  | emergency
  deriving DecidableEq, Repr, Inhabited

namespace LogLevel

/-- All levels, the least severe first. -/
def all : List LogLevel :=
  [.debug, .info, .notice, .warning, .error, .critical, .alert, .emergency]

/-- The word for a level. -/
def word : LogLevel → String
  | .debug => "debug"
  | .info => "info"
  | .notice => "notice"
  | .warning => "warning"
  | .error => "error"
  | .critical => "critical"
  | .alert => "alert"
  | .emergency => "emergency"

/-- The level of a word. -/
def ofWord? (word : String) : Option LogLevel := all.find? fun l => l.word == word

/-- The severity of a level as a number.  Levels without a number of their own take that of the
nearest one that has. -/
def severity : LogLevel → Nat
  | .debug => 10
  | .info => 20
  | .notice => 20
  | .warning => 30
  | .error => 40
  | .critical => 50
  | .alert => 50
  | .emergency => 50

end LogLevel

/-- A record of a log. -/
structure LogRecord where
  severity : Nat
  /-- The name of the logger. -/
  logger : String
  text : String
  deriving DecidableEq, Repr

namespace LogRecord

/-- A record of a level. -/
def ofLevel (level : LogLevel) (logger text : String) : LogRecord := ⟨level.severity, logger, text⟩

/-- The name of a record's severity. -/
def label (r : LogRecord) : String :=
  match r.severity with
  | 10 => "DEBUG"
  | 20 => "INFO"
  | 30 => "WARNING"
  | 40 => "ERROR"
  | 50 => "CRITICAL"
  | n => s!"Level {n}"

/-- The records at least as severe as a number. -/
def atLeast (severity : Nat) (records : List LogRecord) : List LogRecord :=
  records.filter fun r => severity ≤ r.severity

end LogRecord

/-- The name above all loggers. -/
def packageLogger : String := "mcp_graphql"

/-- The name of a logger below the package's. -/
def moduleLogger (part : String) : String := packageLogger ++ "." ++ part

end QueryTools
