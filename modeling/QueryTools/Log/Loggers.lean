import QueryTools.Files
import QueryTools.Settings.Basic

/-!
# Loggers

Loggers have dotted names, and one without a level of its own takes that of the nearest name above
it.  What the package's loggers admit goes to the handlers of the package's logger: the console, and
one file if the settings ask for it.  A service sets the level of the package's logger and of those
loggers that were obtained from it.

Main statements: setting a level gives it to the package's logger and to each logger obtained
(`LogService.own_setLevel`), and changes no other (`LogService.own_setLevel_of_not_mem`).
-/

namespace QueryTools

/-- Where records go. -/
inductive LogHandler where
  | console
  | file
  deriving DecidableEq, Repr

/-- The name of the logger above all others. -/
def rootLogger : String := "root"

/-- The loggers with their levels, and what was logged. -/
structure Loggers where
  /-- The levels that loggers have of their own. -/
  levels : Keyed Nat := [(rootLogger, LogLevel.warning.severity)]
  /-- The names of the loggers that were asked for. -/
  names : List String := []
  /-- The handlers of the package's logger in the order in which they were attached. -/
  handlers : List LogHandler := []
  /-- The path of the log file, once it is opened. -/
  file : Option String := none
  /-- The files that are there since then. -/
  files : Files := []
  /-- The records that the package's logger passed to its handlers. -/
  passed : List LogRecord := []
  /-- The records that were written to the file. -/
  written : List LogRecord := []
  deriving Repr

/-- Why there is no log file. -/
inductive LogFileFault where
  /-- The settings name none. -/
  | disabled
  | unusable (path : String) (fault : FileFault)
  deriving DecidableEq, Repr

/-- The wording of a fault. -/
def LogFileFault.message : LogFileFault → String
  | .disabled => "File logging is disabled or no log file specified"
  | .unusable path fault => fault.message path

/-- Whether the system is at fault, and the program goes on without the file.  A path that ends early or
that no bytes spell never comes to the system. -/
def LogFileFault.isOfSystem : LogFileFault → Bool
  | .disabled | .unusable _ .embeddedNull | .unusable _ .unencodable => false
  | .unusable .. => true

/-- The kind of the failure with which setting up the loggers ends where the system is not at fault. -/
def LogFileFault.kind : LogFileFault → FailureKind
  | .unusable _ .unencodable => .unencodable
  | _ => .wrongValue

/-- The log file that the settings name: its directory and its name there. -/
def Settings.logFile? (s : Settings) : Option (String × String) :=
  match s.logFile with
  | some file => if s.logToFile && file != "" then some (s.logFolder.getD "", file) else none
  | none => none

namespace Loggers

/-- The name that a logger is kept under. -/
def key (name : String) : String := if name = "" then rootLogger else name

/-- The loggers with one of a name, which is there from then on. -/
def add (ls : Loggers) (name : String) : Loggers := { ls with names := ls.names.insert (key name) }

/-- The names above one that is given backwards, the nearest first: what stands before each dot.  A dot with
another one behind it counts only where there is a logger whose name ends with it. -/
def namesAbove (names : List String) : List Char → List String
  | [] => []
  | '.' :: '.' :: rest =>
    let above := String.ofList ('.' :: rest).reverse
    if names.contains above then above :: namesAbove names ('.' :: rest)
    else above :: namesAbove names rest
  | ['.'] => []
  | '.' :: rest => String.ofList rest.reverse :: namesAbove names rest
  | _ :: rest => namesAbove names rest

/-- A name and those above it, the nearest first. -/
def lineage (ls : Loggers) (name : String) : List String :=
  key name :: namesAbove ls.names (key name).toList.reverse ++ [rootLogger]

/-- The level that a logger has of its own; 0 is none. -/
def own (ls : Loggers) (name : String) : Nat := (Keyed.get? (key name) ls.levels).getD 0

/-- The least severity that a logger admits. -/
def effective (ls : Loggers) (name : String) : Nat :=
  ((ls.lineage name).find? fun n => ls.own n != 0).elim 0 ls.own

/-- Whether a record is severe enough for its logger. -/
def admits (ls : Loggers) (r : LogRecord) : Bool :=
  0 < r.severity && ls.effective r.logger ≤ r.severity

/-- The loggers after a record. -/
def log (ls : Loggers) (r : LogRecord) : Loggers :=
  if ls.admits r && (ls.lineage r.logger).contains packageLogger then
    { ls with
      passed := ls.passed ++ [r]
      written := if ls.handlers.contains .file then ls.written ++ [r] else ls.written }
  else ls

/-- The loggers after something said by the package's logger. -/
def say (ls : Loggers) (level : LogLevel) (text : String) : Loggers :=
  ls.log (.ofLevel level packageLogger text)

/-- The loggers with a handler of the package's logger, which is attached once. -/
def attach (ls : Loggers) (h : LogHandler) : Loggers :=
  if ls.handlers.contains h then ls else { ls with handlers := ls.handlers ++ [h] }

/-- The loggers with a log file, which is opened once. -/
def openFile (ls : Loggers) (s : Settings) (files : Files) : Except LogFileFault Loggers :=
  match ls.file, s.logFile? with
  | some _, _ => .ok ls
  | none, none => .error .disabled
  | none, some (folder, file) => do
    let path := Files.below folder file
    let files ← (files.makeDirectory folder).mapError fun f => LogFileFault.unusable f.path f.fault
    let files ← (files.openFile path).mapError (LogFileFault.unusable path)
    return { ls with file := some (Files.key path), files }

/-- The loggers with the log file that the settings ask for, and what is said about it.  A fault that is
none of the system's comes with them. -/
def attachFile (ls : Loggers) (settings : Option Settings) (files : Files) :
    Loggers × Option LogFileFault :=
  let disabled := ls.say .debug "File logging disabled - logging to stderr only"
  match settings with
  | none => (disabled, none)
  | some s =>
    match s.logFile? with
    | none => (disabled, none)
    | some (folder, file) =>
      match ls.openFile s files with
      | .ok ls =>
        let shown := if folder = "" then "." else folder
        ((ls.attach .file).say .info s!"File logging enabled: {shown}/{file}", none)
      | .error fault =>
        let reason := fault.message
        if fault.isOfSystem then
          (ls.say .warning s!"Failed to initialize file logging: {reason}", none)
        else (ls, some fault)

/-- What was written to the log file that a path leads to. -/
def read (ls : Loggers) (path : String) : Except FileFault (List LogRecord) :=
  (ls.files.read path).map fun _ => ls.written

end Loggers

/-- A service that gives out loggers and sets their level. -/
structure LogService where
  /-- The level that was set last. -/
  level : LogLevel := .info
  /-- The names of the loggers obtained, in order. -/
  obtained : List String := []
  deriving Repr

namespace LogService

/-- The service after a logger was obtained from it. -/
def obtain (v : LogService) (name : String) : LogService :=
  let k := Loggers.key name
  if v.obtained.contains k then v else { v with obtained := v.obtained ++ [k] }

/-- The level given to the package's logger and to all that were obtained. -/
def setLevel (v : LogService) (level : LogLevel) (ls : Loggers) : LogService × Loggers :=
  ({ v with level },
    { ls.add packageLogger with
      levels := (packageLogger :: v.obtained).foldl
        (fun levels name => Keyed.put name level.severity levels) ls.levels })

/-- Attaches the handlers that the settings ask for, and sets their level, or without settings the
level that was set last.  Where attaching them fails the level stays. -/
def configure (v : LogService) (settings : Option Settings) (files : Files) (ls : Loggers) :
    LogService × Loggers × Option LogFileFault :=
  let v := v.obtain packageLogger
  match ((ls.add packageLogger).attach .console).attachFile settings files with
  | (ls, some fault) => (v, ls, some fault)
  | (ls, none) =>
    let (v, ls) := v.setLevel ((settings.map Settings.logLevel).getD v.level) ls
    (v, ls.say .debug "Logging service initialized", none)

theorem get?_foldl_put_of_not_mem (severity : Nat) {name : String} (names : List String)
    (levels : Keyed Nat) (h : name ∉ names) :
    Keyed.get? name (names.foldl (fun l n => Keyed.put n severity l) levels) =
      Keyed.get? name levels := by
  induction names generalizing levels with
  | nil => rfl
  | cons n rest ih =>
    simp only [List.mem_cons, not_or] at h
    simp only [List.foldl_cons, ih _ h.2, Keyed.get?_put_of_ne h.1]

theorem get?_foldl_put_of_mem (severity : Nat) {name : String} (names : List String)
    (levels : Keyed Nat) (h : name ∈ names) :
    Keyed.get? name (names.foldl (fun l n => Keyed.put n severity l) levels) = some severity := by
  induction names generalizing levels with
  | nil => simp at h
  | cons n rest ih =>
    simp only [List.foldl_cons]
    by_cases hr : name ∈ rest
    · exact ih _ hr
    · have hn : name = n := by simpa [hr] using h
      rw [get?_foldl_put_of_not_mem severity rest _ hr, hn, Keyed.get?_put_self]

theorem own_setLevel (v : LogService) (level : LogLevel) (ls : Loggers) {name : String}
    (h : Loggers.key name ∈ packageLogger :: v.obtained) :
    (v.setLevel level ls).2.own name = level.severity := by
  simp only [setLevel, Loggers.own, get?_foldl_put_of_mem _ _ _ h, Option.getD_some]

theorem own_setLevel_of_not_mem (v : LogService) (level : LogLevel) (ls : Loggers) {name : String}
    (h : Loggers.key name ∉ packageLogger :: v.obtained) :
    (v.setLevel level ls).2.own name = ls.own name := by
  simp only [setLevel, Loggers.own, get?_foldl_put_of_not_mem _ _ _ h]

end LogService

end QueryTools
