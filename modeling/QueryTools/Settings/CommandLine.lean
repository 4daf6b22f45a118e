import QueryTools.Settings.Basic
import QueryTools.Number.Numeral
import QueryTools.Json.Basic

/-!
# Command line

The options of the command line and how arguments are read: an option can be shortened as long as
it stays unambiguous, its argument follows it or stands behind an equals sign, and a negative number
is an argument and no option.  Every option gives the value of one setting; of several occurrences
the last counts.  `CommandLine.read` gives the values, or says why the arguments cannot be read.
-/

namespace QueryTools

/-- How many arguments an option takes, and what they mean. -/
inductive OptionForm where
  /-- None; the option gives a value by itself. -/
  | switch (value : Bool)
  /-- Any number of texts. -/
  | texts
  | text
  | whole
  | fraction
  /-- One of some words. -/
  | word (choices : List String)
  /-- None; the option asks for help. -/
  | help
  deriving DecidableEq, Repr

/-- An option of the command line. -/
structure CommandOption where
  /-- Its spellings. -/
  names : List String
  form : OptionForm
  /-- What it sets. -/
  setting : Setting
  deriving DecidableEq, Repr

/-- Why the arguments of the command line cannot be read. -/
inductive UsageFault where
  | ambiguous (argument : String) (matching : List String)
  | noArgument (option : CommandOption)
  /-- An argument is given with an equals sign to an option that takes none. -/
  | needlessArgument (option : CommandOption) (argument : String)
  | notWhole (option : CommandOption) (argument : String)
  | notFraction (option : CommandOption) (argument : String)
  | notChoice (option : CommandOption) (argument : String) (choices : List String)
  | unrecognized (arguments : List String)
  /-- Help is asked for, so nothing else is done. -/
  | helpAsked
  deriving Repr

namespace CommandLine

/-- The name of the program. -/
def program : String := "mcp-graphql"

/-- The options, in the order in which they are listed. -/
def options : List CommandOption :=
  [⟨["-h", "--help"], .help, .name⟩,
    ⟨["--name"], .text, .name⟩,
    ⟨["--endpoint"], .text, .endpoint⟩,
    ⟨["--schema-path", "--schemaPath"], .text, .schemaPath⟩,
    ⟨["--headers"], .text, .headers⟩,
    ⟨["--auth-type"], .word (AuthStyle.all.map AuthStyle.word), .authStyle⟩,
    ⟨["--auth-value"], .text, .authValue⟩,
    ⟨["--allow-mutations", "--allowMutations"], .switch true, .allowMutations⟩,
    ⟨["--no-allow-mutations"], .switch false, .allowMutations⟩,
    ⟨["--exclude-queries", "--excludeQueries"], .texts, .excludedQueries⟩,
    ⟨["--exclude-mutations", "--excludeMutations"], .texts, .excludedMutations⟩,
    ⟨["--calling-convention"], .word (Convention.all.map Convention.word), .convention⟩,
    ⟨["--selection-depth"], .whole, .selectionDepth⟩,
    ⟨["--timeout"], .fraction, .timeout⟩,
    ⟨["--log-level"], .word (LogLevel.all.map LogLevel.word), .logLevel⟩]

end CommandLine

namespace UsageFault

/-- The name of an option in a message. -/
def optionText (o : CommandOption) : String := "/".intercalate o.names

/-- The wording of a fault. -/
def message : UsageFault → String
  | .ambiguous argument matching =>
    s!"ambiguous option: {argument} could match " ++ ", ".intercalate matching
  | .noArgument o => s!"argument {optionText o}: expected one argument"
  | .needlessArgument o argument =>
    s!"argument {optionText o}: ignored explicit argument {Text.quoted argument}"
  | .notWhole o argument => s!"argument {optionText o}: invalid int value: {Text.quoted argument}"
  | .notFraction o argument =>
    s!"argument {optionText o}: invalid float value: {Text.quoted argument}"
  | .notChoice o argument choices =>
    s!"argument {optionText o}: invalid choice: {Text.quoted argument} (choose from "
      ++ ", ".intercalate (choices.map Text.quoted) ++ ")"
  | .unrecognized arguments => "unrecognized arguments: " ++ " ".intercalate arguments
  | .helpAsked => ""

/-- The status with which the program ends. -/
def exitStatus : UsageFault → Nat
  | .helpAsked => 0
  | _ => 2

/-- What the program says when it ends. -/
def report (f : UsageFault) : String :=
  match f with
  | .helpAsked => ""
  | f => CommandLine.program ++ ": error: " ++ f.message

end UsageFault

namespace CommandLine

/-- What an argument of the command line is. -/
inductive Part where
  /-- A value, of an option or of none. -/
  | value
  /-- Two hyphens alone; what follows is no option. -/
  | separator
  /-- An option as it was spelled, with the argument behind its equals sign. -/
  | option (o : CommandOption) (spelling : String) (argument : Option String)
  /-- Something that looks like an option and is none. -/
  | unknown
  deriving Repr

/-- The option with a spelling. -/
def option? (spelling : String) : Option CommandOption :=
  options.find? fun o => o.names.contains spelling

/-- All spellings, in order. -/
def spellings : List String := options.flatMap CommandOption.names

/-- Whether a text starts another one. -/
def starts (start s : String) : Bool := start.toList.isPrefixOf s.toList

/-- Whether a text is a negative number, perhaps with the end of a line behind it. -/
def isNegativeNumber (s : String) : Bool :=
  let cs := s.toList.map Numeral.plainDigit
  match if cs.getLast? = some '\n' then cs.dropLast else cs with
  | '-' :: digits =>
    let rest := digits.dropWhile Char.isDigit
    match rest with
    | [] => !digits.isEmpty
    | '.' :: more => Numeral.isDigits more
    | _ => false
  | _ => false

/-- The options that an argument could be short for, each with its spelling and what is given to
it: the spellings that the argument starts, and for a single hyphen also the one-letter option with
an argument right behind it. -/
def candidates (argument : String) : List (String × Option String) :=
  if starts "--" argument then
    let (start, given) := match Text.splitAt? '=' argument with
      | some (start, given) => (start, some given)
      | none => (argument, none)
    (spellings.filter (starts start)).map fun s => (s, given)
  else
    let short := String.ofList (argument.toList.take 2)
    let behind := String.ofList (argument.toList.drop 2)
    spellings.filterMap fun s =>
      if s = short then some (s, some behind)
      else if starts argument s then some (s, none) else none

/-- What an argument is that may be an option. -/
def part (argument : String) : Except UsageFault Part :=
  let whole : Option Part :=
    match option? argument with
    | some o => some (.option o argument none)
    | none =>
      (Text.splitAt? '=' argument).bind fun (spelling, given) =>
        (option? spelling).map fun o => .option o spelling (some given)
  if !starts "-" argument then .ok .value
  else
    match whole with
    | some p => .ok p
    | none =>
      if argument = "-" then .ok .value
      else
        match candidates argument with
        | [] =>
          if isNegativeNumber argument || argument.toList.contains ' ' then .ok .value
          else .ok .unknown
        | [(s, given)] =>
          match option? s with
          | some o => .ok (.option o s given)
          | none => .ok .unknown
        | many => .error (.ambiguous argument (many.map Prod.fst))

/-- What each argument is.  Behind a separator there are only values. -/
def parts : List String → Except UsageFault (List (String × Part))
  | [] => .ok []
  | a :: rest =>
    if a = "--" then .ok ((a, .separator) :: rest.map fun v => (v, Part.value))
    else do
      let p ← part a
      return (a, p) :: (← parts rest)

/-- The value that an option gives with one argument. -/
def readOne (o : CommandOption) (argument : String) : Except UsageFault Json :=
  match o.form with
  | .whole =>
    match Numeral.optionWhole? argument with
    | some n => .ok (.int n)
    | none => .error (.notWhole o argument)
  | .fraction =>
    match Numeral.optionFraction? argument with
    | some x => .ok (.float x)
    | none => .error (.notFraction o argument)
  | .word choices =>
    if choices.contains argument then .ok (.str argument)
    else .error (.notChoice o argument choices)
  | _ => .ok (.str argument)

/-- The values and the arguments that could not be used, so far. -/
structure Progress where
  values : List (Setting × Json) := []
  extras : List String := []

/-- The progress with a value for a setting. -/
def Progress.give (p : Progress) (setting : Setting) (v : Json) : Progress :=
  { p with values := (p.values.filter fun q => q.1 != setting) ++ [(setting, v)] }

/-- The arguments at the front that are values. -/
def leadingValues (ps : List (String × Part)) : List String :=
  (ps.takeWhile fun p => match p.2 with
    | .value => true
    | _ => false).map Prod.fst

/-- Uses an option that has its argument behind an equals sign.  Two hyphens there stand for no
argument, and give the empty list. -/
def useGiven (p : Progress) (o : CommandOption) (spelling given : String) :
    Except UsageFault Progress :=
  match o.form with
  | .switch _ => .error (.needlessArgument o given)
  | .help =>
    let behind := given.toList.dropWhile (· == 'h')
    if starts "--" spelling || given = "" then .error (.needlessArgument o given)
    else if behind.isEmpty then .error .helpAsked
    else .error (.needlessArgument o (String.ofList behind))
  | .texts => .ok (p.give o.setting (Json.ofStrings (if given = "--" then [] else [given])))
  | _ =>
    if given = "--" then .ok (p.give o.setting (.arr []))
    else do return p.give o.setting (← readOne o given)

/-- Uses an option with the arguments that follow it; the number of those used comes with it. -/
def useFollowing (p : Progress) (o : CommandOption) (rest : List (String × Part)) :
    Except UsageFault (Progress × Nat) :=
  match o.form with
  | .switch b => .ok (p.give o.setting (.bool b), 0)
  | .help => .error .helpAsked
  | .texts =>
    let taken := leadingValues rest
    .ok (p.give o.setting (Json.ofStrings taken), taken.length)
  | _ =>
    match leadingValues rest with
    | [] => .error (.noArgument o)
    | a :: _ => do return (p.give o.setting (← readOne o a), 1)

/-- Uses all arguments from first to last; the first `skip` of them are used already. -/
def useAll (p : Progress) : (skip : Nat) → List (String × Part) → Except UsageFault Progress
  | _, [] => .ok p
  | skip + 1, _ :: rest => useAll p skip rest
  | 0, (a, what) :: rest =>
    match what with
    | .value | .separator | .unknown => useAll { p with extras := p.extras ++ [a] } 0 rest
    | .option o spelling (some given) => do useAll (← useGiven p o spelling given) 0 rest
    | .option o _ none => do
      let (p, used) ← useFollowing p o rest
      useAll p used rest

/-- The values that the arguments of the command line give. -/
def read (arguments : List String) : Except UsageFault (List (Setting × Json)) := do
  let p ← useAll {} 0 (← parts arguments)
  if p.extras.isEmpty then return p.values
  else throw (.unrecognized p.extras)

end CommandLine

end QueryTools
