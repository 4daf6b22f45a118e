import QueryTools.Keyed
import QueryTools.Text.Blank

/-!
# Files of variables

A file of variables holds an assignment a line: a name, an equals sign and a value, perhaps after
the word `export`.  A value is bare, up to the end of the line or a comment after a gap, or quoted, and then it
may span lines and hold escapes.  A name alone has no value.  A dollar sign and braces around a
name stand for the value of that variable.  Lines that cannot be read are skipped.
-/

namespace QueryTools.EnvFile

/-- The variables of a file in order; one without an equals sign has no value. -/
abbrev Variables := Keyed (Option String)

/-- Whether a character is white space within a line. -/
def isGap (c : Char) : Bool := Text.isBlank c && c != '\n' && c != '\r'

/-- The characters behind the end of the line. -/
def skipLine (cs : List Char) : List Char := (cs.dropWhile (· != '\n')).drop 1

/-- The text up to the quote that ends it, and what follows.  A quote behind a backslash does not end
it. -/
def closeQuote? (quote : Char) : List Char → Option (List Char × List Char)
  | [] => none
  | '\\' :: c :: rest =>
    (closeQuote? quote rest).map fun (text, after) => ('\\' :: c :: text, after)
  | c :: rest =>
    if c = quote then some ([], rest)
    else (closeQuote? quote rest).map fun (text, after) => (c :: text, after)

/-- The character that an escape stands for, if the kind of quote knows it. -/
def escaped? (quote c : Char) : Option Char :=
  if c = '\\' ∨ c = '\'' then some c
  else if quote = '"' then
    match c with
    | '"' => some '"'
    | 'a' => some '\x07'
    | 'b' => some '\x08'
    | 'f' => some '\x0c'
    | 'n' => some '\n'
    | 'r' => some '\r'
    | 't' => some '\t'
    | 'v' => some '\x0b'
    | _ => none
  else none

/-- The text with its escapes resolved; those that are not known stay. -/
def unescape (quote : Char) : List Char → List Char
  | '\\' :: c :: rest =>
    match escaped? quote c with
    | some e => e :: unescape quote rest
    | none => '\\' :: unescape quote (c :: rest)
  | c :: rest => c :: unescape quote rest
  | [] => []

/-- A bare value without the comment behind it. -/
def withoutComment : List Char → List Char
  | [] => []
  | c :: rest =>
    if Text.isBlank c && (rest.dropWhile Text.isBlank).head? == some '#' then []
    else c :: withoutComment rest

/-- A value, and what follows it. -/
def value? : List Char → Option (List Char × List Char)
  | '\'' :: rest => (closeQuote? '\'' rest).map fun (t, after) => (unescape '\'' t, after)
  | '"' :: rest => (closeQuote? '"' rest).map fun (t, after) => (unescape '"' t, after)
  | cs =>
    let line := cs.takeWhile fun c => c != '\n' && c != '\r'
    let bare := ((withoutComment line).reverse.dropWhile Text.isBlank).reverse
    some (bare, cs.drop line.length)

/-- What follows the word `export`, or everything if the word is not there. -/
def skipExport (cs : List Char) : List Char :=
  let word := "export".toList
  if word.isPrefixOf cs then
    let rest := cs.drop word.length
    if rest.head?.any isGap then rest.dropWhile isGap else cs
  else cs

/-- The name at the start of an assignment, quoted or bare, and what follows it.  A comment has no
name. -/
def key? : List Char → Option (Option (List Char) × List Char)
  | '#' :: rest => some (none, '#' :: rest)
  | '\'' :: rest =>
    let name := rest.takeWhile (· != '\'')
    match rest.dropWhile (· != '\'') with
    | _ :: after => if name.isEmpty then none else some (some name, after)
    | [] => none
  | cs =>
    let stop (c : Char) : Bool := c == '=' || c == '#' || Text.isBlank c
    let name := cs.takeWhile fun c => !stop c
    if name.isEmpty then none else some (some name, cs.drop name.length)

/-- What follows the rest of a line on which only a comment may stand, if no more stands there. -/
def endLine? (cs : List Char) : Option (List Char) :=
  let cs := match cs.dropWhile isGap with
    | '#' :: rest => rest.dropWhile fun c => c != '\n' && c != '\r'
    | _ => cs
  match cs.dropWhile isGap with
  | [] => some []
  | '\n' :: rest => some rest
  | _ => none

/-- One assignment, and what follows it. -/
def assignment (cs : List Char) : Option (List Char × Option (List Char)) × List Char :=
  match key? (skipExport cs) with
  | none => (none, skipLine (skipExport cs))
  | some (name, rest) =>
    let behind := rest.dropWhile isGap
    let read : Option (Option (List Char) × List Char) :=
      match behind with
      | '=' :: more =>
        let start := more.dropWhile isGap
        if more.head?.any isGap && start.head? == some '#' then some (some [], start)
        else (value? start).map fun (v, after) => (some v, after)
      | _ => some (none, behind)
    match read with
    | none => (none, skipLine behind)
    | some (v, after) =>
      match endLine? after with
      | none => (none, skipLine after)
      | some next => (name.map fun n => (n, v), next)

/-- All assignments, read in at most `fuel` steps. -/
def assignments : Nat → List Char → List (List Char × Option (List Char))
  | 0, _ => []
  | fuel + 1, cs =>
    match cs.dropWhile Text.isBlank with
    | [] => []
    | start =>
      let (found, next) := assignment start
      found.toList ++ assignments fuel next

/-- A reference to a variable behind its dollar sign and brace: the name, a value for the case
that there is none, and what follows. -/
def reference? (cs : List Char) : Option (List Char × List Char × List Char) :=
  let name := cs.takeWhile fun c => c != '}' && c != ':'
  match cs.drop name.length with
  | '}' :: rest => some (name, [], rest)
  | ':' :: '-' :: more =>
    let other := more.takeWhile (· != '}')
    match more.drop other.length with
    | _ :: rest => some (name, other, rest)
    | [] => none
  | _ => none

/-- The text with references replaced by the values of the variables they name. -/
def expand (known : Variables) : Nat → List Char → List Char
  | 0, cs => cs
  | fuel + 1, '$' :: '{' :: rest =>
    match reference? rest with
    | some (name, other, after) =>
      let v := match Keyed.get? (String.ofList name) known with
        | some found => ((found.map String.toList).getD [])
        | none => other
      v ++ expand known fuel after
    | none => '$' :: expand known fuel ('{' :: rest)
  | fuel + 1, c :: rest => c :: expand known fuel rest
  | _ + 1, [] => []

/-- The variables that assignments give, the references among them resolved: a name stands for what
was assigned to it before, or else for what the environment holds. -/
def resolve (environment : Keyed String) :
    List (List Char × Option (List Char)) → Variables → Variables
  | [], done => done
  | (name, v) :: rest, done =>
    let known := Keyed.merge (Keyed.mapValues some environment) done
    let v := v.map fun cs => String.ofList (expand known (cs.length + 1) cs)
    resolve environment rest (Keyed.put (String.ofList name) v done)

/-- The variables of a file's text. -/
def read (environment : Keyed String) (text : String) : Variables :=
  let cs := text.toList
  resolve environment (assignments (cs.length + 1) cs) []

end QueryTools.EnvFile
