import QueryTools.Text.Lines

/-!
# Block text

Text over several lines between triple quotes.  Reading takes away the indentation that all lines
but the first share, and blank lines at both ends; `Text.writeBlock` writes a text so that reading
gives it back.
-/

namespace QueryTools.Text

/-- How many blanks a line begins with. -/
def indentOf (line : List Char) : Nat := (line.takeWhile fun c => c == ' ' || c == '\t').length

/-- Whether a line holds blanks only. -/
def isBlankLine (line : List Char) : Bool := indentOf line == line.length

/-- The least indentation of the lines that are not blank; nothing if all are. -/
def commonIndent (ls : List (List Char)) : Option Nat :=
  ls.foldl (fun least line =>
    if isBlankLine line then least
    else some (match least with
      | none => indentOf line
      | some n => min n (indentOf line))) none

/-- Lines without the indentation that all but the first share, and without blank lines at the
ends. -/
def dedent : List (List Char) → List (List Char)
  | [] => []
  | first :: rest =>
    let cut := (commonIndent rest).getD 0
    let all := first :: rest.map (List.drop cut)
    ((all.dropWhile isBlankLine).reverse.dropWhile isBlankLine).reverse

/-- A text with every triple quote behind a backslash. -/
def escapeTripleQuotes : List Char → List Char
  | '"' :: '"' :: '"' :: rest => '\\' :: '"' :: '"' :: '"' :: escapeTripleQuotes rest
  | c :: rest => c :: escapeTripleQuotes rest
  | [] => []

/-- A text between triple quotes.  It keeps to one line where it can: a text that is too long, has
lines of its own, or would run into the closing quotes goes on lines between them. -/
def writeBlock (text : List Char) : List Char :=
  let escaped := escapeTripleQuotes text
  let ls := lines escaped
  let oneLine := ls.length == 1
  let startsBlank := match escaped with
    | c :: _ => c == ' ' || c == '\t'
    | [] => false
  let forceLeading := 1 < ls.length && (ls.drop 1).all fun line =>
    line.isEmpty || (match line with
      | c :: _ => c == ' ' || c == '\t'
      | [] => false)
  let endsTripleQuote := ['"', '"', '"', '\\'].isPrefixOf escaped.reverse
  let endsQuote := escaped.getLast? == some '"' && !endsTripleQuote
  let endsSlash := escaped.getLast? == some '\\'
  let forceTrailing := endsQuote || endsSlash
  let asLines := !oneLine || text.length > 70 || forceTrailing || forceLeading || endsTripleQuote
  let skipLeading := oneLine && startsBlank
  let leading := (asLines && !skipLeading) || forceLeading
  let trailing := asLines || forceTrailing
  ['"', '"', '"'] ++ (if leading then ['\n'] else []) ++ escaped
    ++ (if trailing then ['\n'] else []) ++ ['"', '"', '"']

/-- Whether a character is a control that block text cannot hold. -/
def isBlockControl (c : Char) : Bool := c.toNat ≤ 0xf && c != '\n' && c != '\t'

/-- Whether reading block text gives a text back as it is: it neither begins nor ends with a blank
line, its lines share no indentation, and it holds no controls. -/
def fitsBlock (text : List Char) : Bool :=
  let ls := splitChars '\n' text
  text.isEmpty ||
    (!text.any isBlockControl
      && !isBlankLine (ls.headD [])
      && !isBlankLine (ls.getLastD [])
      && !(1 < ls.length && ls.all fun line => isBlankLine line || 0 < indentOf line))

end QueryTools.Text
