import QueryTools.Language.Lexer
import QueryTools.Language.Document

/-!
# Reading documents

`Document.parse` reads a text as a document of the query language.  The grammar is followed by
recursive descent over the tokens.  Selection sets, lists and objects may be nested in each other
up to a limit, and so may the lists of a type; what is deeper is refused.  Each round of a repetition
spends one unit of a budget, which starts at the number of tokens left; as every round consumes a
token it is never spent.
-/

namespace QueryTools

/-- A fault with the position at which it was noticed. -/
structure SyntaxError where
  position : Nat
  cause : SyntaxFault
  deriving DecidableEq, Repr

/-- The wording of a fault of a text: the fault, its place and the lines around it. -/
def SyntaxError.message (e : SyntaxError) (text : String) : String :=
  let cs := text.toList
  let (line, column) := Text.place cs e.position
  s!"Syntax Error: {e.cause.message}\n\nGraphQL request:{line}:{column}\n"
    ++ String.ofList (Text.excerpt cs line column)

/-- A step of reading: it consumes tokens and gives a result, or fails. -/
abbrev Parser (α : Type) := StateT Tokens (Except SyntaxError) α

namespace Parser

/-- Gives up at a position. -/
def fail (position : Nat) (cause : SyntaxFault) : Parser α := fun _ => .error ⟨position, cause⟩

/-- The next token, if the text has not ended, and its position. -/
def peek : Parser (Nat × Option Token)
  | .last position => .ok ((position, none), .last position)
  | .fault position cause => .error ⟨position, cause⟩
  | .cons position t rest => .ok ((position, some t), .cons position t rest)

/-- The token after the next one. -/
def lookahead : Parser (Nat × Option Token)
  | .last position => .ok ((position, none), .last position)
  | .fault position cause => .error ⟨position, cause⟩
  | .cons position t rest => do
    let (seen, _) ← peek rest
    return (seen, .cons position t rest)

/-- Passes over the next token. -/
def advance : Parser Unit
  | .last position => .ok ((), .last position)
  | .fault position cause => .error ⟨position, cause⟩
  | .cons _ _ rest => .ok ((), rest)

/-- Gives up because of the next token. -/
def unexpected : Parser α := do
  let (position, found) ← peek
  fail position (.unexpected found)

/-- Whether the next token is the given one. -/
def next (t : Token) : Parser Bool := do return (← peek).2 = some t

/-- Consumes the given token if it comes next, and says whether it did. -/
def accept (t : Token) : Parser Bool := do
  if ← next t then
    advance
    return true
  else return false

/-- Consumes the given token. -/
def expect (t : Token) : Parser Unit := do
  let (position, found) ← peek
  if found = some t then advance else fail position (.expected t.describe found)

/-- Consumes the given word. -/
def expectWord (word : String) : Parser Unit := do
  let (position, found) ← peek
  if found = some (.name word) then advance
  else fail position (.expected s!"'{word}'" found)

/-- Consumes a name. -/
def name : Parser String := do
  let (position, found) ← peek
  match found with
  | some (.name text) =>
    advance
    return text
  | _ => fail position (.expected "Name" found)

/-- How many rounds the rest of the text can have, at most. -/
def budget : Parser Nat := fun ts => .ok (ts.length + 1, ts)

/-- Items up to a closing token, in at most the given number of rounds. -/
def untilClosed (item : Parser α) (close : Token) : Nat → Parser (List α)
  | 0 => unexpected
  | n + 1 => do
    if ← accept close then return []
    else
      let x ← item
      let xs ← untilClosed item close n
      return x :: xs

/-- Any number of items between two tokens. -/
def any (opening : Token) (item : Parser α) (close : Token) : Parser (List α) := do
  expect opening
  untilClosed item close (← budget)

/-- At least one item between two tokens. -/
def many (opening : Token) (item : Parser α) (close : Token) : Parser (List α) := do
  expect opening
  let x ← item
  let xs ← untilClosed item close (← budget)
  return x :: xs

/-- At least one item between two tokens, or nothing at all. -/
def optionalMany (opening : Token) (item : Parser α) (close : Token) : Parser (List α) := do
  if ← next opening then many opening item close else return []

/-- More items, each after a separator. -/
def moreSeparated (item : Parser α) (separator : Token) : Nat → Parser (List α)
  | 0 => return []
  | n + 1 => do
    if ← accept separator then
      let x ← item
      let xs ← moreSeparated item separator n
      return x :: xs
    else return []

/-- At least one item, with separators between and possibly one before. -/
def separated (item : Parser α) (separator : Token) : Parser (List α) := do
  let _ ← accept separator
  let x ← item
  let xs ← moreSeparated item separator (← budget)
  return x :: xs

/-- How many selection sets, lists and objects may enclose each other, or lists of a type. -/
def nestingLimit : Nat := 200

/-- Gives up because the levels of nesting are spent. -/
def tooDeep : Parser α := do
  let (position, _) ← peek
  fail position .tooDeep

/-- A reference to a type, with at most the given levels of lists. -/
def typeRefIn (levels : Nat) : Parser TypeRef := do
  let inner ←
    if ← accept .bracketOpen then
      match levels with
      | 0 => tooDeep
      | n + 1 => do
        let item ← typeRefIn n
        expect .bracketClose
        pure (TypeRef.list item)
    else do
      let text ← name
      pure (TypeRef.named text)
  if ← accept .bang then return .nonNull inner else return inner

/-- A reference to a type. -/
def typeRef : Parser TypeRef := typeRefIn nestingLimit

/-- A variable: a dollar sign and a name. -/
def variableName : Parser String := do
  expect .dollar
  name

/-- The literal that a word is. -/
def literalOfWord : String → Literal
  | "true" => .boolean true
  | "false" => .boolean false
  | "null" => .null
  | text => .enum text

/-- A value with at most the given levels of lists and objects.  In a constant no variable may
occur. -/
def literalIn (constant : Bool) (levels : Nat) : Parser Literal := do
  let (position, found) ← peek
  match found with
  | some .bracketOpen =>
    match levels with
    | 0 => tooDeep
    | n + 1 => return .list (← any .bracketOpen (literalIn constant n) .bracketClose)
  | some .braceOpen =>
    match levels with
    | 0 => tooDeep
    | n + 1 =>
      let member : Parser (String × Literal) := do
        let key ← name
        expect .colon
        return (key, ← literalIn constant n)
      return .object (← any .braceOpen member .braceClose)
  | some (.int text) =>
    advance
    return .int text
  | some (.float text) =>
    advance
    return .float text
  | some (.string text) =>
    advance
    return .string text false
  | some (.blockString text) =>
    advance
    return .string text true
  | some (.name text) =>
    advance
    return literalOfWord text
  | some .dollar =>
    if constant then
      advance
      match (← peek).2 with
      | some (.name text) => fail position (.variableInConstant text)
      | _ => fail position (.unexpected found)
    else return .variable (← variableName)
  | _ => unexpected

/-- A constant that nothing encloses. -/
def constantLiteral : Parser Literal := literalIn true nestingLimit

/-- An argument. -/
def argument (constant : Bool) (levels : Nat) : Parser Argument := do
  let key ← name
  expect .colon
  let (position, _) ← peek
  return { name := key, value := ← literalIn constant levels, position }

/-- The arguments of a field or a directive, if there are any. -/
def arguments (constant : Bool) (levels : Nat) : Parser (List Argument) :=
  optionalMany .parenOpen (argument constant levels) .parenClose

/-- Directives, in at most the given number of rounds. -/
def directivesIn (constant : Bool) (levels : Nat) : Nat → Parser (List Directive)
  | 0 => return []
  | n + 1 => do
    let (position, _) ← peek
    if ← accept .at then
      let key ← name
      let arguments ← arguments constant levels
      let rest ← directivesIn constant levels n
      return { name := key, arguments, position } :: rest
    else return []

/-- The directives on a part of a document that has the given levels left. -/
def directives (constant : Bool) (levels : Nat) : Parser (List Directive) := do
  directivesIn constant levels (← budget)

/-- Directives whose arguments are constants. -/
def constantDirectives : Parser (List Directive) := directives true nestingLimit

/-- The name of a fragment: any name but `on`. -/
def fragmentName : Parser String := do
  let (position, found) ← peek
  if (found.bind Token.text?) = some "on" then fail position (.unexpected found) else name

/-- An entry of a selection set with the given levels left, and how to read a set within it. -/
def selection (levels : Nat) (inner : Parser (List Selection)) : Parser Selection := do
  if ← accept .spread then
    let conditioned ← accept (.name "on")
    let (_, found) ← peek
    match conditioned, found with
    | false, some (.name _) =>
      let fragment ← fragmentName
      return .spread fragment (← directives false levels)
    | _, _ =>
      let condition ← if conditioned then some <$> name else pure none
      let directives ← directives false levels
      return .inline condition directives (← inner)
  else
    let first ← name
    let (label, key) ←
      if ← accept .colon then do
        let key ← name
        pure (some first, key)
      else pure (none, first)
    let arguments ← arguments false levels
    let directives ← directives false levels
    let selections ← if ← next .braceOpen then some <$> inner else pure none
    return .field label key arguments directives selections

/-- A selection set between braces, with the given levels of nesting. -/
def selectionSetIn : Nat → Parser (List Selection)
  | 0 => tooDeep
  | n + 1 => any .braceOpen (selection n (selectionSetIn n)) .braceClose

/-- A selection set between braces. -/
def selectionSet : Parser (List Selection) := selectionSetIn nestingLimit

/-- A description, if one stands here. -/
def description : Parser (Option String) := do
  match (← peek).2 with
  | some (.string text) | some (.blockString text) =>
    advance
    return some text
  | _ => return none

/-- A word of a fixed set, as what it stands for.  A fault right behind it is noticed before a word
outside the set is. -/
def wordOf (meaning? : String → Option α) : Parser α := do
  let (position, found) ← peek
  let text ← name
  let _ ← peek
  match meaning? text with
  | some a => return a
  | none => fail position (.unexpected found)

/-- The word for a kind of operation. -/
def operationKind : Parser OperationKind := wordOf OperationKind.ofWord?

/-- The default after an equals sign, if there is one. -/
def defaultLiteral : Parser (Option Literal) := do
  if ← accept .equals then some <$> constantLiteral else return none

/-- The declaration of a variable. -/
def variableDefinition : Parser VariableDefinition := do
  let _ ← description
  let key ← variableName
  expect .colon
  let type ← typeRef
  let default ← defaultLiteral
  return { name := key, type, default, directives := ← constantDirectives }

/-- An operation: either a selection set alone, which queries, or with its word before. -/
def operationDefinition : Parser OperationDefinition := do
  if ← next .braceOpen then
    return { kind := .query, name := none, variableDefinitions := [], directives := [],
             selections := ← selectionSet }
  else
    let _ ← description
    let kind ← operationKind
    let key ← match (← peek).2 with
      | some (.name text) => do
        advance
        pure (some text)
      | _ => pure none
    let variableDefinitions ← optionalMany .parenOpen variableDefinition .parenClose
    let directives ← directives false nestingLimit
    return { kind, name := key, variableDefinitions, directives, selections := ← selectionSet }

/-- A fragment. -/
def fragmentDefinition : Parser FragmentDefinition := do
  let _ ← description
  expectWord "fragment"
  let key ← fragmentName
  expectWord "on"
  let condition ← name
  let directives ← directives false nestingLimit
  return { name := key, condition, directives, selections := ← selectionSet }

/-- An argument of a field or a directive, or a field of an input object. -/
def inputDefinition : Parser InputDefinition := do
  let description ← description
  let key ← name
  expect .colon
  let type ← typeRef
  let default ← defaultLiteral
  return { description, name := key, type, default, directives := ← constantDirectives }

/-- The arguments that a field or a directive takes. -/
def argumentDefinitions : Parser (List InputDefinition) :=
  optionalMany .parenOpen inputDefinition .parenClose

/-- A field of an object or an interface. -/
def fieldDefinition : Parser FieldDefinition := do
  let description ← description
  let key ← name
  let arguments ← argumentDefinitions
  expect .colon
  let type ← typeRef
  return { description, name := key, arguments, type, directives := ← constantDirectives }

/-- The name of an enum value: any name but those of other literals. -/
def enumValueName : Parser String := do
  let (position, found) ← peek
  match found with
  | some t =>
    if ["true", "false", "null"].any fun word => t.text? = some word then
      fail position (.reservedEnumValue t)
    else name
  | none => name

/-- A value of an enum. -/
def enumValueDefinition : Parser EnumValueDefinition := do
  let description ← description
  let key ← enumValueName
  return { description, name := key, directives := ← constantDirectives }

/-- The interfaces after the word `implements`, if it stands here. -/
def implemented : Parser (List String) := do
  if ← accept (.name "implements") then separated name .ampersand else return []

/-- A root of a schema. -/
def rootDefinition : Parser RootDefinition := do
  let kind ← operationKind
  expect .colon
  return { kind, type := ← name }

/-- The kind of type that a word introduces. -/
def typeKind? : String → Option TypeKind
  | "scalar" => some .scalar
  | "type" => some .object
  | "interface" => some .interface
  | "union" => some .union
  | "enum" => some .enum
  | "input" => some .input
  | _ => none

/-- A named type, from the word for its kind on. -/
def typeDefinition (description : Option String) (kind : TypeKind) : Parser TypeDefinition := do
  advance
  let key ← name
  match kind with
  | .scalar =>
    return { description, name := key, directives := ← constantDirectives, body := .scalar }
  | .object =>
    let interfaces ← implemented
    let directives ← constantDirectives
    let fields ← optionalMany .braceOpen fieldDefinition .braceClose
    return { description, name := key, directives, body := .object interfaces fields }
  | .interface =>
    let interfaces ← implemented
    let directives ← constantDirectives
    let fields ← optionalMany .braceOpen fieldDefinition .braceClose
    return { description, name := key, directives, body := .interface interfaces fields }
  | .union =>
    let directives ← constantDirectives
    let members ← if ← accept .equals then separated name .pipe else pure []
    return { description, name := key, directives, body := .union members }
  | .enum =>
    let directives ← constantDirectives
    let values ← optionalMany .braceOpen enumValueDefinition .braceClose
    return { description, name := key, directives, body := .enum values }
  | .input =>
    let directives ← constantDirectives
    let fields ← optionalMany .braceOpen inputDefinition .braceClose
    return { description, name := key, directives, body := .input fields }

/-- Whether an extension of a type adds anything. -/
def addsSomething (d : TypeDefinition) : Bool :=
  !d.directives.isEmpty || match d.body with
    | .scalar => false
    | .object interfaces fields | .interface interfaces fields =>
      !interfaces.isEmpty || !fields.isEmpty
    | .union members => !members.isEmpty
    | .enum values => !values.isEmpty
    | .input fields => !fields.isEmpty

/-- A place where a directive may stand. -/
def directiveLocation : Parser String :=
  wordOf fun text => if directiveLocations.contains text then some text else none

/-- The definition of a directive, from its word on. -/
def directiveDefinition (description : Option String) : Parser DirectiveDefinition := do
  advance
  expect .at
  let key ← name
  let arguments ← argumentDefinitions
  let directives ← constantDirectives
  let repeatable ← accept (.name "repeatable")
  expectWord "on"
  return { description, name := key, arguments, directives, repeatable
           locations := ← separated directiveLocation .pipe }

/-- The roots and directives of a schema, from its word on. -/
def schemaDefinition (description : Option String) : Parser Definition := do
  advance
  let directives ← constantDirectives
  return .schema description directives (← many .braceOpen rootDefinition .braceClose)

/-- An extension, from the word `extend` on. -/
def extension : Parser Definition := do
  let (position, found) ← lookahead
  match found with
  | some (.name "schema") =>
    advance
    advance
    let directives ← constantDirectives
    let roots ← optionalMany .braceOpen rootDefinition .braceClose
    if directives.isEmpty && roots.isEmpty then unexpected
    else return .schemaExtension directives roots
  | some (.name "directive") =>
    advance
    advance
    expect .at
    let key ← name
    let directives ← constantDirectives
    if directives.isEmpty then unexpected else return .directiveExtension key directives
  | some (.name text) =>
    match typeKind? text with
    | some kind =>
      advance
      let d ← typeDefinition none kind
      if addsSomething d then return .typeExtension d else unexpected
    | none => fail position (.unexpected found)
  | _ => fail position (.unexpected found)

/-- A definition that its word introduces; the word comes after `described` if there is one. -/
def wordedDefinition (position : Nat) (described : Bool) (wordPosition : Nat) (word : String) :
    Parser Definition :=
  match typeKind? word with
  | some kind => do return .type (← typeDefinition (← description) kind)
  | none =>
    match word with
    | "schema" => do schemaDefinition (← description)
    | "directive" => do return .directive (← directiveDefinition (← description))
    | "query" | "mutation" | "subscription" => do return .operation (← operationDefinition)
    | "fragment" => do return .fragment (← fragmentDefinition)
    | word =>
      if described then fail position .misplacedDescription
      else if word = "extend" then extension
      else fail wordPosition (.unexpected (some (.name word)))

/-- A definition. -/
def definition : Parser Definition := do
  let (position, found) ← peek
  match found with
  | some .braceOpen => return .operation (← operationDefinition)
  | some (.string _) | some (.blockString _) =>
    let (wordPosition, word) ← lookahead
    match word with
    | some .braceOpen => fail position .describedShorthand
    | some (.name text) => wordedDefinition position true wordPosition text
    | word => fail wordPosition (.unexpected word)
  | some (.name text) => wordedDefinition position false position text
  | found => fail position (.unexpected found)

/-- Definitions up to the end of the text, in at most the given number of rounds. -/
def definitionsIn : Nat → Parser (List Definition)
  | 0 => unexpected
  | n + 1 => do
    match (← peek).2 with
    | none => return []
    | some _ =>
      let d ← definition
      let ds ← definitionsIn n
      return d :: ds

/-- All definitions of a text; there has to be one. -/
def document : Parser Document := do
  let d ← definition
  let ds ← definitionsIn (← budget)
  return d :: ds

/-- A value alone, up to the end of the text. -/
def loneLiteral : Parser Literal := do
  let v ← constantLiteral
  let (position, found) ← peek
  match found with
  | none => return v
  | some _ => fail position (.expected "<EOF>" found)

/-- A reference to a type alone, up to the end of the text. -/
def loneTypeRef : Parser TypeRef := do
  let t ← typeRef
  let (position, found) ← peek
  match found with
  | none => return t
  | some _ => fail position (.expected "<EOF>" found)

/-- Reads a whole text. -/
def run (p : Parser α) (text : String) : Except SyntaxError α :=
  match p (Tokens.ofChars text.toList) with
  | .ok (a, _) => .ok a
  | .error e => .error e

end Parser

/-- The document that a text spells. -/
def Document.parse (text : String) : Except SyntaxError Document := Parser.document.run text

/-- The constant that a text spells. -/
def Literal.parse (text : String) : Except SyntaxError Literal := Parser.loneLiteral.run text

/-- The reference to a type that a text spells. -/
def TypeRef.parse (text : String) : Except SyntaxError TypeRef := Parser.loneTypeRef.run text

end QueryTools
