import QueryTools.Text.Charset

/-!
# Content types

The character set that a content type names for a body.  A content type is a list of parts between
semicolons, and a part is a name with a value.  A long value may be given in numbered pieces and in
bytes behind percent signs; it then says its own character set too.
-/

namespace QueryTools

/-- Why the character set of a body cannot be told. -/
inductive ContentTypeFault where
  /-- Pieces of a value of which some have numbers and others do not: whether the first two such
  are a piece with a number and then one without. -/
  | mixedPieces (startsNumbered : Bool)
  /-- A name that holds the character that ends names. -/
  | embeddedNull
  deriving DecidableEq, Repr

/-- The wording of a fault. -/
def ContentTypeFault.message : ContentTypeFault → String
  | .mixedPieces true => "'<' not supported between instances of 'NoneType' and 'int'"
  | .mixedPieces false => "'<' not supported between instances of 'int' and 'NoneType'"
  | .embeddedNull => "embedded null character"

namespace ContentType

/-- A part of a content type. -/
structure Part where
  name : String
  value : String
  deriving DecidableEq, Repr

/-- The texts between the semicolons outside of quotes, given the piece already read, its last
character first, and whether a quote is open. -/
def piecesFrom (piece : List Char) (isOpen : Bool) : List Char → List (List Char)
  | [] => [piece.reverse]
  | c :: rest =>
    if c == ';' && !isOpen then piece.reverse :: piecesFrom [] false rest
    else
      let toggles := c == '"' && piece.head? != some '\\'
      piecesFrom (c :: piece) (if toggles then !isOpen else isOpen) rest

/-- The part that a text spells. -/
def Part.ofText (text : List Char) : Part :=
  match Text.splitAt? '=' (String.ofList text) with
  | some (name, value) => ⟨Text.lower (Text.trim name), Text.trim value⟩
  | none => ⟨Text.trim (String.ofList text), ""⟩

/-- The parts of a content type. -/
def parts (contentType : String) : List Part :=
  (piecesFrom [] false contentType.toList).map Part.ofText

/-- A text in which a character behind a backslash is written without it. -/
def dropBackslash (c : Char) : List Char → List Char
  | '\\' :: d :: rest =>
    if d == c then c :: dropBackslash c rest else '\\' :: dropBackslash c (d :: rest)
  | d :: rest => d :: dropBackslash c rest
  | [] => []

/-- A text without the quotes or the angles around it. -/
def unquote (s : String) : String :=
  match s.toList, s.toList.getLast? with
  | '"' :: c :: rest, some '"' =>
    String.ofList (dropBackslash '"' (dropBackslash '\\' (c :: rest).dropLast))
  | '<' :: c :: rest, some '>' => String.ofList (c :: rest).dropLast
  | _, _ => s

/-- A piece of a value. -/
structure Piece where
  number : Option Nat
  text : String
  /-- Whether percent signs stand for bytes. -/
  isEncoded : Bool
  deriving DecidableEq, Repr

/-- Whether a name can have pieces. -/
def isWord (cs : List Char) : Bool :=
  !cs.isEmpty && cs.all fun c => c.isAlphanum || c == '_'

/-- The name and the number that the name of a piece is made of. -/
def pieceName? (name : String) : Option (String × Option Nat) :=
  match Text.splitAt? '*' name with
  | none => none
  | some (word, rest) =>
    let digits := rest.toList.takeWhile Char.isDigit
    let after := rest.toList.drop digits.length
    if !isWord word.toList then none
    else if rest = "" then some (word, none)
    else if !digits.isEmpty && (after.isEmpty || after = ['*']) then
      some (word, some (digits.foldl (fun n c => n * 10 + (c.toNat - 48)) 0))
    else none

/-- The value of a hexadecimal digit of either case. -/
def hexValue? (c : Char) : Option Nat := Text.hexOfByte? c.toNat

/-- A text in which percent signs with two digits stand for the first characters. -/
def percentChars : List Char → List Char
  | [] => []
  | '%' :: a :: b :: rest =>
    match hexValue? a, hexValue? b with
    | some x, some y => Char.ofNat (x * 16 + y) :: percentChars rest
    | _, _ => '%' :: percentChars (a :: b :: rest)
  | c :: rest => c :: percentChars rest

/-- The order of pieces: by number, then by text. -/
def Piece.le (a b : Piece) : Bool :=
  let key (p : Piece) : Nat := p.number.getD 0
  if key a ≠ key b then key a < key b
  else if a.text ≠ b.text then a.text.toList < b.text.toList
  else !a.isEncoded || b.isEncoded

/-- Where pieces with and without numbers meet first, whether the first of them has one. -/
def mixed? (pieces : List Piece) : Option Bool :=
  ((pieces.zip pieces.tail).find? fun (a, b) => a.number.isSome != b.number.isSome).map
    fun (a, _) => a.number.isSome

/-- A value together with its own character set, if it says one. -/
structure Value where
  charset : Option String
  text : String
  deriving DecidableEq, Repr

/-- The value that pieces make. -/
def join (pieces : List Piece) : Except ContentTypeFault Value :=
  match mixed? pieces with
  | some startsNumbered => .error (.mixedPieces startsNumbered)
  | none =>
    let sorted := pieces.mergeSort Piece.le
    let text := sorted.flatMap fun p =>
      if p.isEncoded then percentChars p.text.toList else p.text.toList
    if sorted.any Piece.isEncoded then
      match Text.splitChars '\'' text with
      | charset :: _ :: first :: more =>
        .ok ⟨some (String.ofList charset), String.ofList (['\''].intercalate (first :: more))⟩
      | _ => .ok ⟨some "", String.ofList text⟩
    else .ok ⟨none, String.ofList text⟩

/-- The bytes of a text of first characters; others are written behind a backslash. -/
def firstBytes (text : String) : List UInt8 :=
  text.toList.flatMap fun c =>
    if c.toNat < 0x100 then [UInt8.ofNat c.toNat] else Utf8.encodeChar c

/-- The text of a value, read in its own character set if it can be. -/
def Value.plain (v : Value) : String :=
  match v.charset with
  | none => v.text
  | some name =>
    let read := (Charset.ofName? (if name = "" then "us-ascii" else name)).bind fun set =>
      ((set.decode (firstBytes v.text)).toOption.bind fun chars => chars.mapM id)
    match read with
    | some chars => if chars.contains replacement then v.text else String.ofList chars
    | none => v.text

/-- The parts behind the first one that are given in pieces under a name. -/
def piecesOf (name : String) (parts : List Part) : List Piece :=
  parts.filterMap fun p =>
    match pieceName? p.name with
    | some (word, number) =>
      if word = name then
        some ⟨number, unquote p.value, p.name.toList.getLast? = some '*'⟩
      else none
    | none => none

/-- Whether some pieces behind the first part cannot be put together, whatever their name. -/
def fault? (parts : List Part) : Option ContentTypeFault :=
  (parts.filterMap fun p => (pieceName? p.name).map Prod.fst).findSome? fun name =>
    match join (piecesOf name parts) with
    | .error fault => some fault
    | .ok _ => none

/-- The value under a name: of the first part that has the name, or of pieces. -/
def value? (name : String) (contentType : String) : Except ContentTypeFault (Option Value) :=
  match parts contentType with
  | [] => .ok none
  | first :: rest =>
    match fault? rest with
    | some fault => .error fault
    | none =>
      let plain := (first :: rest).find? fun p => Text.lower p.name = name
      match plain, piecesOf name rest with
      | some p, _ => .ok (some ⟨none, unquote p.value⟩)
      | none, [] => .ok none
      | none, pieces => (join pieces).map some

/-- The name of the character set that a content type names, if it names one in ASCII. -/
def charsetName? (contentType : String) : Except ContentTypeFault (Option String) := do
  match (← value? "charset" contentType).map Value.plain with
  | some name =>
    return if name.toList.all (·.toNat < 0x80) then some (Text.lower name) else none
  | none => return none

/-- The character set of a body: the one that its content type names, if it is known. -/
def charset (contentType : Option String) : Except ContentTypeFault Charset :=
  match contentType with
  | none => .ok .utf8
  | some text =>
    match charsetName? text with
    | .error fault => .error fault
    | .ok none => .ok .utf8
    | .ok (some name) =>
      if name.toList.contains '\x00' then .error .embeddedNull
      else .ok ((Charset.ofName? name).getD .utf8)

end ContentType

end QueryTools
