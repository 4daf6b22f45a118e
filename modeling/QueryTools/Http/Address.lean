import QueryTools.Http.Host.Name
import QueryTools.Http.Host.Number
import QueryTools.Text.Encoding

/-!
# Addresses

The normal form of an address: the scheme in small letters, no socket where it is the usual one, a
path that has no dots left to resolve, and percent signs for characters that cannot stand where they
do.  Addresses of the web and of files have more rules than others: their hosts are names in ASCII
or numbers, a backslash is a slash, and their path is never empty.
-/

namespace QueryTools

/-- Why a text is no address. -/
inductive AddressFault where
  | emptyText
  | noScheme
  | noHost
  | badName
  | badCharacter
  | badNumber
  | badGroups
  | badSocket
  deriving DecidableEq, Repr

/-- The wording of a fault. -/
def AddressFault.message : AddressFault → String
  | .emptyText => "input is empty"
  | .noScheme => "relative URL without a base"
  | .noHost => "empty host"
  | .badName => "invalid international domain name"
  | .badCharacter => "invalid domain character"
  | .badNumber => "invalid IPv4 address"
  | .badGroups => "invalid IPv6 address"
  | .badSocket => "invalid port number"

/-- The rules that a scheme has for what follows it. -/
inductive SchemeRules where
  | web
  | file
  | general
  deriving DecidableEq, Repr

/-- The path of an address. -/
inductive Path where
  | segments (list : List (List Char))
  /-- A text that is not divided. -/
  | plain (text : List Char)
  deriving DecidableEq, Repr

/-- Where the path of an address leads from. -/
structure Authority where
  /-- What stands before the host, with the sign that ends it. -/
  credentials : List Char := []
  host : List Char := []
  /-- The number of the socket, if it is not the usual one. -/
  socket : Option Nat := none
  deriving DecidableEq, Repr

/-- An address in its parts, each part in its normal form. -/
structure Address where
  scheme : String
  authority : Option Authority
  path : Path
  /-- What follows the path, with the signs that begin query and fragment. -/
  tail : List Char
  deriving DecidableEq, Repr

/-- The rules of a scheme. -/
def SchemeRules.of (scheme : String) : SchemeRules :=
  if ["http", "https", "ws", "wss", "ftp"].contains scheme then .web
  else if scheme = "file" then .file
  else .general

/-- Whether a character divides the parts of an address after its scheme. -/
def SchemeRules.isSlash (rules : SchemeRules) (c : Char) : Bool :=
  c == '/' || (rules != .general && c == '\\')

namespace Address

/-- A byte behind a percent sign. -/
def percentByte (b : UInt8) : List Char :=
  let digit (n : Nat) : Char := if n < 10 then Char.ofNat (48 + n) else Char.ofNat (55 + n)
  ['%', digit (b.toNat / 16), digit (b.toNat % 16)]

/-- A text in which the characters of a set, control characters and all that is not ASCII are
written as bytes. -/
def percentEncode (set : List Char) (cs : List Char) : List Char :=
  cs.flatMap fun c =>
    if c.toNat ≤ 0x1f || 0x7f ≤ c.toNat || set.contains c then
      (Utf8.encodeChar c).flatMap percentByte
    else [c]

/-- The value of a hexadecimal digit of either case. -/
def hexValue? (c : Char) : Option Nat :=
  let c := c.toLower
  if c.isDigit then some (c.toNat - 48) else if 'a' ≤ c ∧ c ≤ 'f' then some (c.toNat - 87) else none

/-- The bytes of a text in which a percent sign with two digits stands for a byte. -/
def percentDecode : List Char → List UInt8
  | [] => []
  | '%' :: a :: b :: rest =>
    match hexValue? a, hexValue? b with
    | some x, some y => UInt8.ofNat (x * 16 + y) :: percentDecode rest
    | _, _ => '%'.toUInt8 :: percentDecode (a :: b :: rest)
  | c :: rest => Utf8.encodeChar c ++ percentDecode rest

/-- The characters that a fragment cannot hold. -/
def fragmentSet : List Char := [' ', '"', '<', '>', '`']

/-- The characters that a query cannot hold. -/
def querySet (rules : SchemeRules) : List Char :=
  [' ', '"', '#', '<', '>'] ++ if rules = .general then [] else ['\'']

/-- The characters that a path cannot hold. -/
def pathSet : List Char := fragmentSet ++ ['#', '?', '\x7b', '\x7d']

/-- The characters that names and passwords cannot hold. -/
def credentialSet : List Char := pathSet ++ ['/', ':', ';', '=', '@', '[', '\\', ']', '^', '|']

/-- The characters that a host cannot hold where it need be no name. -/
def opaqueSet : List Char :=
  ['\x00', '\t', '\n', '\r', ' ', '#', '/', ':', '<', '>', '?', '@', '[', '\\', ']', '^', '|']

/-- Parts at the slashes. -/
def divide (rules : SchemeRules) : List Char → List (List Char)
  | [] => [[]]
  | c :: rest =>
    let parts := divide rules rest
    if rules.isSlash c then [] :: parts
    else match parts with
      | part :: more => (c :: part) :: more
      | [] => [[c]]

/-- The number of dots that a segment of a path stands for, if it stands for one or two. -/
def dots (segment : List Char) : Option Nat :=
  let rec count : List Char → Option Nat
    | [] => some 0
    | '.' :: rest => (count rest).map (· + 1)
    | '%' :: '2' :: e :: rest => if e == 'e' || e == 'E' then (count rest).map (· + 1) else none
    | _ => none
  (count segment).bind fun n => if n = 1 ∨ n = 2 then some n else none

/-- Whether a segment names a drive. -/
def isDrive : List Char → Bool
  | [letter, sign] => letter.isAlpha && (sign == ':' || sign == '|')
  | _ => false

/-- The segments before two dots, the last first; what names a drive stays. -/
def shorten : List (List Char) → List (List Char)
  | [] => []
  | segment :: before => if isDrive segment then segment :: before else before

/-- The segments of a path, those before given the last first, with dots resolved; the drive that
begins the path of a file is written with a colon. -/
def resolve (rules : SchemeRules) (before : List (List Char)) :
    List (List Char) → List (List Char)
  | [] => before.reverse
  | segment :: rest =>
    let last := rest.isEmpty
    match dots segment with
    | some 1 => resolve rules (if last then [] :: before else before) rest
    | some _ => resolve rules (if last then [] :: shorten before else shorten before) rest
    | none =>
      let written :=
        if rules = .file && before.isEmpty && isDrive segment then segment.take 1 ++ [':']
        else percentEncode pathSet segment
      resolve rules (written :: before) rest

/-- The text of the groups in brackets that a host is written in. -/
def readBrackets (cs : List Char) : Except AddressFault (List Char) :=
  match cs.reverse with
  | ']' :: inner =>
    match Host.readGroups? (inner.reverse.drop 1) with
    | some groups => .ok ('[' :: Host.writeGroups groups ++ [']'])
    | none => .error .badGroups
  | _ => .error .badGroups

/-- A host that has to be a name or a number. -/
def readName (cs : List Char) : Except AddressFault (List Char) :=
  match (Utf8.decode (percentDecode cs)).toOption.bind Host.name? with
  | none => .error .badName
  | some [] => .error .noHost
  | some name =>
    let labels := Text.splitChars '.' name
    let parts := if labels.getLast? == some [] && 1 < labels.length then labels.dropLast else labels
    if (parts.getLast?).any Host.endsInNumber then
      match Host.readBytes? parts with
      | some bytes => .ok (Host.writeBytes bytes)
      | none => .error .badNumber
    else .ok name

/-- The normal form of a host. -/
def readHost (rules : SchemeRules) (cs : List Char) : Except AddressFault (List Char) :=
  if cs.head? = some '[' then readBrackets cs
  else if rules ≠ .general then readName cs
  else if cs.any opaqueSet.contains then .error .badCharacter
  else .ok (percentEncode [] cs)

/-- The socket that a scheme has where none is named. -/
def usualSocket? : String → Option Nat
  | "http" | "ws" => some 80
  | "https" | "wss" => some 443
  | "ftp" => some 21
  | _ => none

/-- The socket that a text begins with, unless it is the usual one, and what follows. -/
def readSocket (scheme : String) (cs : List Char) : Except AddressFault (Option Nat × List Char) :=
  let digits := cs.takeWhile Char.isDigit
  let rest := cs.drop digits.length
  let n := digits.foldl (fun n c => n * 10 + (c.toNat - 48)) 0
  if 0xffff < n || !(rest.head?.all ['/', '\\', '?', '#'].contains) then .error .badSocket
  else .ok (if digits.isEmpty || some n == usualSocket? scheme then none else some n, rest)

/-- What stands before the host, with the sign that ends it. -/
def readCredentials (cs : List Char) : List Char :=
  let name := percentEncode credentialSet (cs.takeWhile (· != ':'))
  let password := percentEncode credentialSet ((cs.dropWhile (· != ':')).drop 1)
  let text := name ++ if password.isEmpty then [] else ':' :: password
  if text.isEmpty then [] else text ++ ['@']

/-- The parts of a text around the last of a character, the first part being none without it. -/
def splitLast (c : Char) (cs : List Char) : Option (List Char) × List Char :=
  let after := (cs.reverse.takeWhile (· != c)).reverse
  if after.length < cs.length then (some (cs.take (cs.length - after.length - 1)), after)
  else (none, cs)

/-- What follows a path: query and fragment, each behind its sign. -/
def readTail (rules : SchemeRules) (cs : List Char) : List Char :=
  let query := cs.takeWhile (· != '#')
  let fragment := cs.drop query.length
  let shown (set : List Char) : List Char → List Char
    | [] => []
    | sign :: rest => sign :: percentEncode set rest
  shown (querySet rules) query ++ shown fragmentSet fragment

/-- Whether a character ends what a path leads from. -/
def endsAuthority (rules : SchemeRules) (c : Char) : Bool :=
  rules.isSlash c || c == '?' || c == '#'

/-- The host that a text begins with, in which colons stand in brackets only, and what follows. -/
def splitHost (rules : SchemeRules) (inBrackets : Bool) : List Char → List Char × List Char
  | [] => ([], [])
  | c :: rest =>
    if endsAuthority rules c || (c == ':' && !inBrackets) then ([], c :: rest)
    else
      let (host, after) := splitHost rules (c == '[' || (inBrackets && c != ']')) rest
      (c :: host, after)

/-- A path and what follows it. -/
def splitPath (cs : List Char) : List Char × List Char :=
  let path := cs.takeWhile fun c => c != '?' && c != '#'
  (path, cs.drop path.length)

/-- The segments of the path behind a host. -/
def readPath (rules : SchemeRules) (path : List Char) : List (List Char) :=
  match path with
  | [] => if rules = .general then [] else [[]]
  | c :: rest => resolve rules [] (divide rules (if rules.isSlash c then rest else c :: rest))

/-- What follows the slashes behind a scheme. -/
def readAuthority (scheme : String) (cs : List Char) : Except AddressFault Address := do
  let rules := SchemeRules.of scheme
  let (found, _) := splitLast '@' (cs.takeWhile fun c => !endsAuthority rules c)
  let place := cs.drop ((found.map fun before => before.length + 1).getD 0)
  if found = some [] && place.head?.any (endsAuthority rules) then throw .noHost
  let credentials := readCredentials (found.getD [])
  let (text, after) := splitHost rules false place
  if text.isEmpty && (rules ≠ .general || after.head? = some ':' || !credentials.isEmpty) then
    throw .noHost
  let host ← readHost rules text
  let (socket, rest) ← match after with
    | ':' :: digits => readSocket scheme digits
    | _ => .ok (none, after)
  let (path, tail) := splitPath rest
  return { scheme
           authority := some { credentials, host, socket }
           path := .segments (readPath rules path)
           tail := readTail rules tail }

/-- What follows the scheme of a file. -/
def readFile (scheme : String) (cs : List Char) : Except AddressFault Address := do
  let (host, after) ← match cs with
    | a :: b :: rest =>
      if SchemeRules.file.isSlash a && SchemeRules.file.isSlash b then
        let text := rest.takeWhile fun c => !endsAuthority .file c
        if text.isEmpty || isDrive text then .ok ([], rest)
        else do
          let host ← readHost .file text
          .ok (if host = "localhost".toList then [] else host, rest.drop text.length)
      else .ok ([], cs)
    | _ => .ok ([], cs)
  let (path, tail) := splitPath after
  let segments := readPath .file path
  let shown := segments.dropWhile List.isEmpty
  return { scheme
           authority := some { host := if segments.head?.any isDrive then [] else host }
           path := .segments (if shown.isEmpty then [[]] else shown)
           tail := readTail .file tail }

/-- What follows a scheme without rules of its own. -/
def readGeneral (scheme : String) (cs : List Char) : Except AddressFault Address :=
  match cs with
  | '/' :: '/' :: rest => readAuthority scheme rest
  | '/' :: rest =>
    let (path, tail) := splitPath rest
    .ok { scheme
          authority := none
          path := .segments (resolve .general [] (divide .general path))
          tail := readTail .general tail }
  | cs =>
    let (path, tail) := splitPath cs
    .ok { scheme
          authority := none
          path := .plain (percentEncode [] path)
          tail := readTail .general tail }

/-- The address that a scheme and what follows it make. -/
def read (scheme : String) (cs : List Char) : Except AddressFault Address :=
  match SchemeRules.of scheme with
  | .web => readAuthority scheme (cs.dropWhile SchemeRules.web.isSlash)
  | .file => readFile scheme cs
  | .general => readGeneral scheme cs

/-- The text of what a path leads from. -/
def authorityText (a : Authority) : String :=
  "//" ++ String.ofList (a.credentials ++ a.host)
    ++ ((a.socket.map fun n => ":" ++ toString n).getD "")

/-- The text of a path; one that could be taken for a host begins with a dot. -/
def pathText (hasAuthority : Bool) : Path → String
  | .plain text => String.ofList text
  | .segments list =>
    let isAmbiguous := !hasAuthority && list.head? = some [] && 1 < list.length
    (if isAmbiguous then "/." else "")
      ++ String.join (list.map fun s => "/" ++ String.ofList s)

/-- The text of an address. -/
def text (a : Address) : String :=
  a.scheme ++ ":" ++ ((a.authority.map authorityText).getD "")
    ++ pathText a.authority.isSome a.path ++ String.ofList a.tail

/-- The scheme of an address and what follows it. -/
def splitScheme (cs : List Char) : Option (String × List Char) :=
  let scheme := cs.takeWhile fun c => c.isAlphanum || c == '+' || c == '-' || c == '.'
  match scheme, cs.drop scheme.length with
  | c :: _, ':' :: rest => if c.isAlpha then some (Text.lower (String.ofList scheme), rest) else none
  | _, _ => none

/-- The normal form of an address. -/
def normal (address : String) : Except AddressFault String :=
  if address = "" then .error .emptyText
  else
    let cs := Text.trimBy (fun c => c.toNat ≤ 0x20) address.toList
    match splitScheme (cs.filter fun c => c != '\t' && c != '\n' && c != '\r') with
    | none => .error .noScheme
    | some (scheme, rest) => (read scheme rest).map text

end Address

end QueryTools
